import SceneSchema.Plugin.Loaded
import SceneSchema.Plugin.LoaderPath
import SceneSchema.Proofs.Plugin.FileNames

/-!
# Which file is opened for a class

The module of a class is opened from the first directory of a search path that has its file. Whether
it has is asked of the path that the directory and the file's name are joined to. If there is no
slash in the class's name, this asks for an entry of the directory (`FileTree.holds_iff`), whose
path has one component more (`Path.components_join`); with a slash it asks for something else.

* `SearchPath.findFile?_eq_some_iff` — a search stops at the first directory that has the file.
* `Plugin.acquire_of_locate` — what is acquired is what the file under the path holds, if the
  platform's loader opens the path as it stands (`World.OpensAsIs`). Otherwise it is what the loader
  makes of the path (`Plugin.openAt`).
* `Plugin.acquire_eq_moduleNotFound_iff`, `Plugin.acquire_of_first` — whatever the class is called,
  the first directory that has the file decides, and there is no module if none has.
* `Plugin.openedFrom_openAt` — what is opened is inside that directory, if the name has no slash.

**Main statement** (`Plugin.acquire_from_first`): a class is opened from the first directory that
has its module file, or not at all; with no slash in its name, from inside of that directory. A
class whose name has a slash may be opened from a place that no directory holds
(`Plugin.acquire_strays`).
-/

namespace SceneSchema

/-! ### Finding a file -/

namespace SearchPath

variable {α : Type} {t : FileTree α} {name path : String} {dirs : List String}

/-- A file is looked for in later directories only if the earlier ones do not have it. -/
theorem findFile?_append (name : String) (dirs more : List String) :
    findFile? t name (dirs ++ more) = (findFile? t name dirs).or (findFile? t name more) := by
  rw [findFile?, List.map_append, List.find?_append]
  rfl

/-- In one directory, the file is found if it is there. -/
theorem findFile?_singleton {dir : String} :
    findFile? t name [dir] = some path ↔ path = Path.join dir name ∧ t.isFile path = true := by
  rw [findFile?, List.map_singleton, List.find?_singleton]
  constructor
  · intro found
    split at found
    · rename_i file
      obtain rfl := Option.some.inj found
      exact ⟨rfl, file⟩
    · cases found
  · rintro ⟨rfl, file⟩
    rw [if_pos file]

/-- **A search stops at the first directory that has the file.** -/
theorem findFile?_eq_some_iff : findFile? t name dirs = some path ↔
    ∃ before d after, dirs = before ++ d :: after ∧ path = Path.join d name ∧
      (∀ e ∈ before, t.isFile (Path.join e name) = false) ∧ t.isFile path = true := by
  rw [findFile?, List.find?_map, Option.map_eq_some_iff]
  constructor
  · rintro ⟨d, found, rfl⟩
    obtain ⟨file, before, after, rfl, none⟩ := List.find?_eq_some_iff_append.1 found
    exact ⟨before, d, after, rfl, rfl, fun e there => by simpa using none e there, file⟩
  · rintro ⟨before, d, after, rfl, rfl, none, file⟩
    refine ⟨d, List.find?_eq_some_iff_append.2 ⟨file, before, after, rfl, fun e there => ?_⟩, rfl⟩
    simpa using none e there

end SearchPath

/-- The module file of a class whose name has no slash, as an entry of a directory. -/
def ModuleFile.entry (className : String) (free : '/' ∉ className.toList) (proxy : Bool) :
    EntryName :=
  ⟨name className proxy, isEntryName_name free proxy⟩

/-! ### What is in the file under a path -/

namespace Plugin

variable {w : World} {className path : String} {dirs : List String} {proxy : Bool}

/-- The module of a class that stands under a path, if what stands there is a library. -/
def ofContent (className path : String) (proxy : Bool) : Option FileContent → Except Error Plugin
  | some (.library l) => .ok (opened className path proxy l)
  | _ => .error (.moduleLoadFailed path .platform)

/-- What becomes of a path that is handed to the loader: the module of the class, or an error that
names the path. -/
def openAt (w : World) (className path : String) (proxy : Bool) : Except Error Plugin :=
  match w.load path with
  | some l => .ok (opened className path proxy l)
  | none => .error (.moduleLoadFailed path .platform)

/-- A path that the loader opens as it stands gives what the content of that file makes of it. -/
theorem openAt_of_opensAsIs (asIs : w.OpensAsIs path) : openAt w className path proxy =
    ofContent className path proxy (w.files.content? path) := by
  rw [openAt, show w.load path = _ from asIs, FileTree.library?]
  rcases w.files.content? path with _ | _ | l <;> rfl

/-- A module that is located is opened where it was found. -/
theorem acquire_of_located (found : locate w.files className dirs proxy = .ok path) :
    acquire w className dirs proxy = openAt w className path proxy := by
  rw [acquire, found]
  rfl

/-- **What is acquired is what the file under the path holds**, if the loader opens the path as it
stands. -/
theorem acquire_of_locate (found : locate w.files className dirs proxy = .ok path)
    (asIs : w.OpensAsIs path) :
    acquire w className dirs proxy =
      ofContent className path proxy (w.files.content? path) := by
  rw [acquire_of_located found, openAt_of_opensAsIs asIs]

/-- A module whose file is found is located there. -/
theorem locate_of_findFile? (found :
      SearchPath.findFile? w.files (ModuleFile.name className proxy) dirs = some path) :
    locate w.files className dirs proxy = .ok path := by
  have some_dir : dirs ≠ [] := by
    rintro rfl
    cases found
  rw [locate, if_neg some_dir, found]

/-! ### Whatever the class is called -/

/-- Where the file is found, there the module is opened, and what becomes of that is final. -/
theorem acquire_of_findFile? (found :
      SearchPath.findFile? w.files (ModuleFile.name className proxy) dirs = some path) :
    acquire w className dirs proxy = openAt w className path proxy :=
  acquire_of_located (locate_of_findFile? found)

/-- A module whose file is nowhere is not found, and the error names the directories. -/
theorem acquire_of_not_found (some_dir : dirs ≠ []) (none :
      SearchPath.findFile? w.files (ModuleFile.name className proxy) dirs = none) :
    acquire w className dirs proxy =
      .error (.moduleNotFound className (Path.joinList dirs)) := by
  rw [acquire, locate, if_neg some_dir, none]
  rfl

/-- No module is found exactly if no directory has the file. -/
theorem acquire_eq_moduleNotFound_iff (some_dir : dirs ≠ []) :
    acquire w className dirs proxy =
        .error (.moduleNotFound className (Path.joinList dirs)) ↔
      ∀ d ∈ dirs, w.files.isFile (Path.join d (ModuleFile.name className proxy)) = false := by
  rw [← SearchPath.findFile?_eq_none_iff]
  constructor
  · intro missing
    rcases found : SearchPath.findFile? w.files (ModuleFile.name className proxy) dirs with _ | path
    · rfl
    · rw [acquire_of_findFile? found, openAt] at missing
      split at missing <;> cases missing
  · exact acquire_of_not_found some_dir

/-- The first directory that has the file decides, whatever is in the later ones. -/
theorem acquire_of_first {before after : List String} {d : String}
    (none : ∀ e ∈ before, w.files.isFile (Path.join e (ModuleFile.name className proxy)) = false)
    (file : w.files.isFile (Path.join d (ModuleFile.name className proxy)) = true) :
    acquire w className (before ++ d :: after) proxy =
      openAt w className (Path.join d (ModuleFile.name className proxy)) proxy :=
  acquire_of_findFile?
    (SearchPath.findFile?_eq_some_iff.2 ⟨before, d, after, rfl, rfl, none, file⟩)

/-! ### A class with no slash in its name -/

/-- What was opened is the module file of the class in the directory: its path is the directory's
with the file's name as one more component. It gives a module or an error of that path, and if the
loader opens the path as it stands, the file decides which. -/
structure OpenedFrom (w : World) (className : String) (proxy : Bool) (d : String)
    (result : Except Error Plugin) : Prop where
  /-- A module that is opened has the path of the file in the directory. -/
  path_eq (p : Plugin) : result = .ok p → p.path = Path.join d (ModuleFile.name className proxy)
  /-- If none is, the error names this path. -/
  error_eq (e : Error) : result = .error e →
    e = .moduleLoadFailed (Path.join d (ModuleFile.name className proxy)) .platform
  /-- The path has one component more than that of the directory. -/
  inside : Path.components (Path.join d (ModuleFile.name className proxy)) =
    Path.components d ++ [.down (ModuleFile.name className proxy)]
  /-- If the loader opens the path as it stands, what the file holds decides between the two. -/
  content : w.OpensAsIs (Path.join d (ModuleFile.name className proxy)) →
    result = ofContent className (Path.join d (ModuleFile.name className proxy)) proxy
      (w.files.content? (Path.join d (ModuleFile.name className proxy)))

/-- Opening the file of a class in a directory is as described, if the class name has no slash. -/
theorem openedFrom_openAt {d : String} (free : '/' ∉ className.toList) (given : d ≠ "") :
    OpenedFrom w className proxy d
      (openAt w className (Path.join d (ModuleFile.name className proxy)) proxy) where
  path_eq p opened := by
    rw [openAt] at opened
    split at opened <;> cases opened
    rfl
  error_eq e failed := by
    rw [openAt] at failed
    split at failed <;> cases failed
    rfl
  inside := Path.components_join given (ModuleFile.entry className free proxy)
  content asIs := openAt_of_opensAsIs asIs

/-- **A class is opened from the first directory that has its module file.** No module is found
exactly if no directory, joined with the name of the file, leads to a file. Otherwise the first that
does is opened, and what becomes of that is final, whatever is in the later ones.

Let there be no slash in the name of the class, and no empty text among the directories. Then to
lead to a file is to hold it: no module is found exactly if no directory holds the file, otherwise
it is opened from the first one that does, and each module that is acquired stands in one of the
directories. -/
theorem acquire_from_first (w : World) (className : String) {dirs : List String}
    (some_dir : dirs ≠ []) (proxy : Bool) :
    (acquire w className dirs proxy =
        .error (.moduleNotFound className (Path.joinList dirs)) ↔
      ∀ d ∈ dirs, w.files.isFile (Path.join d (ModuleFile.name className proxy)) = false) ∧
    (∀ before d after, dirs = before ++ d :: after →
      (∀ e ∈ before, w.files.isFile (Path.join e (ModuleFile.name className proxy)) = false) →
      w.files.isFile (Path.join d (ModuleFile.name className proxy)) = true →
      acquire w className dirs proxy =
        openAt w className (Path.join d (ModuleFile.name className proxy)) proxy) ∧
    ∀ free : '/' ∉ className.toList, (∀ d ∈ dirs, d ≠ "") →
      (acquire w className dirs proxy =
          .error (.moduleNotFound className (Path.joinList dirs)) ↔
        ∀ d ∈ dirs, ¬ w.files.Holds d (ModuleFile.entry className free proxy)) ∧
      (∀ before d after, dirs = before ++ d :: after →
        (∀ e ∈ before, ¬ w.files.Holds e (ModuleFile.entry className free proxy)) →
        w.files.Holds d (ModuleFile.entry className free proxy) →
        OpenedFrom w className proxy d (acquire w className dirs proxy)) ∧
      ∀ p, acquire w className dirs proxy = .ok p →
        ∃ d ∈ dirs, w.files.Holds d (ModuleFile.entry className free proxy) ∧
          OpenedFrom w className proxy d (.ok p) := by
  refine ⟨acquire_eq_moduleNotFound_iff some_dir, ?_, fun free given => ?_⟩
  · rintro before d after rfl none file
    exact acquire_of_first none file
  have asks {d} (there : d ∈ dirs) : w.files.Holds d (ModuleFile.entry className free proxy) ↔
      w.files.isFile (Path.join d (ModuleFile.name className proxy)) = true :=
    FileTree.holds_iff (given d there) _
  refine ⟨?_, ?_, fun p opened => ?_⟩
  · rw [acquire_eq_moduleNotFound_iff some_dir]
    exact forall₂_congr fun d there => by rw [asks there, Bool.not_eq_true]
  · rintro before d after rfl none holds
    have here : d ∈ before ++ d :: after := by simp
    have none' (e) (there : e ∈ before) :
        w.files.isFile (Path.join e (ModuleFile.name className proxy)) = false := by
      rw [← Bool.not_eq_true, ← asks (List.mem_append_left _ there)]
      exact none e there
    rw [acquire_of_first none' ((asks here).1 holds)]
    exact openedFrom_openAt free (given d here)
  · rcases found : SearchPath.findFile? w.files (ModuleFile.name className proxy) dirs with _ | path
    · rw [acquire_of_not_found some_dir found] at opened
      cases opened
    · obtain ⟨file, d, here, rfl⟩ := SearchPath.isFile_of_findFile? found
      rw [acquire_of_findFile? found] at opened
      exact ⟨d, here, (asks here).2 file, opened ▸ openedFrom_openAt free (given d here)⟩

/-! ### Directories in a row -/

/-- The name of a module file. -/
def dialEntry : EntryName := ⟨"Dial.so", by decide +kernel⟩

/-- The name of the first directory. -/
def nameA : EntryName := ⟨"a", by decide +kernel⟩

/-- The name of the second directory. -/
def nameB : EntryName := ⟨"b", by decide +kernel⟩

/-- The name of the third directory. -/
def nameC : EntryName := ⟨"c", by decide +kernel⟩

/-- A library with all that there is to ask for. -/
def fullLibrary : Library := ⟨.present, .present, .present, .scripted⟩

/-- Three directories with an entry of the same name: a directory, a file that is no library, and a
library. -/
def rowDisk : FileTree FileContent :=
  ⟨[(nameA, .dir [(dialEntry, .dir [])]), (nameB, .dir [(dialEntry, .file .other)]),
    (nameC, .dir [(dialEntry, .file (.library fullLibrary))])], [], [], []⟩

/-- The world of that disk. -/
def rowWorld : World := .onDisk rowDisk []

/-- What is where on this disk. -/
theorem find?_rowDisk :
    rowDisk.find? "a" = some (.dir [(dialEntry, .dir [])]) ∧
      rowDisk.find? "a/Dial.so" = some (.dir []) ∧
      rowDisk.find? "b/Dial.so" = some (.file .other) ∧
      rowDisk.find? "a/../c/Dial.so" = some (.file (.library fullLibrary)) ∧
      rowDisk.find? "/c/Dial.so" = some (.file (.library fullLibrary)) := by
  have start (path : String) : FileTree.start path rowDisk.workDir = [] := ite_self _
  have dir : Path.moves "a" = [.down nameA] := by decide +kernel
  have first : Path.moves "a/Dial.so" = [.down nameA, .down dialEntry] := by decide +kernel
  have second : Path.moves "b/Dial.so" = [.down nameB, .down dialEntry] := by decide +kernel
  have aside : Path.moves "a/../c/Dial.so" = [.down nameA, .up, .down nameC, .down dialEntry] := by
    decide +kernel
  have rooted : Path.moves "/c/Dial.so" = [.stay, .down nameC, .down dialEntry] := by
    decide +kernel
  refine ⟨?_, ?_, ?_, ?_, ?_⟩
  · rw [FileTree.find?_of_moves dir (by decide +kernel), start, FileTree.walk_down_dir rfl rfl rfl,
      FileTree.walk_nil]
    rfl
  · rw [FileTree.find?_of_moves first (by decide +kernel), start,
      FileTree.walk_down_dir rfl rfl rfl, FileTree.walk_down_dir rfl rfl rfl, FileTree.walk_nil]
    rfl
  · rw [FileTree.find?_of_moves second (by decide +kernel), start,
      FileTree.walk_down_dir rfl rfl rfl, FileTree.walk_down_file rfl rfl rfl, FileTree.walk_nil]
    rfl
  · rw [FileTree.find?_of_moves aside (by decide +kernel), start,
      FileTree.walk_down_dir rfl rfl rfl, FileTree.walk_up rfl, FileTree.walk_down_dir rfl rfl rfl,
      FileTree.walk_down_file rfl rfl rfl, FileTree.walk_nil]
    rfl
  · rw [FileTree.find?_of_moves rooted (by decide +kernel), start, FileTree.walk_stay rfl,
      FileTree.walk_down_dir rfl rfl rfl, FileTree.walk_down_file rfl rfl rfl, FileTree.walk_nil]
    rfl

/-- Only the second and the third directory hold the file. -/
theorem holds_rowDisk :
    (∀ name, ¬ rowDisk.Holds "a" name) ∧ rowDisk.Holds "b" dialEntry ∧
      rowDisk.Holds "/c" dialEntry := by
  obtain ⟨dir, first, second, -, third⟩ := find?_rowDisk
  have path : Path.join "a" dialEntry.text = "a/Dial.so" := by decide +kernel
  have path' : Path.join "b" dialEntry.text = "b/Dial.so" := by decide +kernel
  have path'' : Path.join "/c" dialEntry.text = "/c/Dial.so" := by decide +kernel
  refine ⟨?_, ?_, ?_⟩
  · rintro name ⟨⟨names, listed, there⟩, file⟩
    rw [FileTree.entries?, dir] at listed
    obtain rfl : [dialEntry] = names := Option.some.inj listed
    obtain rfl := List.mem_singleton.1 there
    rw [path, FileTree.isFile, FileTree.content?, first] at file
    cases file
  · rw [FileTree.holds_iff (by decide), path', FileTree.isFile, FileTree.content?, second]
    rfl
  · rw [FileTree.holds_iff (by decide), path'', FileTree.isFile, FileTree.content?, third]
    rfl

/-- The statement at these directories: the entry of the first is no file and is passed over, that
of the second is opened and found broken, and the library in the third is not looked at. -/
theorem acquire_from_first_row :
    '/' ∉ "Dial".toList ∧ ["a", "b", "/c"] ≠ [] ∧ (∀ d ∈ ["a", "b", "/c"], d ≠ "") ∧
      ¬ rowDisk.Holds "a" dialEntry ∧ rowDisk.Holds "b" dialEntry ∧
      rowDisk.Holds "/c" dialEntry ∧
      acquire rowWorld "Dial" ["a"] false = .error (.moduleNotFound "Dial" "a") ∧
      acquire rowWorld "Dial" ["a", "b", "/c"] false =
        .error (.moduleLoadFailed "b/Dial.so" .platform) := by
  have free : '/' ∉ "Dial".toList := by decide +kernel
  have given : ∀ d ∈ ["a", "b", "/c"], d ≠ "" := by decide
  have entry : ModuleFile.entry "Dial" free false = dialEntry := by
    rw [ModuleFile.entry, dialEntry, EntryName.mk.injEq]
    decide +kernel
  obtain ⟨first, second, third⟩ := holds_rowDisk
  have some_dir' : ["a", "b", "/c"] ≠ [] := by decide
  refine ⟨free, some_dir', given, first _, second, third, ?_, ?_⟩
  · have some_dir : ["a"] ≠ [] := by decide
    obtain ⟨missing, -, -⟩ :=
      (acquire_from_first rowWorld "Dial" some_dir false).2.2 free (by decide)
    exact missing.2 fun d there => List.mem_singleton.1 there ▸ first _
  · obtain ⟨-, opens, -⟩ := (acquire_from_first rowWorld "Dial" some_dir' false).2.2 free given
    have opened := opens ["a"] "b" ["/c"] rfl
      (fun d there => List.mem_singleton.1 there ▸ first _) (entry ▸ second)
    have path : Path.join "b" (ModuleFile.name "Dial" false) = "b/Dial.so" := by decide +kernel
    have content := opened.content
    have file : rowWorld.files.content? "b/Dial.so" = some .other := by
      rw [rowWorld, World.onDisk, FileTree.content?, find?_rowDisk.2.2.1]
    rw [path, file] at content
    exact content (World.opensAsIs_onDisk _ _ (by decide +kernel) (by decide +kernel))

/-- With a slash in the name of the class, a module is opened from beside the only directory or from
the root, though the directory holds no file at all. -/
theorem acquire_strays :
    (∀ name, ¬ rowDisk.Holds "a" name) ∧
      (acquire rowWorld "../c/Dial" ["a"] false).map (·.path) = .ok "a/../c/Dial.so" ∧
      (acquire rowWorld "/c/Dial" ["a"] false).map (·.path) = .ok "/c/Dial.so" := by
  obtain ⟨-, -, -, aside, rooted⟩ := find?_rowDisk
  have acquires {className path : String}
      (joined : Path.join "a" (ModuleFile.name className false) = path) (slash : '/' ∈ path.toList)
      (plain : '$' ∉ path.toList)
      (content : rowDisk.find? path = some (.file (.library fullLibrary))) :
      (acquire rowWorld className ["a"] false).map (·.path) = .ok path := by
    have content : rowDisk.content? path = some (.library fullLibrary) := by
      rw [FileTree.content?, content]
    have found : SearchPath.findFile? rowDisk (ModuleFile.name className false) ["a"] = some path :=
      SearchPath.findFile?_singleton.2 ⟨joined.symm, by rw [FileTree.isFile, content]; rfl⟩
    have asIs : rowWorld.OpensAsIs path := World.opensAsIs_onDisk _ _ slash plain
    rw [acquire_of_locate (w := rowWorld) (locate_of_findFile? found) asIs]
    exact congrArg (Except.map _) (congrArg (ofContent className path false) content)
  exact ⟨holds_rowDisk.1,
    acquires (by decide +kernel) (by decide +kernel) (by decide +kernel) aside,
    acquires (by decide +kernel) (by decide +kernel) (by decide +kernel) rooted⟩

end Plugin

end SceneSchema
