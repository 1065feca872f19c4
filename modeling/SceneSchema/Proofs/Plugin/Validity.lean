import SceneSchema.Proofs.Plugin.LoaderWords
import SceneSchema.Proofs.Plugin.Opening

/-!
# When a path counts as a module file

Whoever asks whether a path names a module file has a module opened: the class is what stands before
the suffix in the path's file name, and it is looked for in the directory that the path is in
(`Path.home`). There the name of the file is put together anew, from the class and the suffix. So it
is the file under the path that is opened, if the path ends in that very name; the letters of the
suffix may be of the other case, though, and slashes may follow.

* `Plugin.isValid_iff_opened` — whatever the path is, the answer is about the file that is opened.
* `FileTree.resolve?_join_home` — a path that ends in the name leads to the file that is opened; and
  if no word of the loader is in it, then the loader opens that file (`Plugin.opensAsIs_join_home`).

**Main statement** (`Plugin.isValid_iff_module`): if the path is spelled as the name that is put
together (`ModuleFile.WellSpelled`), then it is valid exactly if it leads to a library with all the
entry points that the mode needs, whatever other files there are. In other spellings, a path that
leads nowhere may be valid (`Plugin.isValid_misspelled`).
-/

namespace SceneSchema

/-! ### The directory of a path -/

namespace Path

variable {path : String} {name : EntryName}

/-- The path is the name, or ends in it behind a slash. -/
def EndsIn (path name : String) : Prop := path = name ∨ ∃ front, path = front ++ "/" ++ name

/-- A path that is the name of an entry is in the working directory. -/
theorem home_entryName (name : EntryName) : home name.text = "." := by
  have single : pieces '/' name.text.toList = [name.text.toList] :=
    pieces_of_not_mem (slash_not_mem name)
  have nonempty : name.text.toList ≠ [] := mt String.toList_eq_nil_iff.1 (text_ne_empty name)
  have parent : parent? name.text = some "" := by
    rw [parent?, single]
    exact (if_pos rfl).trans (if_neg nonempty)
  rw [home, parent]
  rfl

/-- A path that ends in the name of an entry is that name, or the path of an entry. -/
theorem EndsIn.cases (ends : EndsIn path name.text) :
    path = name.text ∨ ∃ dir, dir ≠ "" ∧ path = join dir name.text := by
  rcases ends with rfl | ⟨front, rfl⟩
  · exact .inl rfl
  · have given : front ++ "/" ≠ "" := by simp
    refine .inr ⟨front ++ "/", given, ?_⟩
    rw [← String.toList_inj, toList_join given, if_pos (by simp), String.toList_append]

/-- A path that ends in the name of an entry has it as its file name. -/
theorem EndsIn.fileName? (ends : EndsIn path name.text) : fileName? path = some name.text := by
  rcases ends.cases with rfl | ⟨dir, given, rfl⟩
  · exact fileName?_text name
  · obtain ⟨ps, -, cut, -⟩ := pieces_join given name
    exact fileName?_of_pieces cut

end Path

/-- A path that ends in the name of an entry leads where the name does, seen from the directory that
the path is in, unless one of them is too long. -/
theorem FileTree.resolve?_join_home {α : Type} {t : FileTree α} {path : String} {name : EntryName}
    (ends : Path.EndsIn path name.text) (fits : path.utf8ByteSize ≤ maxPathBytes)
    (bare : '/' ∉ path.toList → path.utf8ByteSize + 2 ≤ maxPathBytes) :
    t.resolve? (Path.join (Path.home path) name.text) = t.resolve? path := by
  rcases ends.cases with rfl | ⟨dir, given, rfl⟩
  · rw [Path.home_entryName, resolve?_join_here name (bare (Path.slash_not_mem name))]
  · obtain ⟨up, parent, given', -, same⟩ := resolve?_join_parent? (t := t) given name
    rw [Path.home_of_parent? parent given', same fits]

namespace ModuleFile

variable {path stem : String} {proxy : Bool}

/-- The path is spelled as that of the class's module file: it ends in the name of the file, with
nothing behind, and is not too long, nor too long behind a dot and a slash if it has none. -/
structure Spells (path stem : String) (proxy : Bool) : Prop where
  /-- It is the name of the file, or ends in it behind a slash. -/
  ends : Path.EndsIn path (name stem proxy)
  /-- The platform takes a path of this length, -/
  fits : path.utf8ByteSize ≤ FileTree.maxPathBytes
  /-- also with a dot and a slash in front, if it is put in front of a bare name. -/
  bare : '/' ∉ path.toList → path.utf8ByteSize + 2 ≤ FileTree.maxPathBytes

/-- The path is spelled as that of the module file of the class that is read off it, if one is. -/
def WellSpelled (path : String) (proxy : Bool) : Prop :=
  ∀ stem, stripSuffix? path proxy = some stem → Spells path stem proxy

/-- A path that is spelled for a class has the file name of its module. -/
theorem Spells.fileName? (free : '/' ∉ stem.toList) (spells : Spells path stem proxy) :
    Path.fileName? path = some (name stem proxy) :=
  have ends : Path.EndsIn path (entry stem free proxy).text := spells.ends
  ends.fileName?

/-- A path is well spelled if it is spelled for some class: only this class can be read off it. -/
theorem Spells.wellSpelled (given : stem ≠ "") (free : '/' ∉ stem.toList)
    (spells : Spells path stem proxy) : WellSpelled path proxy := by
  intro stem' strips
  rw [stripSuffix?_name (spells.fileName? free), if_neg given] at strips
  exact Option.some.inj strips ▸ spells

end ModuleFile

/-- The library has the entry points that a module needs in the mode. -/
def Library.suffices (l : Library) (proxy : Bool) : Bool :=
  decide (l.declare = .present) &&
    (proxy || (decide (l.create = .present) && decide (l.destroy = .present)))

namespace Plugin

variable {w : World} {ws : List LoaderPath.Word} {path : String} {proxy : Bool}

/-- An entry point can be asked for exactly if the library exports it. -/
theorem isOk_ask_iff {className path : String} {proxy : Bool} {l : Library} {entry : EntryPoint} :
    ((opened className path proxy l).ask entry).isOk = true ↔ l.exports entry = .present := by
  simp only [ask, opened]
  rcases l.exports entry with _ | _ | _ <;> simp [Except.isOk, Except.toBool]

/-! ### What is opened -/

/-- A path that a class can be read off is valid if the module of the class opens from the
directory that it is in. -/
theorem isValid_of_stripSuffix? {stem : String}
    (strips : ModuleFile.stripSuffix? path proxy = some stem) : isValid w path proxy =
      match acquire w stem [Path.home path] proxy with
      | .error _ => false
      | .ok p =>
          (p.ask .declare).isOk && (proxy || ((p.ask .create).isOk && (p.ask .destroy).isOk)) := by
  rw [isValid, strips]
  rfl

/-- **The answer is about the file that is opened**: the one in the directory of the path, under the
name of the class that the path's file name leads to. -/
theorem isValid_iff_opened : isValid w path proxy = true ↔
    ∃ stem l, ModuleFile.stripSuffix? path proxy = some stem ∧
      w.files.isFile (Path.join (Path.home path) (ModuleFile.name stem proxy)) = true ∧
      w.load (Path.join (Path.home path) (ModuleFile.name stem proxy)) = some l ∧
      l.suffices proxy = true := by
  rcases strips : ModuleFile.stripSuffix? path proxy with _ | stem
  · simp [isValid, strips]
  rw [isValid_of_stripSuffix? strips]
  by_cases file : w.files.isFile (Path.join (Path.home path) (ModuleFile.name stem proxy)) = true
  · simp only [acquire_of_findFile? (SearchPath.findFile?_singleton.2 ⟨rfl, file⟩), openAt]
    rcases loaded : w.load (Path.join (Path.home path) (ModuleFile.name stem proxy)) with _ | l
    · simp [loaded]
    · simp [loaded, isOk_ask_iff, Library.exports, Library.suffices, file]
  · have none : SearchPath.findFile? w.files (ModuleFile.name stem proxy) [Path.home path] = none :=
      SearchPath.findFile?_eq_none_iff.2 (by simpa using file)
    simp [acquire_of_not_found _ none, file]

/-- The path of the file that is opened has no pieces but those of the path, and a dot. -/
theorem opensAsIs_join_home {name : EntryName} (ends : Path.EndsIn path name.text)
    (loader : w.LoadsBy ws) (plain : LoaderPath.Plain ws path.toList) :
    w.OpensAsIs (Path.join (Path.home path) name.text) := by
  have slash := Path.slash_mem_join (Path.home_ne_empty path) name
  rcases ends.cases with rfl | ⟨dir, given, rfl⟩
  · have dot : LoaderPath.Plain ws ['.'] := LoaderPath.plain_of_not_mem (by decide)
    refine loader.opens _ slash ?_
    rw [Path.home_entryName, Path.toList_join (by decide)]
    exact (LoaderPath.plain_append_slash loader.free).2 ⟨dot, plain⟩
  · obtain ⟨up, parent, given', pieces, -⟩ :=
      FileTree.resolve?_join_parent? (t := w.files) given name
    rw [Path.home_of_parent? parent given'] at slash ⊢
    exact loader.opens_of_pieces_subset slash pieces plain

/-! ### Paths that are spelled as the name of the file -/

/-- If the path is spelled as that of the file that is opened, then the file is the one under the
path. -/
theorem opened_iff_content? {stem : String} (free : '/' ∉ stem.toList)
    (spells : ModuleFile.Spells path stem proxy) (loader : w.LoadsBy ws)
    (plain : LoaderPath.Plain ws path.toList) (l : Library) :
    w.files.isFile (Path.join (Path.home path) (ModuleFile.name stem proxy)) = true ∧
        w.load (Path.join (Path.home path) (ModuleFile.name stem proxy)) = some l ↔
      w.files.content? path = some (.library l) := by
  have ends : Path.EndsIn path (ModuleFile.entry stem free proxy).text := spells.ends
  have asIs := opensAsIs_join_home ends loader plain
  have same :
      w.files.content? (Path.join (Path.home path) (ModuleFile.entry stem free proxy).text) =
        w.files.content? path := by
    rw [FileTree.content?, FileTree.content?, FileTree.find?, FileTree.find?,
      FileTree.resolve?_join_home ends spells.fits spells.bare]
  show w.files.isFile (Path.join (Path.home path) (ModuleFile.entry stem free proxy).text) = true ∧
    w.load (Path.join (Path.home path) (ModuleFile.entry stem free proxy).text) = some l ↔ _
  rw [show w.load _ = _ from asIs, FileTree.library?_eq_some_iff, FileTree.isFile, same]
  exact and_iff_right_of_imp fun content => by rw [content]; rfl

/-- A path that is so spelled is valid by what is under it. -/
theorem isValid_iff_content? (spelled : ModuleFile.WellSpelled path proxy) (loader : w.LoadsBy ws)
    (plain : LoaderPath.Plain ws path.toList) : isValid w path proxy = true ↔
      ∃ stem l, stem ≠ "" ∧ Path.fileName? path = some (ModuleFile.name stem proxy) ∧
        w.files.content? path = some (.library l) ∧ l.suffices proxy = true := by
  rw [isValid_iff_opened]
  constructor
  · rintro ⟨stem, l, strips, file, loaded, enough⟩
    have free := ModuleFile.slash_not_mem_of_stripSuffix? strips
    have spells := spelled stem strips
    have content := (opened_iff_content? free spells loader plain l).1 ⟨file, loaded⟩
    exact ⟨stem, l, ModuleFile.ne_empty_of_stripSuffix? strips, spells.fileName? free, content,
      enough⟩
  · rintro ⟨stem, l, given, fileName, content, enough⟩
    have strips := ModuleFile.stripSuffix?_name fileName
    rw [if_neg given] at strips
    have free := ModuleFile.slash_not_mem_of_stripSuffix? strips
    have opened := (opened_iff_content? free (spelled stem strips) loader plain l).2 content
    exact ⟨stem, l, strips, opened.1, opened.2, enough⟩

/-- **A path is valid by the file that it leads to.** The answer is about the file that is opened
for the path, and about what the loader makes of it. Let the path be spelled as that of this file,
if there is one, and let no word of the loader be in it. Then it is valid exactly if it leads to a
library with the entry points that the mode needs and ends in the name of a module file, with
something in front of the suffix. So two worlds in which the path leads to the same content give the
same answer, whatever else is in them. -/
theorem isValid_iff_module (w : World) (path : String) (proxy : Bool) :
    (isValid w path proxy = true ↔
      ∃ stem l, ModuleFile.stripSuffix? path proxy = some stem ∧
        w.files.isFile (Path.join (Path.home path) (ModuleFile.name stem proxy)) = true ∧
        w.load (Path.join (Path.home path) (ModuleFile.name stem proxy)) = some l ∧
        l.suffices proxy = true) ∧
    (ModuleFile.WellSpelled path proxy → ∀ ws, w.LoadsBy ws → LoaderPath.Plain ws path.toList →
      (isValid w path proxy = true ↔
        ∃ stem l, stem ≠ "" ∧ Path.fileName? path = some (ModuleFile.name stem proxy) ∧
          w.files.content? path = some (.library l) ∧ l.suffices proxy = true) ∧
      ∀ (w' : World) ws', w'.LoadsBy ws' → LoaderPath.Plain ws' path.toList →
        w'.files.content? path = w.files.content? path →
          isValid w' path proxy = isValid w path proxy) := by
  refine ⟨isValid_iff_opened, fun spelled ws loader plain =>
    ⟨isValid_iff_content? spelled loader plain, fun w' ws' loader' plain' same => ?_⟩⟩
  rw [Bool.eq_iff_iff, isValid_iff_content? spelled loader plain,
    isValid_iff_content? spelled loader' plain', same]

/-! ### Files in a row, and one by itself -/

/-- The third of the directories in a row, without the others. -/
def loneDisk : FileTree FileContent :=
  ⟨[(nameC, .dir [(dialEntry, .file (.library fullLibrary))])], [], [], []⟩

/-- The world of that disk. -/
def loneWorld : World := .onDisk loneDisk []

/-- There is a complete library at this path. -/
theorem find?_loneDisk : loneDisk.find? "/c/Dial.so" = some (.file (.library fullLibrary)) := by
  have cut : Path.moves "/c/Dial.so" = [.stay, .down nameC, .down dialEntry] := by decide +kernel
  have start : FileTree.start "/c/Dial.so" loneDisk.workDir = [] := ite_self _
  rw [FileTree.find?_of_moves cut (by decide +kernel), start, FileTree.walk_stay rfl,
    FileTree.walk_down_dir rfl rfl rfl, FileTree.walk_down_file rfl rfl rfl, FileTree.walk_nil]
  rfl

/-- The statement at both disks: the library is valid on either, and what is no library is not. -/
theorem isValid_iff_module_row :
    ModuleFile.WellSpelled "/c/Dial.so" false ∧
      rowWorld.LoadsBy (LoaderPath.words "/") ∧ LoaderPath.Plain (LoaderPath.words "/")
        "/c/Dial.so".toList ∧
      isValid rowWorld "/c/Dial.so" false = true ∧
      loneWorld.LoadsBy (LoaderPath.words "/") ∧
      loneWorld.files.content? "/c/Dial.so" = rowWorld.files.content? "/c/Dial.so" ∧
      isValid loneWorld "/c/Dial.so" false = true ∧
      ModuleFile.WellSpelled "b/Dial.so" false ∧
      LoaderPath.Plain (LoaderPath.words "/") "b/Dial.so".toList ∧
      isValid rowWorld "b/Dial.so" false = false := by
  obtain ⟨-, -, broken, -, library⟩ := find?_rowDisk
  have content : rowWorld.files.content? "/c/Dial.so" = some (.library fullLibrary) := by
    rw [rowWorld, World.onDisk, FileTree.content?, library]
  have content' : loneWorld.files.content? "/c/Dial.so" = some (.library fullLibrary) := by
    rw [loneWorld, World.onDisk, FileTree.content?, find?_loneDisk]
  have spells : ModuleFile.Spells "/c/Dial.so" "Dial" false :=
    ⟨.inr ⟨"/c", by decide +kernel⟩, by decide +kernel, fun _ => by decide +kernel⟩
  have spells' : ModuleFile.Spells "b/Dial.so" "Dial" false :=
    ⟨.inr ⟨"b", by decide +kernel⟩, by decide +kernel, fun _ => by decide +kernel⟩
  have spelled := spells.wellSpelled (by decide) (by decide +kernel)
  have spelled' := spells'.wellSpelled (by decide) (by decide +kernel)
  have root : FileTree.fullName [] = "/" := by decide +kernel
  have loader : rowWorld.LoadsBy (LoaderPath.words "/") := root ▸ World.loadsBy_onDisk rowDisk []
  have loader' : loneWorld.LoadsBy (LoaderPath.words "/") := root ▸ World.loadsBy_onDisk loneDisk []
  have plain : LoaderPath.Plain (LoaderPath.words "/") "/c/Dial.so".toList :=
    LoaderPath.plain_of_not_mem (by decide +kernel)
  have plain' : LoaderPath.Plain (LoaderPath.words "/") "b/Dial.so".toList :=
    LoaderPath.plain_of_not_mem (by decide +kernel)
  obtain ⟨valid, alike⟩ := (isValid_iff_module rowWorld "/c/Dial.so" false).2 spelled _ loader plain
  have is_valid := valid.2 ⟨"Dial", fullLibrary, by decide, by decide +kernel, content, rfl⟩
  have same := content'.trans content.symm
  refine ⟨spelled, loader, plain, is_valid, loader', same,
    (alike loneWorld _ loader' plain same).trans is_valid, spelled', plain', ?_⟩
  have valid' := ((isValid_iff_module rowWorld "b/Dial.so" false).2 spelled' _ loader plain').1
  rw [← Bool.not_eq_true, valid']
  rintro ⟨stem, l, -, -, content, -⟩
  rw [rowWorld, World.onDisk, FileTree.content?, broken] at content
  cases content

/-- A path with the suffix in capital letters, and one with a slash at the end, lead to no file.
They are valid, since the file that is opened for them is another one. -/
theorem isValid_misspelled :
    rowDisk.isFile "/c/Dial.SO" = false ∧ isValid rowWorld "/c/Dial.SO" false = true ∧
      rowDisk.isFile "/c/Dial.so/" = false ∧ isValid rowWorld "/c/Dial.so/" false = true := by
  obtain ⟨-, -, -, -, library⟩ := find?_rowDisk
  have content : rowDisk.content? "/c/Dial.so" = some (.library fullLibrary) := by
    rw [FileTree.content?, library]
  have start (path : String) : FileTree.start path rowDisk.workDir = [] := ite_self _
  have valid {path : String} (home : Path.home path = "/c")
      (strips : ModuleFile.stripSuffix? path false = some "Dial") :
      isValid rowWorld path false = true := by
    have joined : Path.join "/c" (ModuleFile.name "Dial" false) = "/c/Dial.so" := by decide +kernel
    have asIs : rowWorld.OpensAsIs "/c/Dial.so" :=
      World.opensAsIs_onDisk _ _ (by decide +kernel) (by decide +kernel)
    have loaded : rowWorld.load "/c/Dial.so" = some fullLibrary :=
      asIs.trans (FileTree.library?_eq_some_iff.2 content)
    have file : rowDisk.isFile "/c/Dial.so" = true := by
      rw [FileTree.isFile, content]
      rfl
    refine isValid_iff_opened.2 ⟨"Dial", fullLibrary, strips, ?_, ?_, rfl⟩
    all_goals rw [home, joined]
    · exact file
    · exact loaded
  have capitals : Path.moves "/c/Dial.SO" =
      [.stay, .down nameC, .down ⟨"Dial.SO", by decide +kernel⟩] := by decide +kernel
  have trailing : Path.moves "/c/Dial.so/" = [.stay, .down nameC, .down dialEntry, .stay] := by
    decide +kernel
  refine ⟨?_, valid (by decide +kernel) (by decide +kernel), ?_,
    valid (by decide +kernel) (by decide +kernel)⟩
  · rw [FileTree.isFile, FileTree.content?, FileTree.find?_of_moves capitals (by decide +kernel),
      start, FileTree.walk_stay rfl, FileTree.walk_down_dir rfl rfl rfl,
      FileTree.walk_missing rfl rfl]
    rfl
  · rw [FileTree.isFile, FileTree.content?, FileTree.find?_of_moves trailing (by decide +kernel),
      start, FileTree.walk_stay rfl, FileTree.walk_down_dir rfl rfl rfl,
      FileTree.walk_down_file rfl rfl rfl, FileTree.walk_outside (by rintro entries ⟨⟩)]
    rfl

end Plugin

end SceneSchema
