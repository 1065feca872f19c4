import SceneSchema.Proofs.Disk.SearchOrder
import SceneSchema.Proofs.Inspect.Candidates
import SceneSchema.Proofs.Plugin.Validity
import SceneSchema.Proofs.Registry.Twins

/-!
# Candidates are what is loaded

A candidate of a scan is reported with a path. A registry that loads the class looks for the module
file on the search path, and whoever probes the candidate takes the class and the directory from its
path and looks for the file there. All three come to one file.

What is then opened is up to the platform's loader, which may read a path otherwise than it stands
(`World.OpensAsIs` says that it does not; `World.LoadsBy` when that is).

* `Registry.load_of_unkept` — a load is an acquisition, and a declaration by what was acquired.
* `Candidate.probed_of_mem_scan` — the path that a probe opens leads to the same place as the
  candidate's, and is made of the same pieces.
* `Candidate.Loads`, `loads_of_mem_scan` — all of this for one candidate.
* `Candidate.filter_scan` — a class with a module file on the search path is one candidate.

**Main statement** (`Candidate.scan_loads`): if all directories can be listed, then each candidate
is loaded from its path; each class with a module file on the search path is one candidate; and
candidates come in the order in which they are found. `scan_of_dollarDisk` is a candidate whose path
a loader does not open as it stands.
-/

namespace SceneSchema

/-- What a registry gets of a class that it lets a module declare. -/
def LoadedClass.declaredBy (scripts : Scripts) (c : SceneClass) (p : Plugin) :
    Except Error LoadedClass :=
  match p.declare scripts c with
  | (.ok _, c', p) => .ok ⟨c', .plugin p⟩
  | (.error e, _, _) => .error e

namespace Registry

variable {r : Registry} {name : String}

/-- What a load of a class that is not kept gives is what a fresh declaration gives. -/
theorem load_eq_declareFresh (new : r.get? name = none) (w : World) (ids : IdSource) :
    (r.load w name ids).1 = (r.declareFresh w name ids).1 := by
  rcases r.load_cases w name ids with ⟨l, kept, -⟩ | ⟨-, ⟨e, failed, run⟩ | ⟨l, made, run⟩⟩
  · rw [new] at kept
    cases kept
  · rw [run, failed]
  · rw [run, made]

/-- A class that is not built in is declared by its module, if there is one, in a call that
returns. -/
theorem declareFresh_of_foreign (foreign : r.builtins.lookup name = none) (w : World)
    (ids : IdSource) : (r.declareFresh w name ids).1 = (do
      let p ← Plugin.acquire w name r.dirs r.proxy
      LoadedClass.declaredBy w.scripts (.new ids.fresh name) p).mapError .returned := by
  rw [declareFresh, foreign]
  dsimp only
  rcases Plugin.acquire w name r.dirs r.proxy with e | p
  · rfl
  simp only [bind, Except.bind, LoadedClass.declaredBy]
  rcases p.declare w.scripts (.new ids.fresh name) with ⟨_ | _, c, q⟩ <;> rfl

/-- A registry that neither keeps a class nor has it built in lets its module declare it. -/
theorem load_of_unkept (new : r.get? name = none) (foreign : r.builtins.lookup name = none)
    (w : World) (ids : IdSource) : (r.load w name ids).1 = (do
      let p ← Plugin.acquire w name r.dirs r.proxy
      LoadedClass.declaredBy w.scripts (.new ids.fresh name) p).mapError .returned :=
  (load_eq_declareFresh new w ids).trans (declareFresh_of_foreign foreign w ids)

/-- So the load returns. -/
theorem load_ne_unwound (new : r.get? name = none) (foreign : r.builtins.lookup name = none)
    (w : World) (ids : IdSource) : (r.load w name ids).1 ≠ .error .unwound := by
  have returns {α : Type} (x : Except Error α) : x.mapError .returned ≠ .error Failure.unwound := by
    rcases x with e | a
    · exact nofun
    · exact nofun
  rw [load_of_unkept new foreign]
  exact returns _

end Registry

namespace Inspect.Candidate

open Session (lampFile lampLibrary lampScript lampDisk content?_lampDisk)

variable {w : World} {files : FileTree FileContent} {dirs : List String} {proxy : Bool}
  {c : Candidate}

/-! ### One candidate -/

/-- The candidate is valid by what the file under its path holds. -/
def ValidByContent (w : World) (proxy : Bool) (c : Candidate) : Prop :=
  Plugin.isValid w c.path proxy = true ↔
    ∃ l, w.files.content? c.path = some (.library l) ∧ l.suffices proxy = true

/-- **The candidate is what is loaded**: a search for the class's module file finds its path, and
the path that is opened to probe it leads to the same place. If the loader opens these paths as they
stand, then what the file holds decides what becomes of a load, and whether the candidate is valid.
A loader that has words of its own opens both as they stand if none of the words is in the
candidate's path. -/
structure Loads (w : World) (dirs : List String) (proxy : Bool) (c : Candidate) : Prop where
  /-- The search for the module file finds the path, -/
  found : SearchPath.findFile? w.files (ModuleFile.name c.className proxy) dirs = some c.path
  /-- and so does a load. -/
  located : Plugin.locate w.files c.className dirs proxy = .ok c.path
  /-- Whoever probes the path reads the class and the directory off it, and opens a path that
  leads to the same place. -/
  probed : ∃ up path, ModuleFile.stripSuffix? c.path proxy = some c.className ∧
    Path.parent? c.path = some up ∧ up ≠ "" ∧
    Plugin.locate w.files c.className [up] proxy = .ok path ∧
    w.files.resolve? path = w.files.resolve? c.path ∧
    (w.OpensAsIs path → c.ValidByContent w proxy)
  /-- What the file holds decides what a load gives. -/
  loaded : w.OpensAsIs c.path → ∀ (r : Registry) (ids : IdSource),
    r.dirs = dirs → r.proxy = proxy → r.get? c.className = none →
      r.builtins.lookup c.className = none → (r.load w c.className ids).1 = (do
        let p ← Plugin.ofContent c.className c.path proxy (w.files.content? c.path)
        LoadedClass.declaredBy w.scripts (.new ids.fresh c.className) p).mapError .returned
  /-- Where no word of the loader is in the path, it decides whether the candidate is valid, too.
  -/
  plain (ws : List LoaderPath.Word) : w.LoadsBy ws → LoaderPath.Plain ws c.path.toList →
    w.OpensAsIs c.path ∧ c.ValidByContent w proxy

/-- The path of a candidate is that of an entry. -/
theorem path_of_mem_scan (given : ∀ d ∈ dirs, d ≠ "") (may : ∀ d ∈ dirs, files.mayList d = true)
    (there : c ∈ scan files dirs proxy) : ∃ (dir : String) (entry : EntryName), dir ≠ "" ∧
      entry.text = ModuleFile.name c.className proxy ∧ c.path = Path.join dir entry.text ∧
      files.isFile c.path = true := by
  obtain ⟨-, free, found⟩ := (mem_scan_iff given may).1 there
  obtain ⟨file, dir, listed, path⟩ := SearchPath.isFile_of_findFile? found
  exact ⟨dir, ⟨_, ModuleFile.isEntryName_name free proxy⟩, given dir listed, rfl, path, file⟩

/-- What is opened to probe a candidate. -/
theorem probed_of_mem_scan (given : ∀ d ∈ dirs, d ≠ "")
    (may : ∀ d ∈ dirs, w.files.mayList d = true) (there : c ∈ scan w.files dirs proxy) :
    ∃ up path, ModuleFile.stripSuffix? c.path proxy = some c.className ∧
      Path.parent? c.path = some up ∧ up ≠ "" ∧
      Plugin.locate w.files c.className [up] proxy = .ok path ∧ '/' ∈ path.toList ∧
      w.files.resolve? path = w.files.resolve? c.path ∧
      Path.pieces '/' path.toList ⊆ Path.pieces '/' c.path.toList := by
  obtain ⟨dir, entry, given', text, path, file⟩ := path_of_mem_scan given may there
  obtain ⟨up, parent, given'', pieces, same⟩ :=
    FileTree.resolve?_join_parent? (t := w.files) given' entry
  rw [← path] at parent pieces same
  obtain ⟨content, found⟩ := FileTree.isFile_iff.1 file
  obtain ⟨p, leads, -⟩ := Option.bind_eq_some_iff.1 found
  have leads' := (same (FileTree.resolve?_eq_some_iff.1 leads).2.1).trans leads
  have file' : w.files.isFile (Path.join up entry.text) = true := by
    rw [FileTree.isFile_iff]
    refine ⟨content, ?_⟩
    rw [← found, FileTree.find?, FileTree.find?, leads, leads']
  refine ⟨up, Path.join up entry.text, ?_, parent, given'', ?_, Path.slash_mem_join given'' entry,
    leads'.trans leads.symm, pieces⟩
  · obtain ⟨ps, -, cut, -⟩ := Path.pieces_join given' entry
    rw [← path] at cut
    have named := (Path.fileName?_of_pieces cut).trans (congrArg some text)
    rw [ModuleFile.stripSuffix?_name named, if_neg ((mem_scan_iff given may).1 there).1]
  · refine Plugin.locate_of_findFile? ?_
    rw [← text]
    exact SearchPath.findFile?_singleton.2 ⟨rfl, file'⟩

/-- **Each candidate is what is loaded.** -/
theorem loads_of_mem_scan (given : ∀ d ∈ dirs, d ≠ "")
    (may : ∀ d ∈ dirs, w.files.mayList d = true) (there : c ∈ scan w.files dirs proxy) :
    c.Loads w dirs proxy := by
  have found := ((mem_scan_iff given may).1 there).2.2
  have located := Plugin.locate_of_findFile? found
  obtain ⟨up, path, strips, parent, given', located', slash', same, pieces⟩ :=
    probed_of_mem_scan given may there
  have valid (asIs : w.OpensAsIs path) : c.ValidByContent w proxy := by
    have content : w.files.content? path = w.files.content? c.path := by
      rw [FileTree.content?, FileTree.content?, FileTree.find?, FileTree.find?, same]
    rw [ValidByContent, Plugin.isValid, strips, parent]
    simp only [if_neg given', Plugin.acquire_of_locate located' asIs, content]
    rcases w.files.content? c.path with _ | _ | l
    · simp [Plugin.ofContent]
    · simp [Plugin.ofContent]
    · simp [Plugin.ofContent, Plugin.isOk_ask_iff, Library.exports, Library.suffices]
  refine ⟨found, located, ⟨up, path, strips, parent, given', located', same, valid⟩, ?_, ?_⟩
  · rintro asIs r ids rfl rfl new foreign
    rw [Registry.load_of_unkept new foreign, Plugin.acquire_of_locate located asIs]
  · intro ws loader plain
    obtain ⟨dir, entry, given', -, joined, -⟩ := path_of_mem_scan given may there
    have slash : '/' ∈ c.path.toList := joined ▸ Path.slash_mem_join given' entry
    exact ⟨loader.opens _ slash plain, valid (loader.opens_of_pieces_subset slash' pieces plain)⟩

/-! ### All candidates -/

/-- **A class with a module file on the search path is one candidate.** -/
theorem filter_scan (given : ∀ d ∈ dirs, d ≠ "") (may : ∀ d ∈ dirs, files.mayList d = true)
    {className path : String} (nonempty : className ≠ "") (free : '/' ∉ className.toList)
    (found : SearchPath.findFile? files (ModuleFile.name className proxy) dirs = some path) :
    (scan files dirs proxy).filter (·.className = className) = [⟨className, path⟩] := by
  have there : ⟨className, path⟩ ∈ scan files dirs proxy :=
    (mem_scan_iff given may).2 ⟨nonempty, free, found⟩
  refine filter_eq_singleton there (decide_eq_true rfl) ?_
  refine (List.pairwise_map.1 (nodup_scan given)).imp fun {a b} other => ?_
  rintro ⟨named, named'⟩
  exact other ((of_decide_eq_true named).trans (of_decide_eq_true named').symm)

/-- **A scan reports what is loaded.** Let no directory of a search path be the empty text, and let
all of them be such as can be listed. Then each candidate is loaded from the path that it is
reported with, and is valid by what is there, if the loader opens that path as it stands (`Loads`).
If a search finds the module file of a class, then there is one candidate of that class, and it has
the path that is found. Candidates come in the order of the directories in which they are found, and
of one directory in the order of their classes; no class comes twice. -/
theorem scan_loads (w : World) {dirs : List String} (given : ∀ d ∈ dirs, d ≠ "")
    (may : ∀ d ∈ dirs, w.files.mayList d = true) (proxy : Bool) :
    (∀ c ∈ scan w.files dirs proxy, c.Loads w dirs proxy) ∧
      (∀ className path, className ≠ "" → '/' ∉ className.toList →
        SearchPath.findFile? w.files (ModuleFile.name className proxy) dirs = some path →
        (scan w.files dirs proxy).filter (·.className = className) = [⟨className, path⟩]) ∧
      (scan w.files dirs proxy).Pairwise (Precedes w.files dirs proxy) ∧
      ((scan w.files dirs proxy).map className).Nodup :=
  ⟨fun _ there => loads_of_mem_scan given may there,
    fun _ _ nonempty free found => filter_scan given may nonempty free found,
    pairwise_scan given may, nodup_scan given⟩

/-- The statement at a module in the root: it is valid, and a load is given the class that its
script declares. -/
theorem scan_loads_lamp : (∀ d ∈ ["/"], d ≠ "") ∧ (∀ d ∈ ["/"], lampDisk.files.mayList d = true) ∧
    (scan lampDisk.files ["/"] false).filter (·.className = "Lamp") = [⟨"Lamp", "/Lamp.so"⟩] ∧
    lampDisk.OpensAsIs "/Lamp.so" ∧ Plugin.isValid lampDisk "/Lamp.so" false = true ∧
    (((Registry.new ["/"] false).load lampDisk "Lamp" {}).1.map fun l => l.sceneClass) =
      (lampScript.finished (.new ⟨1⟩ "Lamp")).mapError .returned := by
  have content := content?_lampDisk
  have given : ∀ d ∈ ["/"], d ≠ "" := by decide
  have found : SearchPath.findFile? lampDisk.files (ModuleFile.name "Lamp" false) ["/"] =
      some "/Lamp.so" := by
    refine SearchPath.findFile?_singleton.2 ⟨by decide +kernel, ?_⟩
    rw [FileTree.isFile, content]
    rfl
  have may : ∀ d ∈ ["/"], lampDisk.files.mayList d = true := fun d _ =>
    FileTree.mayList_of_unlistable_nil rfl d
  obtain ⟨each, only, -, -⟩ := scan_loads lampDisk given may false
  have one := only "Lamp" "/Lamp.so" (by decide) (by decide +kernel) found
  have there : ⟨"Lamp", "/Lamp.so"⟩ ∈ scan lampDisk.files ["/"] false :=
    List.mem_of_mem_filter (one ▸ List.mem_cons_self)
  have loader := World.loadsBy_onDisk lampDisk.files lampDisk.scripts
  have plain : LoaderPath.Plain (LoaderPath.words (FileTree.fullName lampDisk.files.programDir))
      "/Lamp.so".toList := LoaderPath.plain_of_not_mem (by decide +kernel)
  obtain ⟨asIs, valid⟩ := (each _ there).plain _ loader plain
  refine ⟨given, may, one, asIs, valid.2 ⟨lampLibrary, content, rfl⟩, ?_⟩
  have loaded := (each _ there).loaded asIs (.new ["/"] false) {} rfl rfl rfl rfl
  rw [content] at loaded
  exact congrArg (Except.map fun l => l.sceneClass) loaded

/-! ### A directory whose name the loader does not read as it stands -/

/-- The name of a directory, which is a word of the loader. -/
def dollarName : EntryName := ⟨"$LIB", by decide +kernel⟩

/-- A disk with the module's file in that directory. -/
def dollarDisk : FileTree FileContent :=
  ⟨[(dollarName, .dir [(lampFile, .file (.library lampLibrary))])], [], [], []⟩

/-- The library of the lamp is in a directory with the name of a word. -/
theorem content?_dollarDisk :
    dollarDisk.content? "./$LIB/Lamp.so" = some (.library lampLibrary) := by
  have moves : Path.moves "./$LIB/Lamp.so" = [.stay, .down dollarName, .down lampFile] := by
    decide +kernel
  have start : FileTree.start "./$LIB/Lamp.so" dollarDisk.workDir = [] := ite_self _
  rw [FileTree.content?, FileTree.find?_of_moves moves (by decide +kernel), start,
    FileTree.walk_stay rfl, FileTree.walk_down_dir rfl rfl rfl, FileTree.walk_down_file rfl rfl rfl,
    FileTree.walk_nil]
  rfl

/-- The loader looks for the file elsewhere, where there is none. -/
theorem load?_dollarDisk : LoaderPath.load? dollarDisk "./$LIB/Lamp.so" = none := by
  have path : LoaderPath.expand (FileTree.fullName dollarDisk.programDir) "./$LIB/Lamp.so" =
      "./lib/x86_64-linux-gnu/Lamp.so" := by decide +kernel
  have moves : Path.moves "./lib/x86_64-linux-gnu/Lamp.so" =
      [.stay, .down ⟨"lib", by decide +kernel⟩, .down ⟨"x86_64-linux-gnu", by decide +kernel⟩,
        .down lampFile] := by decide +kernel
  have start : FileTree.start "./lib/x86_64-linux-gnu/Lamp.so" dollarDisk.workDir = [] := ite_self _
  have nowhere : dollarDisk.find? "./lib/x86_64-linux-gnu/Lamp.so" = none := by
    rw [FileTree.find?_of_moves moves (by decide +kernel), start, FileTree.walk_stay rfl,
      FileTree.walk_missing rfl rfl]
    rfl
  rw [LoaderPath.load?, path, FileTree.library?, FileTree.content?, nowhere]
  exact ite_self _

/-- Every directory of the disk can be listed, the module in this one is a candidate, and the file
is a library that has all there is to ask for. But the loader opens a path on which there is no
file, so that the candidate is not valid, and its class cannot be loaded. -/
theorem scan_of_dollarDisk :
    (∀ dir, dollarDisk.mayList dir = true) ∧
      (⟨"Lamp", "./$LIB/Lamp.so"⟩ : Candidate) ∈ scan dollarDisk ["./$LIB"] false ∧
      dollarDisk.content? "./$LIB/Lamp.so" = some (.library lampLibrary) ∧
      lampLibrary.suffices false = true ∧
      Plugin.isValid (.onDisk dollarDisk []) "./$LIB/Lamp.so" false = false ∧
      ((Registry.new ["./$LIB"] false).load (.onDisk dollarDisk []) "Lamp" {}).1 =
        .error (.returned (.moduleLoadFailed "./$LIB/Lamp.so" .platform)) := by
  have content := content?_dollarDisk
  have found : SearchPath.findFile? dollarDisk (ModuleFile.name "Lamp" false) ["./$LIB"] =
      some "./$LIB/Lamp.so" := by
    refine SearchPath.findFile?_singleton.2 ⟨by decide +kernel, ?_⟩
    rw [FileTree.isFile, content]
    rfl
  have may := FileTree.mayList_of_unlistable_nil (t := dollarDisk) rfl
  have acquired : Plugin.acquire (.onDisk dollarDisk []) "Lamp" ["./$LIB"] false =
      .error (.moduleLoadFailed "./$LIB/Lamp.so" .platform) := by
    rw [Plugin.acquire, World.onDisk, Plugin.locate_of_findFile? found]
    simp only [bind, Except.bind, load?_dollarDisk]
  have strips : ModuleFile.stripSuffix? "./$LIB/Lamp.so" false = some "Lamp" := by decide +kernel
  have parent : Path.parent? "./$LIB/Lamp.so" = some "./$LIB" := by decide +kernel
  refine ⟨may, ?_, content, rfl, ?_, ?_⟩
  · exact (mem_scan_iff (by decide) fun d _ => may d).2 ⟨by decide, by decide +kernel, found⟩
  · rw [Plugin.isValid, strips, parent]
    simp only [if_neg (show "./$LIB" ≠ "" by decide), acquired]
  · rw [Registry.load_of_unkept rfl rfl]
    exact congrArg (fun p => Except.mapError Failure.returned (p >>= _)) acquired

end Inspect.Candidate

end SceneSchema
