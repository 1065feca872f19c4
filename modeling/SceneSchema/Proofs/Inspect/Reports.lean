import SceneSchema.Proofs.Inspect.Rows

/-!
# What a run of the inspection command reports

* `hasModule_iff` — the classes with a module file on the search path are those of the candidates. A
  directory counts as far as it can be listed (`FileTree.Shows`, `FileTree.listable`): one that
  cannot be listed is passed over, though a load would open a module in it.
* `Chosen` — the candidates that a run goes through; `chosen_selected` says that it goes through
  these.
* `Reported` — what a run leaves behind that goes through candidates; `reported_of_missing?`.
* `inspect_of_missing?` — what a run leaves behind if a class that is named has no module.

**Main statement** (`inspect_reports`): the exit code and all lines of a run, for any arguments,
variables, files and scripts.
-/

namespace SceneSchema

namespace Inspect

open Session (lampFile lampLibrary lampScript)

variable {a : Arguments} {w : World} {dirs : List String} {c : Candidate}

/-! ### Candidates that are asked for -/

/-- A directory of the search path shows the module file of the class. -/
def HasModule (files : FileTree FileContent) (dirs : List String) (proxy : Bool) (name : String) :
    Prop :=
  name ≠ "" ∧ ∃ entry : EntryName, entry.text = ModuleFile.name name proxy ∧
    ∃ d ∈ dirs, files.Shows d entry

/-- **The candidates are found by a search of the directories that can be listed.** -/
theorem mem_scan_listable_iff {files : FileTree FileContent} {proxy : Bool}
    (given : ∀ d ∈ dirs, d ≠ "") : c ∈ Candidate.scan files dirs proxy ↔
      c.className ≠ "" ∧ '/' ∉ c.className.toList ∧ SearchPath.findFile? files
        (ModuleFile.name c.className proxy) (files.listable dirs) = some c.path := by
  rw [← Candidate.scan_listable]
  exact Candidate.mem_scan_iff (fun d there => given d (FileTree.mem_listable.1 there).1)
    fun d there => (FileTree.mem_listable.1 there).2

/-- **The classes with a module are those of the candidates.** -/
theorem hasModule_iff {files : FileTree FileContent} {proxy : Bool} {name : String}
    (given : ∀ d ∈ dirs, d ≠ "") : HasModule files dirs proxy name ↔
      ∃ path, ⟨name, path⟩ ∈ Candidate.scan files dirs proxy := by
  constructor
  · rintro ⟨nonempty, entry, text, d, there, shows⟩
    have free : '/' ∉ entry.text.toList := Path.slash_not_mem entry
    rw [text, ModuleFile.toList_name, List.mem_append, not_or] at free
    obtain ⟨may, holds⟩ := FileTree.shows_iff.1 shows
    rcases found : SearchPath.findFile? files (ModuleFile.name name proxy) (files.listable dirs)
      with _ | path
    · have file := holds.2
      rw [text, SearchPath.findFile?_eq_none_iff.1 found d (FileTree.mem_listable.2 ⟨there, may⟩)]
        at file
      cases file
    · exact ⟨path, (mem_scan_listable_iff given).2 ⟨nonempty, free.1, found⟩⟩
  · rintro ⟨path, there⟩
    obtain ⟨nonempty, free, found⟩ := (mem_scan_listable_iff given).1 there
    obtain ⟨file, d, listed, joined⟩ := SearchPath.isFile_of_findFile? found
    obtain ⟨listed, may⟩ := FileTree.mem_listable.1 listed
    have valid := ModuleFile.isEntryName_name free proxy
    rw [joined] at file
    have holds := (FileTree.holds_iff (given d listed) ⟨_, valid⟩).2 file
    exact ⟨nonempty, ⟨_, valid⟩, rfl, d, listed, FileTree.shows_iff.2 ⟨may, holds⟩⟩

/-- The candidates that a run goes through. -/
structure Chosen (a : Arguments) (files : FileTree FileContent) (dirs : List String)
    (chosen : List Candidate) : Prop where
  /-- They are candidates of the scan, in the same order. -/
  inOrder : chosen.Sublist (Candidate.scan files dirs a.proxy)
  /-- This is the order of the directories that can be listed, and in one directory that of classes.
  -/
  order : chosen.Pairwise (Candidate.Precedes files (files.listable dirs) a.proxy)
  /-- Only those that are named, if classes are named. -/
  asked : ∀ c ∈ chosen, a.classes = [] ∨ c.className ∈ a.classes
  /-- All of these, each at the path that is found for its module file in the directories that can
  be listed. -/
  all : ∀ name, HasModule files dirs a.proxy name → (a.classes = [] ∨ name ∈ a.classes) →
    ∃ path, SearchPath.findFile? files (ModuleFile.name name a.proxy) (files.listable dirs) =
        some path ∧ ⟨name, path⟩ ∈ chosen
  /-- Each class once. -/
  once : (chosen.map (·.className)).Nodup

/-- What the scan finds, and the arguments select, is chosen as described. -/
theorem chosen_selected {files : FileTree FileContent} (given : ∀ d ∈ dirs, d ≠ "") :
    Chosen a files dirs (selected a (Candidate.scan files dirs a.proxy)) := by
  have sub : (selected a (Candidate.scan files dirs a.proxy)).Sublist
      (Candidate.scan files dirs a.proxy) := by
    unfold selected
    split
    · exact List.Sublist.refl _
    · exact List.filter_sublist
  refine ⟨sub, (Candidate.pairwise_scan_listable given).sublist sub, fun c there => ?_,
    fun name has asked => ?_,
    (Candidate.nodup_scan given).sublist (sub.map _)⟩
  · unfold selected at there
    split at there
    · rename_i all
      exact .inl all
    · exact .inr (List.contains_iff_mem.1 (List.mem_filter.1 there).2)
  · obtain ⟨path, there⟩ := (hasModule_iff given).1 has
    refine ⟨path, ((mem_scan_listable_iff given).1 there).2.2, ?_⟩
    unfold selected
    split
    · exact there
    · rename_i some
      exact List.mem_filter.2 ⟨there, List.contains_iff_mem.2 (asked.resolve_left some)⟩

/-- If only one class is named, and has a module, then this is the one candidate. -/
theorem Chosen.eq_singleton {files : FileTree FileContent} {chosen : List Candidate}
    {name path : String} (h : Chosen a files dirs chosen) (some : a.classes ≠ [])
    (only : ∀ n ∈ a.classes, n = name) (has : HasModule files dirs a.proxy name)
    (found : SearchPath.findFile? files (ModuleFile.name name a.proxy) (files.listable dirs) =
      .some path) :
    chosen = [⟨name, path⟩] := by
  obtain ⟨first, rest, classes⟩ := List.exists_cons_of_ne_nil some
  have named : name ∈ a.classes := by
    have there : first ∈ a.classes := classes ▸ List.mem_cons_self
    exact only first there ▸ there
  obtain ⟨path', found', there⟩ := h.all name has (.inr named)
  obtain rfl := Option.some.inj (found.symm.trans found')
  have same {c : Candidate} (there : c ∈ chosen) : c.className = name :=
    only _ ((h.asked c there).resolve_left some)
  have once := h.once
  rcases chosen with _ | ⟨c, _ | ⟨c', rest⟩⟩
  · cases there
  · rw [List.mem_singleton.1 there]
  · have apart := (List.nodup_cons.1 once).1
    have first := same List.mem_cons_self
    have second := same (List.mem_cons_of_mem c List.mem_cons_self)
    exact absurd (List.mem_cons.2 (.inl (first.trans second.symm))) apart

/-! ### Runs -/

/-- The directories that a run searches. -/
def Arguments.searched (a : Arguments) (sources : SearchPath.Sources) (w : World) : List String :=
  ((a.dirs.map sources.withExplicit).getD sources).dirs w.files

/-- No directory that is searched has the empty path. -/
theorem Arguments.searched_ne_empty (a : Arguments) (sources : SearchPath.Sources) (w : World) :
    ∀ d ∈ a.searched sources w, d ≠ "" := fun _ => SearchPath.ne_empty_of_mem_distinct

/-- The first line of a run. -/
def heading (dirs : List String) : String := "DSO search path: " ++ Path.joinList dirs

/-- The heading is no row about a candidate. -/
theorem isStatusRow_heading (dirs : List String) : isStatusRow (heading dirs) = false := by
  have first : "DSO search path: ".toList.head? = some 'D' := by decide +kernel
  have head : (heading dirs).toList.head? = some 'D' := by
    show ("DSO search path: " ++ Path.joinList dirs).toList.head? = some 'D'
    rw [String.toList_append, List.head?_append, first]
    rfl
  exact isStatusRow_of_head head (by decide)

/-- What a run leaves behind that goes through the candidates. -/
structure Reported (a : Arguments) (w : World) (dirs : List String) (chosen : List Candidate)
    (report : Report) : Prop where
  /-- One row for each candidate, by whether it is valid. -/
  rows : report.output.filter isStatusRow =
    chosen.map fun c => statusLine c (Plugin.isValid w c.path a.proxy)
  /-- Each row is followed by the description, if there is one. -/
  output : report.output = heading dirs ::
    if chosen = [] then ["No " ++ kindName a.proxy ++ " modules found."]
    else chosen.flatMap fun c => statusLine c (Plugin.isValid w c.path a.proxy) ::
      describedLines (declared? a w dirs c)
  /-- Every load that a description asks for returns. -/
  returns : ∀ c ∈ chosen, declared? a w dirs c ≠ some (.error .unwound)
  /-- One line for each declaration that failed. -/
  errors : report.errors = chosen.flatMap fun c => failedLines (declared? a w dirs c)
  /-- All is well exactly if every row is good and no declaration has failed; -/
  good : report.exitCode = 0 ↔
    (∀ c ∈ chosen, Plugin.isValid w c.path a.proxy = true) ∧ report.errors = []
  /-- otherwise the exit code is 1. -/
  bad : report.exitCode ≠ 0 → report.exitCode = 1

/-- The report of a run without candidates. -/
theorem reported_nil : Reported a w dirs []
    { exitCode := 0
      output := [heading dirs, "No " ++ kindName a.proxy ++ " modules found."] } := by
  have first : "No ".toList.head? = some 'N' := by decide +kernel
  have head : ("No " ++ kindName a.proxy ++ " modules found.").toList.head? = some 'N' := by
    rw [String.toList_append, String.toList_append, List.head?_append, List.head?_append, first]
    rfl
  have noRow := isStatusRow_of_head head (by decide)
  exact ⟨by simp [isStatusRow_heading, noRow], rfl, by simp, rfl, by simp, by simp⟩

/-- The report of a run that goes through candidates. -/
theorem reported_rows {chosen : List Candidate} (some : chosen ≠ [])
    (once : (chosen.map (·.className)).Nodup) :
    Reported a w dirs chosen
      (let rows := checkRows a w chosen (.new dirs a.proxy) {}
      { exitCode := if rows.all fun (_, row) => row.isGood then 0 else 1
        output := heading dirs :: rows.flatMap fun (c, row) => row.output c
        errors := rows.flatMap fun (_, row) => row.errors }) := by
  have rows : checkRows a w chosen (.new dirs a.proxy) {} =
      chosen.map fun c => (c, freshRow a w dirs c) :=
    checkRows_eq once (fun c _ => Registry.unacquainted_new dirs a.proxy c.className) {}
  have output : (chosen.flatMap fun c => (freshRow a w dirs c).output c) =
      chosen.flatMap fun c => statusLine c (Plugin.isValid w c.path a.proxy) ::
        describedLines (declared? a w dirs c) :=
    List.flatMap_congr fun c _ => (freshRow_spec a w dirs c).1
  have errors : (chosen.flatMap fun c => (freshRow a w dirs c).errors) =
      chosen.flatMap fun c => failedLines (declared? a w dirs c) :=
    List.flatMap_congr fun c _ => (freshRow_spec a w dirs c).2.1
  have good : (chosen.all fun c => (freshRow a w dirs c).isGood) = true ↔
      (∀ c ∈ chosen, Plugin.isValid w c.path a.proxy = true) ∧
        (chosen.flatMap fun c => failedLines (declared? a w dirs c)) = [] := by
    rw [List.all_eq_true, List.flatMap_eq_nil_iff, ← forall₂_and]
    exact forall₂_congr fun c _ => (freshRow_spec a w dirs c).2.2
  simp only [rows, List.flatMap_map, List.all_map, Function.comp_def, output, errors]
  refine ⟨?_, by rw [if_neg some], fun c _ => declared?_ne_unwound a w dirs c, rfl, ?_, ?_⟩
  · rw [List.filter_cons_of_neg (by simp [isStatusRow_heading]), List.filter_flatMap]
    have row (c : Candidate) : (statusLine c (Plugin.isValid w c.path a.proxy) ::
        describedLines (declared? a w dirs c)).filter isStatusRow =
          [statusLine c (Plugin.isValid w c.path a.proxy)] := by
      rw [List.filter_cons_of_pos (isStatusRow_statusLine c _), filter_describedLines]
    simp only [row]
    exact List.map_eq_flatMap.symm
  · rw [← good]
    split <;> simp_all
  · split <;> simp

/-- The scan finds a class exactly if a directory has a module for it. -/
theorem any_scan_iff {files : FileTree FileContent} {proxy : Bool} {name : String}
    (given : ∀ d ∈ dirs, d ≠ "") :
    (Candidate.scan files dirs proxy).any (·.className = name) = true ↔
      HasModule files dirs proxy name := by
  rw [hasModule_iff given, List.any_eq_true]
  constructor
  · rintro ⟨c, there, named⟩
    obtain rfl := of_decide_eq_true named
    exact ⟨c.path, there⟩
  · rintro ⟨path, there⟩
    exact ⟨_, there, decide_eq_true rfl⟩

/-- A class is missing if it is named and has no module; the first of these is reported. -/
theorem missing?_eq_some_iff {files : FileTree FileContent} {name : String}
    (given : ∀ d ∈ dirs, d ≠ "") :
    missing? a (Candidate.scan files dirs a.proxy) = some name ↔
      ¬ HasModule files dirs a.proxy name ∧ ∃ before after, a.classes = before ++ name :: after ∧
        ∀ n ∈ before, HasModule files dirs a.proxy n := by
  rw [missing?, List.find?_eq_some_iff_append, ← any_scan_iff given, Bool.not_eq_true',
    Bool.not_eq_true]
  simp only [Bool.not_not, any_scan_iff given]

/-- No class is missing exactly if there is a module for each that was asked for. -/
theorem missing?_eq_none_iff {files : FileTree FileContent} (given : ∀ d ∈ dirs, d ≠ "") :
    missing? a (Candidate.scan files dirs a.proxy) = none ↔
      ∀ name ∈ a.classes, HasModule files dirs a.proxy name := by
  rw [missing?, List.find?_eq_none]
  simp only [Bool.not_eq_true', Bool.not_eq_false, any_scan_iff given]

/-- What a run does if the first class that is named and has no module is this. -/
theorem inspect_of_missing? {sources : SearchPath.Sources} {name : String}
    (missing : missing? a (Candidate.scan w.files (a.searched sources w) a.proxy) = some name) :
    inspect a sources w =
      { exitCode := 2, output := [heading (a.searched sources w)]
        errors := ["[ERROR] no " ++ kindName a.proxy ++ " module for class '" ++ name ++
          "' on the search path"] } := by
  unfold inspect
  dsimp only
  rw [← Arguments.searched, missing]
  rfl

/-- If no class is missing, the run reports on what was selected. -/
theorem reported_of_missing? {sources : SearchPath.Sources}
    (complete : missing? a (Candidate.scan w.files (a.searched sources w) a.proxy) = none) :
    Reported a w (a.searched sources w)
      (selected a (Candidate.scan w.files (a.searched sources w) a.proxy))
      (inspect a sources w) := by
  have choice : Chosen a w.files (a.searched sources w)
      (selected a (Candidate.scan w.files (a.searched sources w) a.proxy)) :=
    chosen_selected (a.searched_ne_empty sources w)
  unfold inspect
  dsimp only
  rw [← Arguments.searched, complete]
  dsimp only
  split
  · rename_i none
    rw [none]
    exact reported_nil
  · rename_i some
    exact reported_rows some choice.once

/-! ### Three runs on one disk -/

/-- The name of a file that is no module. -/
def mugFile : EntryName := ⟨"Mug.so", by decide +kernel⟩

/-- A disk with a module in the root, and with a file that has a module's name. -/
def shelf : World :=
  .onDisk ⟨[(lampFile, .file (.library lampLibrary)), (mugFile, .file .other)], [], [], []⟩
    [("Lamp", lampScript)]

/-- A run on this disk that describes the classes. -/
def shelfRun (classes : List String) : Arguments := { classes, dirs := some "/", describe := true }

/-- Two directories are searched there: the root, and the working directory, which is the root
too. -/
theorem searched_shelf (classes : List String) :
    (shelfRun classes).searched {} shelf = ["/", "."] := by
  show SearchPath.Sources.dirs shelf.files (({} : SearchPath.Sources).withExplicit "/") = ["/", "."]
  decide +kernel

/-- A path of one name leads to what the root has under the name. -/
theorem find?_shelf {path : String} {name : EntryName}
    (moves : Path.moves path = [.stay, .down name])
    (fits : path ≠ "" ∧ path.utf8ByteSize ≤ FileTree.maxPathBytes) :
    shelf.files.find? path = shelf.files.root.lookup name := by
  refine FileTree.find?_in_root rfl moves fits fun target link => ?_
  have listed := Table.mem_of_lookup link
  simp [shelf, World.onDisk] at listed

/-- All directories can be listed there. -/
theorem listable_shelf (dirs : List String) : shelf.files.listable dirs = dirs :=
  FileTree.listable_eq_self fun d _ => FileTree.mayList_of_unlistable_nil rfl d

/-- A file in the root is found in the first of the two directories. -/
theorem findFile?_shelf {entry : EntryName} {content : FileContent}
    (there : shelf.files.root.lookup entry = some (.file content))
    (moves : Path.moves (Path.join "/" entry.text) = [.stay, .down entry])
    (fits : (Path.join "/" entry.text).utf8ByteSize ≤ FileTree.maxPathBytes) :
    SearchPath.findFile? shelf.files entry.text ["/", "."] = some (Path.join "/" entry.text) := by
  have found := find?_shelf moves ⟨Path.join_ne_empty (by decide) entry, fits⟩
  have file : shelf.files.isFile (Path.join "/" entry.text) = true :=
    FileTree.isFile_iff.2 ⟨content, found.trans there⟩
  rw [SearchPath.findFile?, List.map_cons, List.find?_cons_of_pos file]

/-- The scan there finds each module in the root, and its file has the content that was put there.
-/
theorem scan_shelf {name : String} {entry : EntryName} {content : FileContent}
    (nonempty : name ≠ "") (text : entry.text = ModuleFile.name name false)
    (there : shelf.files.root.lookup entry = some (.file content))
    (moves : Path.moves (Path.join "/" entry.text) = [.stay, .down entry])
    (fits : (Path.join "/" entry.text).utf8ByteSize ≤ FileTree.maxPathBytes) :
    ⟨name, Path.join "/" entry.text⟩ ∈ Candidate.scan shelf.files ["/", "."] false ∧
      shelf.files.content? (Path.join "/" entry.text) = some content := by
  have free : '/' ∉ entry.text.toList := Path.slash_not_mem entry
  rw [text, ModuleFile.toList_name, List.mem_append, not_or] at free
  have found := findFile?_shelf there moves fits
  rw [text] at found
  have file := find?_shelf moves ⟨Path.join_ne_empty (by decide) entry, fits⟩
  rw [← listable_shelf ["/", "."]] at found
  refine ⟨(mem_scan_listable_iff (by decide)).2 ⟨nonempty, free.1, text ▸ found⟩, ?_⟩
  rw [FileTree.content?, file, there]

/-- The module of the lamp is found. -/
theorem scan_shelf_lamp :
    ⟨"Lamp", "/Lamp.so"⟩ ∈ Candidate.scan shelf.files ["/", "."] false ∧
      shelf.files.content? "/Lamp.so" = some (.library lampLibrary) := by
  have joined : Path.join "/" lampFile.text = "/Lamp.so" := by decide +kernel
  exact joined ▸ scan_shelf (by decide) (by decide +kernel) rfl (by decide +kernel)
    (by decide +kernel)

/-- So is a file with the name of a module that is none. -/
theorem scan_shelf_mug :
    ⟨"Mug", "/Mug.so"⟩ ∈ Candidate.scan shelf.files ["/", "."] false ∧
      shelf.files.content? "/Mug.so" = some .other := by
  have joined : Path.join "/" mugFile.text = "/Mug.so" := by decide +kernel
  exact joined ▸ scan_shelf (by decide) (by decide +kernel) rfl (by decide +kernel)
    (by decide +kernel)

/-- There is no module for the third class. -/
theorem not_hasModule_shelf : ¬ HasModule shelf.files ["/", "."] false "Gone" := by
  rintro ⟨-, entry, text, d, there, shows⟩
  have name : ModuleFile.name "Gone" false = "Gone.so" := by decide +kernel
  rw [name] at text
  obtain ⟨content, found⟩ := FileTree.isFile_iff.1 shows.2
  rw [text] at found
  simp only [List.mem_cons, List.not_mem_nil, or_false] at there
  have moves (d : String) (given : d = "/" ∨ d = ".") : Path.moves (Path.join d "Gone.so") =
      [.stay, .down ⟨"Gone.so", by decide +kernel⟩] := by
    rcases given with rfl | rfl <;> decide +kernel
  have fits (d : String) (given : d = "/" ∨ d = ".") : Path.join d "Gone.so" ≠ "" ∧
      (Path.join d "Gone.so").utf8ByteSize ≤ FileTree.maxPathBytes := by
    rcases given with rfl | rfl <;> decide +kernel
  rw [find?_shelf (moves d there) (fits d there)] at found
  cases found

/-- The candidates on the disk are what is loaded. -/
theorem loads_shelf {c : Candidate} (there : c ∈ Candidate.scan shelf.files ["/", "."] false) :
    c.Loads shelf ["/", "."] false :=
  Candidate.loads_of_mem_scan (by decide)
    (fun d _ => FileTree.mayList_of_unlistable_nil rfl d) there

/-- A path without a dollar sign is opened as it stands, and valid by what is there. -/
theorem plain_shelf {c : Candidate} (there : c ∈ Candidate.scan shelf.files ["/", "."] false)
    (free : '$' ∉ c.path.toList) :
    shelf.OpensAsIs c.path ∧ c.ValidByContent shelf false :=
  (loads_shelf there).plain _ (World.loadsBy_onDisk _ _) (LoaderPath.plain_of_not_mem free)

/-- What a load of the module gives. -/
theorem declared?_shelf (classes : List String)
    (valid : Plugin.isValid shelf "/Lamp.so" false = true) :
    declared? (shelfRun classes) shelf ["/", "."] ⟨"Lamp", "/Lamp.so"⟩ =
      some ((lampScript.finished (.new ⟨1⟩ "Lamp")).mapError .returned) := by
  obtain ⟨lamp, content⟩ := scan_shelf_lamp
  obtain ⟨asIs, -⟩ := plain_shelf lamp (by decide +kernel)
  have loaded := (loads_shelf lamp).loaded asIs (.new ["/", "."] false) {} rfl rfl rfl rfl
  rw [content] at loaded
  rw [declared?, shelfRun, valid]
  exact congrArg (fun l => some (Except.map LoadedClass.sceneClass l)) loaded

/-! ### What a run reports -/

/-- **What a run reports.** It exits with 2 exactly if some class that is named has no module in a
directory that can be listed; then it prints the heading and no row, and reports the first such
class. Otherwise it prints one row for each candidate that is asked for, in the order of the scan
and each class once, however often it is named; the row says whether the candidate is valid, and the
description of the class follows it, or a line about the declaration on the error output. It exits
with 0 exactly if every row is good and no declaration failed, and with 1 if not. -/
theorem inspect_reports (a : Arguments) (sources : SearchPath.Sources) (w : World) :
    ((inspect a sources w).exitCode = 2 ↔
      ∃ name ∈ a.classes, ¬ HasModule w.files (a.searched sources w) a.proxy name) ∧
    ((inspect a sources w).exitCode = 2 →
      (inspect a sources w).output = [heading (a.searched sources w)] ∧
      (inspect a sources w).output.filter isStatusRow = [] ∧
      ∃ before name after, a.classes = before ++ name :: after ∧
        (∀ n ∈ before, HasModule w.files (a.searched sources w) a.proxy n) ∧
        ¬ HasModule w.files (a.searched sources w) a.proxy name ∧
        (inspect a sources w).errors = ["[ERROR] no " ++ kindName a.proxy ++
          " module for class '" ++ name ++ "' on the search path"]) ∧
    ((inspect a sources w).exitCode ≠ 2 → ∃ chosen,
      Chosen a w.files (a.searched sources w) chosen ∧
      Reported a w (a.searched sources w) chosen (inspect a sources w)) := by
  have given := a.searched_ne_empty sources w
  rcases complete : missing? a (Candidate.scan w.files (a.searched sources w) a.proxy) with _ | name
  · have all := (missing?_eq_none_iff given).1 complete
    have reported := reported_of_missing? complete
    have other : (inspect a sources w).exitCode ≠ 2 := by
      intro two
      have one := reported.bad (by rw [two]; decide)
      rw [two] at one
      cases one
    refine ⟨iff_of_false other ?_, fun two => absurd two other,
      fun _ => ⟨_, chosen_selected given, reported⟩⟩
    rintro ⟨name, named, missing⟩
    exact missing (all name named)
  · obtain ⟨missing, before, after, classes, earlier⟩ := (missing?_eq_some_iff given).1 complete
    have named : name ∈ a.classes := classes ▸ List.mem_append_right before List.mem_cons_self
    rw [inspect_of_missing? complete]
    refine ⟨iff_of_true rfl ⟨name, named, missing⟩, fun _ => ⟨rfl, ?_, ?_⟩,
      fun other => absurd rfl other⟩
    · rw [List.filter_cons_of_neg (by simp [isStatusRow_heading])]
      rfl
    · exact ⟨before, name, after, classes, earlier, missing, rfl⟩

/-- The statement at three runs: a class that is named twice is described once; a file that is no
module fails; and a class that has no module ends the run. -/
theorem inspect_reports_shelf :
    (inspect (shelfRun ["Lamp", "Lamp"]) {} shelf).exitCode = 0 ∧
    (inspect (shelfRun ["Lamp", "Lamp"]) {} shelf).output.filter isStatusRow =
      [statusLine ⟨"Lamp", "/Lamp.so"⟩ true] ∧
    (inspect (shelfRun ["Mug"]) {} shelf).exitCode = 1 ∧
    (inspect (shelfRun ["Mug"]) {} shelf).output.filter isStatusRow =
      [statusLine ⟨"Mug", "/Mug.so"⟩ false] ∧
    (inspect (shelfRun ["Lamp", "Gone"]) {} shelf).exitCode = 2 ∧
    (inspect (shelfRun ["Lamp", "Gone"]) {} shelf).output.filter isStatusRow =
      [] := by
  have given : ∀ d ∈ ["/", "."], d ≠ "" := by decide
  obtain ⟨lamp, content⟩ := scan_shelf_lamp
  obtain ⟨mug, noLibrary⟩ := scan_shelf_mug
  have hasLamp := (hasModule_iff given).2 ⟨_, lamp⟩
  have hasMug := (hasModule_iff given).2 ⟨_, mug⟩
  have valid : Plugin.isValid shelf "/Lamp.so" false = true :=
    (plain_shelf lamp (by decide +kernel)).2.2 ⟨lampLibrary, content, rfl⟩
  have invalid : Plugin.isValid shelf "/Mug.so" false = false := by
    rw [Bool.eq_false_iff]
    intro isValid
    obtain ⟨l, library, -⟩ := (plain_shelf mug (by decide +kernel)).2.1 isValid
    cases noLibrary.symm.trans library
  obtain ⟨missing, -, goesOn⟩ :=
    inspect_reports (shelfRun ["Lamp", "Lamp"]) {} shelf
  obtain ⟨missing', -, goesOn'⟩ := inspect_reports (shelfRun ["Mug"]) {} shelf
  obtain ⟨missing'', ends, -⟩ :=
    inspect_reports (shelfRun ["Lamp", "Gone"]) {} shelf
  rw [searched_shelf] at missing goesOn missing' goesOn' missing'' ends
  have two := missing''.2 ⟨"Gone", by decide, not_hasModule_shelf⟩
  have lampOnly : ∀ n ∈ ["Lamp", "Lamp"], n = "Lamp" := by decide
  have mugOnly : ∀ n ∈ ["Mug"], n = "Mug" := by decide
  obtain ⟨chosen, choice, report⟩ := goesOn fun two => by
    obtain ⟨n, named, none⟩ := missing.1 two
    exact none (lampOnly n named ▸ hasLamp)
  obtain rfl := choice.eq_singleton (List.cons_ne_nil _ _) lampOnly hasLamp
    ((mem_scan_listable_iff given).1 lamp).2.2
  obtain ⟨chosen', choice', report'⟩ := goesOn' fun two => by
    obtain ⟨n, named, none⟩ := missing'.1 two
    exact none (mugOnly n named ▸ hasMug)
  obtain rfl := choice'.eq_singleton (List.cons_ne_nil _ _) mugOnly hasMug
    ((mem_scan_listable_iff given).1 mug).2.2
  refine ⟨?_, ?_, ?_, ?_, two, (ends two).2.1⟩
  · rw [report.good, report.errors, List.flatMap_singleton, declared?_shelf _ valid]
    refine ⟨fun c there => ?_, rfl⟩
    obtain rfl := List.mem_singleton.1 there
    exact valid
  · rw [report.rows, List.map_singleton]
    exact congrArg (fun v => [statusLine ⟨"Lamp", "/Lamp.so"⟩ v]) valid
  · refine report'.bad fun zero => ?_
    have good := (report'.good.1 zero).1 _ List.mem_cons_self
    exact absurd (invalid.symm.trans good) Bool.false_ne_true
  · rw [report'.rows, List.map_singleton]
    exact congrArg (fun v => [statusLine ⟨"Mug", "/Mug.so"⟩ v]) invalid

end Inspect

end SceneSchema
