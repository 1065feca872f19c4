import SceneSchema.Disk.FileTree

/-!
# Where module files are looked for

The directories that hold module files come from four sources, in this order: directories given
explicitly, the working directory, the directories of one environment variable, and a guess from
another, the list of directories with programs: beside the first of them that holds the launcher
there may be a directory of modules (`SearchPath.guess?`). Of directories that are equal as paths
only the first is kept (`Sources.dirs`).

`findFile?` gives the first directory of a list in which a name leads to a file.
-/

namespace SceneSchema.SearchPath

/-- The environment variable that lists directories of modules. -/
def modulesVariable : String := "RDL2_DSO_PATH"

/-- The environment variable that lists directories of programs. -/
def programsVariable : String := "PATH"

/-- The program in whose neighbourhood modules may be. -/
def launcher : String := "raas_render"

/-- The directory of modules in that neighbourhood. -/
def neighbour : String := "rdl2dso"

/-- Where directories come from. -/
structure Sources where
  /-- Given explicitly. -/
  explicit : List String := []
  /-- The list in the variable for modules, if it is set. -/
  modules : Option String := none
  /-- The list in the variable for programs, if it is set. -/
  programs : Option String := none
  deriving DecidableEq, Repr

/-- The sources with the directories of one more list given explicitly; empty ones are left out. -/
def Sources.withExplicit (s : Sources) (list : String) : Sources :=
  { s with explicit := s.explicit ++ (Path.splitList list).filter (· ≠ "") }

variable {α : Type}

/-- Whether a directory holds a file with the launcher's name, whatever its extension. -/
def hasLauncher (t : FileTree α) (dir : String) : Bool :=
  match t.list? dir with
  | none => false
  | some names => names.any fun n => Path.stem n.text == launcher && t.isFile (Path.join dir n.text)

/-- The directory of modules beside the directory of programs, once links are resolved. -/
def beside (t : FileTree α) (dir : String) : Option String :=
  (Path.parent? ((t.canonical? dir).getD dir)).map (Path.join · neighbour)

/-- The guess: beside the first directory of programs that holds the launcher. -/
def guess? (t : FileTree α) (s : Sources) : Option String := do
  let dirs := Path.splitList (← s.programs)
  let dir ← dirs.find? fun d => d ≠ "" && hasLauncher t d
  beside t dir

/-- The directories without the empty ones and without those equal to an earlier one. -/
def distinct : List String → List String :=
  List.foldl (fun dirs d => if d = "" || dirs.any (Path.same d) then dirs else dirs ++ [d]) []

/-- All directories of the sources, in order. -/
def Sources.all (t : FileTree α) (s : Sources) : List String :=
  s.explicit ++ ["."] ++ ((s.modules.map Path.splitList).getD []) ++ (guess? t s).toList

/-- The search path. -/
def Sources.dirs (t : FileTree α) (s : Sources) : List String := distinct (s.all t)

/-- The first path, made from a directory of the list and the name, that leads to a file. -/
def findFile? (t : FileTree α) (name : String) (dirs : List String) : Option String :=
  (dirs.map (Path.join · name)).find? fun p => t.isFile p

/-! ## Small laws -/

/-- What is found is a file in one of the directories. -/
theorem isFile_of_findFile? {t : FileTree α} {name : String} {dirs : List String} {p : String}
    (h : findFile? t name dirs = some p) :
    t.isFile p = true ∧ ∃ d ∈ dirs, p = Path.join d name := by
  refine ⟨List.find?_some h, ?_⟩
  obtain ⟨d, hd, e⟩ := List.mem_map.1 (List.mem_of_find?_eq_some h)
  exact ⟨d, hd, e.symm⟩

/-- Nothing is found exactly if no directory has the file. -/
theorem findFile?_eq_none_iff {t : FileTree α} {name : String} {dirs : List String} :
    findFile? t name dirs = none ↔ ∀ d ∈ dirs, t.isFile (Path.join d name) = false := by
  simp [findFile?]

end SceneSchema.SearchPath
