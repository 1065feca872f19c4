import SceneSchema.Disk.Move
import SceneSchema.Table

/-!
# Directories, files and links

A `FileTree` is what stands on a disk: directories, files with content of some type, and symbolic
links, one inside the other from the root down. What stands at a place (`FileTree.node?`) therefore
stands in a directory, at every level above it (`node?_append_singleton`).

Paths are resolved move by move from the root or from the working directory. Every move is made in a
directory; a link that is met is replaced by the moves of its target. No resolution follows more
than `maxLinks` links, and a path of more than `maxPathBytes` bytes leads nowhere, wherever its
moves would lead. `FileTree.resolve?` gives the place that a path leads to, with no link left in it;
whether it is a file and what a directory holds follow from it. A directory may be such that it
cannot be listed, though paths lead through it (`FileTree.unlistable`).

The full name of the place that a path leads to (`FileTree.canonical?`) is put together entry by
entry, and each entry on the way is looked up under its full name. So a place may be reached and yet
have no full name, because a name on the way is too long; where there is one, it is the name of the
place that the path leads to (`canonical?_eq_some`).
-/

namespace SceneSchema

/-- A place in a tree: the names from the root down. -/
abbrev Place := List EntryName

/-- What stands at a place. -/
inductive Node (α : Type) where
  /-- A directory; of several entries of one name the first counts. -/
  | dir (entries : List (EntryName × Node α))
  | file (content : α)
  /-- A symbolic link to the path, seen from the link's own directory. -/
  | link (target : String)

/-- The entries of a directory. -/
abbrev Entries (α : Type) := Table EntryName (Node α)

/-- What stands on a disk, and the working directory. -/
structure FileTree (α : Type) where
  /-- The entries of the root. -/
  root : Entries α
  /-- The place of the working directory. Paths that start there lead nowhere if it is none. -/
  workDir : Place
  /-- The place of the directory that holds the running program. -/
  programDir : Place
  /-- The places of directories that paths may lead through, but that may not be listed. -/
  unlistable : List Place := []

variable {α : Type}

/-- What stands at a place below a node. -/
def Node.find? : Node α → Place → Option (Node α)
  | n, [] => some n
  | .dir entries, name :: p =>
      match entries.lookup name with
      | some n => n.find? p
      | none => none
  | _, _ :: _ => none

/-- The entries with a node at a place below, and directories down to it where nothing stands.
Nothing is put below a file or a link. -/
def Entries.putAt (new : Node α) : Entries α → Place → Entries α
  | entries, [] => entries
  | entries, [name] => entries.put name new
  | entries, name :: p =>
      match entries.lookup name with
      | some (.dir sub) => entries.put name (.dir (putAt new sub p))
      | some _ => entries
      | none => entries.put name (.dir (putAt new [] p))

namespace FileTree

/-- What stands at a place. The root is a directory. -/
def node? (t : FileTree α) (p : Place) : Option (Node α) := (Node.dir t.root).find? p

/-! ## Resolving paths -/

/-- The most links that one resolution may follow. -/
def maxLinks : Nat := 40

/-- The most bytes that a path may have. -/
def maxPathBytes : Nat := 4095

/-- Where the moves of a path start, seen from a directory. -/
def start (path : String) (dir : Place) : Place := if Path.isAbsolute path then [] else dir

/-- Whether moves that come after an entry ask for it to be a directory, even before a move down. -/
def askDirectory : List Move → Bool
  | [] => false
  | .down _ :: _ => false
  | .up :: _ => true
  | .stay :: rest => rest.isEmpty || askDirectory rest

/-- Make moves from a place. Entries are looked up only where `within` holds for their place; it is
told whether moves that follow ask for a directory. -/
def walk (t : FileTree α) (within : Place → Bool → Bool) (links : Nat) (place : Place)
    (todo : List Move) : Option Place :=
  match todo with
  | [] => some place
  | move :: rest =>
      match t.node? place with
      | some (.dir _) =>
          match move with
          | .stay => walk t within links place rest
          | .up => walk t within links place.dropLast rest
          | .down name =>
              match t.node? (place ++ [name]) with
              | none => none
              | some (.link target) =>
                  match links with
                  | 0 => none
                  | links + 1 =>
                      if within (place ++ [name]) false then
                        walk t within links (start target place) (Path.moves target ++ rest)
                      else none
              | some _ =>
                  if within (place ++ [name]) (askDirectory rest) then
                    walk t within links (place ++ [name]) rest
                  else none
      | _ => none
termination_by (links, todo.length)

/-- No bounds on where entries are looked up. -/
def anywhere : Place → Bool → Bool := fun _ _ => true

/-- The place that a path leads to. The empty path and one that is too long lead nowhere. -/
def resolve? (t : FileTree α) (path : String) : Option Place :=
  if path = "" ∨ maxPathBytes < path.utf8ByteSize then none
  else t.walk anywhere maxLinks (start path t.workDir) (Path.moves path)

/-- What a path leads to. -/
def find? (t : FileTree α) (path : String) : Option (Node α) := (t.resolve? path).bind t.node?

/-- The content of the file that a path leads to. -/
def content? (t : FileTree α) (path : String) : Option α :=
  match t.find? path with
  | some (.file content) => some content
  | _ => none

/-- Whether a path leads to a file. -/
def isFile (t : FileTree α) (path : String) : Bool := (t.content? path).isSome

/-- The names in the directory that a path leads to, each once. -/
def entries? (t : FileTree α) (path : String) : Option (List EntryName) :=
  match t.find? path with
  | some (.dir entries) => some (Table.keys entries).eraseDups
  | _ => none

/-- Whether nothing forbids to list the directory that a path leads to. -/
def mayList (t : FileTree α) (path : String) : Bool :=
  (t.resolve? path).all fun p => !t.unlistable.contains p

/-- The names that a listing of the directory gives. -/
def list? (t : FileTree α) (path : String) : Option (List EntryName) :=
  if t.mayList path then t.entries? path else none

/-! ## Full names -/

/-- A place as an absolute path. -/
def fullName (p : Place) : String := "/" ++ "/".intercalate (p.map (·.text))

/-- Whether a place can be looked up under its full name, with a slash behind it if a directory is
asked for. -/
def isNameable (p : Place) (asDirectory : Bool) : Bool :=
  (fullName p).utf8ByteSize + asDirectory.toNat ≤ maxPathBytes

/-- The full name of the place that a path leads to. -/
def canonical? (t : FileTree α) (path : String) : Option String :=
  if path = "" then none
  else (t.walk isNameable maxLinks (start path t.workDir) (Path.moves path)).map fullName

/-! ## Building trees -/

/-- The tree with a node put at a place. -/
def put (t : FileTree α) (p : Place) (n : Node α) : FileTree α :=
  { t with root := Entries.putAt n t.root p }

/-- Make one move, and the directory that it leads to if nothing stands there. -/
def enter (t : FileTree α) (place : Place) (move : Move) : FileTree α × Place :=
  match t.walk anywhere maxLinks place [move], move with
  | some p, _ => (t, p)
  | none, .down name => (t.put (place ++ [name]) (.dir []), place ++ [name])
  | none, _ => (t, place)

/-- Make the moves of a path and the directories that they lead to. -/
def makeWay (t : FileTree α) (place : Place) (moves : List Move) : FileTree α × Place :=
  moves.foldl (fun (t, p) move => enter t p move) (t, place)

/-- The tree with a directory at a path, and those down to it. -/
def addDir (t : FileTree α) (path : String) : FileTree α :=
  (t.makeWay (start path t.workDir) (Path.moves path)).1

/-- The tree with a node at a path that ends in a name, and directories down to it. -/
def add (t : FileTree α) (path : String) (n : Node α) : FileTree α :=
  let moves := Path.moves path
  match moves.getLast? with
  | some (.down name) =>
      match t.makeWay (start path t.workDir) moves.dropLast with
      | (t, p) => t.put (p ++ [name]) n
  | _ => t

/-- Nothing but the working directory, the program's directory, and those above them. -/
def empty (workDir programDir : String) : FileTree α :=
  match ({ root := [], workDir := [], programDir := [] } : FileTree α).makeWay []
      (Path.moves workDir) with
  | (t, work) =>
      match t.makeWay [] (Path.moves programDir) with
      | (t, program) => { t with workDir := work, programDir := program }

/-! ## Small laws -/

/-- What stands at a place stands in a directory. -/
theorem node?_append_singleton (t : FileTree α) (p : Place) (name : EntryName) :
    t.node? (p ++ [name]) = match t.node? p with
      | some (.dir entries) => entries.lookup name
      | _ => none := by
  unfold node?
  generalize Node.dir t.root = n
  induction p generalizing n with
  | nil =>
    cases n with
    | dir entries => cases h : entries.lookup name <;> simp [Node.find?, h]
    | file _ => rfl
    | link _ => rfl
  | cons q p ih =>
    cases n with
    | dir entries =>
      simp only [List.cons_append, Node.find?]
      cases entries.lookup q with
      | none => rfl
      | some m => exact ih m
    | file _ => rfl
    | link _ => rfl

/-- Bounds on where entries are looked up do not change where moves lead. -/
theorem walk_anywhere {t : FileTree α} {within : Place → Bool → Bool} {links : Nat}
    {place p : Place} {todo : List Move} (h : t.walk within links place todo = some p) :
    t.walk anywhere links place todo = some p := by
  fun_induction walk t within links place todo <;> unfold walk <;> simp_all [anywhere]

/-- A path that is not too long leads to the place that its full name is the name of. -/
theorem canonical?_eq_some {t : FileTree α} {path name : String}
    (short : path.utf8ByteSize ≤ maxPathBytes) (h : t.canonical? path = some name) :
    ∃ p, t.resolve? path = some p ∧ fullName p = name := by
  unfold canonical? at h
  split at h
  · cases h
  · rename_i some_path
    obtain ⟨p, hp, e⟩ := Option.map_eq_some_iff.1 h
    refine ⟨p, ?_, e⟩
    rw [resolve?, if_neg (by simp only [some_path, false_or]; omega)]
    exact walk_anywhere hp

/-- A path leads to a file exactly if there is content to be found. -/
theorem isFile_iff {t : FileTree α} {path : String} :
    t.isFile path = true ↔ ∃ c, t.find? path = some (.file c) := by
  unfold isFile content?
  split
  · rename_i c h; exact ⟨fun _ => ⟨c, h⟩, fun _ => rfl⟩
  · rename_i h
    simp only [Option.isSome_none, Bool.false_eq_true, false_iff, not_exists]
    exact fun c e => h c e

/-- Where every directory can be listed, each can. -/
theorem mayList_of_unlistable_nil {t : FileTree α} (all : t.unlistable = []) (path : String) :
    t.mayList path = true := by
  simp [mayList, all]

/-- What a listing gives are the names that are there. -/
theorem list?_eq_some_iff {t : FileTree α} {path : String} {names : List EntryName} :
    t.list? path = some names ↔ t.mayList path = true ∧ t.entries? path = some names := by
  unfold list?
  split
  · rename_i may
    exact (and_iff_right may).symm
  · rename_i may
    exact iff_of_false (fun given => nomatch given) fun both => may both.1

end FileTree

end SceneSchema
