/-!
# Paths as text

A path is kept as the text it was given as, and shown as that text. What it means is decided by its
components (`Path.components`): the text is cut at slashes; empty pieces, and pieces that are one
dot and not the first, say nothing. Two paths are equal if their components are (`Path.same`), so
`a`, `a/`, `a//` and `a/.` are equal while `./a` and `a` are not.

Lists of directories are written in one text with colons between them; `Path.splitList` cuts at
every colon and `Path.joinList` puts colons in between.

Main statements: `pieces_intercalate`, cutting undoes joining where the separator does not occur in
the parts; `intercalate_pieces`, joining undoes cutting always.
-/

namespace SceneSchema.Path

/-! ## Cutting text -/

/-- The pieces between the separators, empty ones included. -/
def pieces (sep : Char) : List Char → List (List Char)
  | [] => [[]]
  | c :: rest =>
      if c = sep then [] :: pieces sep rest
      else
        match pieces sep rest with
        | [] => [[c]]
        | p :: ps => (c :: p) :: ps

/-- There is at least one piece. -/
theorem pieces_ne_nil (sep : Char) (s : List Char) : pieces sep s ≠ [] := by
  induction s with
  | nil => simp [pieces]
  | cons c rest ih =>
    simp only [pieces]
    split
    · simp
    · split <;> simp

/-- Joining the pieces gives the text again. -/
theorem intercalate_pieces (sep : Char) (s : List Char) :
    List.intercalate [sep] (pieces sep s) = s := by
  induction s with
  | nil => rfl
  | cons c rest ih =>
    have some_piece := pieces_ne_nil sep rest
    simp only [pieces]
    split
    · rename_i h
      subst h
      cases hp : pieces c rest with
      | nil => exact absurd hp some_piece
      | cons p ps => rw [hp] at ih; simp_all [List.intercalate]
    · cases hp : pieces sep rest with
      | nil => exact absurd hp some_piece
      | cons p ps =>
        rw [hp] at ih
        cases ps <;> simp_all [List.intercalate]

/-- No piece has the separator in it. -/
theorem not_mem_of_mem_pieces {sep : Char} {s p : List Char} (h : p ∈ pieces sep s) : sep ∉ p := by
  induction s generalizing p with
  | nil => simp [pieces] at h; simp [h]
  | cons c rest ih =>
    simp only [pieces] at h
    split at h
    · rcases List.mem_cons.1 h with rfl | h
      · simp
      · exact ih h
    · rename_i hc
      split at h
      · simp only [List.mem_singleton] at h
        subst h
        simp [Ne.symm hc]
      · rename_i q qs hq
        rcases List.mem_cons.1 h with rfl | h
        · have := ih (p := q) (by rw [hq]; exact List.mem_cons_self)
          simp [Ne.symm hc, this]
        · exact ih (by rw [hq]; exact List.mem_cons_of_mem _ h)

/-- A text without the separator is one piece. -/
theorem pieces_of_not_mem {sep : Char} {a : List Char} (h : sep ∉ a) : pieces sep a = [a] := by
  induction a with
  | nil => rfl
  | cons c rest ih =>
    obtain ⟨hc, hrest⟩ := List.ne_and_not_mem_of_not_mem_cons h
    rw [pieces, if_neg (Ne.symm hc), ih hrest]

/-- The first separator ends the first piece. -/
theorem pieces_append_cons {sep : Char} {a : List Char} (h : sep ∉ a) (b : List Char) :
    pieces sep (a ++ sep :: b) = a :: pieces sep b := by
  induction a with
  | nil => simp [pieces]
  | cons c rest ih =>
    obtain ⟨hc, hrest⟩ := List.ne_and_not_mem_of_not_mem_cons h
    rw [List.cons_append, pieces, if_neg (Ne.symm hc), ih hrest]

/-- Cutting undoes joining, where the separator does not occur in the parts. -/
theorem pieces_intercalate {sep : Char} {parts : List (List Char)} (some_part : parts ≠ [])
    (h : ∀ p ∈ parts, sep ∉ p) : pieces sep (List.intercalate [sep] parts) = parts := by
  induction parts with
  | nil => exact absurd rfl some_part
  | cons p rest ih =>
    have hp := h p List.mem_cons_self
    cases rest with
    | nil => rw [List.intercalate_singleton, pieces_of_not_mem hp]
    | cons q rest =>
      have hrest := ih (List.cons_ne_nil q rest) fun r hr => h r (List.mem_cons_of_mem p hr)
      rw [List.intercalate_cons_cons, List.append_assoc, List.singleton_append,
        pieces_append_cons hp, hrest]

/-! ## Lists of directories -/

/-- The directories of a list, empty ones included. -/
def splitList (s : String) : List String := (pieces ':' s.toList).map String.ofList

/-- The directories in one text. -/
def joinList (dirs : List String) : String := ":".intercalate dirs

/-! ## Components -/

/-- What a part of a path says. -/
inductive Component where
  /-- Start at the root. -/
  | root
  /-- Stay. -/
  | here
  /-- Go one up. -/
  | up
  /-- Go down to the entry of the name. -/
  | down (name : String)
  deriving DecidableEq, Repr

/-- The component that a piece says, unless it says nothing; a dot counts only at the start of a
path that does not start at the root. -/
def ofPiece (first : Bool) (p : List Char) : Option Component :=
  if p = [] then none
  else if p = ['.'] then if first then some .here else none
  else if p = ['.', '.'] then some .up
  else some (.down (String.ofList p))

/-- The components that the pieces of a path say. -/
def ofPieces : List (List Char) → List Component
  | [] => []
  | p :: ps =>
      if p = [] ∧ ps ≠ [] then .root :: ps.filterMap (ofPiece false)
      else (ofPiece true p).toList ++ ps.filterMap (ofPiece false)

/-- The components of a path. -/
def components (path : String) : List Component := ofPieces (pieces '/' path.toList)

/-- Equality of paths, by components. -/
def same (a b : String) : Bool := components a == components b

/-- Whether the path starts at the root. -/
def isAbsolute (path : String) : Bool := path.toList.head? == some '/'

/-- The name that a path ends in, unless it ends in `..` or names nothing. -/
def fileName? (path : String) : Option String :=
  match (components path).getLast? with
  | some (.down name) => some name
  | _ => none

/-- Whether a piece behind the first says nothing. -/
def isSilent (p : List Char) : Bool := p == [] || p == ['.']

/-- The pieces without those at the end that say nothing. -/
def trimSilent (ps : List (List Char)) : List (List Char) := (ps.reverse.dropWhile isSilent).reverse

/-- The text of a path before its last component, without slashes and dots at its end that say
nothing; the root and the empty path have no component to lose. -/
def parent? (path : String) : Option String :=
  match pieces '/' path.toList with
  | [] => none
  | first :: rest =>
      let kept := trimSilent rest
      let before := trimSilent kept.dropLast
      if kept = [] then if first = [] then none else some ""
      else if first = [] ∧ before = [] then some "/"
      else some (String.ofList (List.intercalate ['/'] (first :: before)))

/-- A path seen from a directory. -/
def join (dir path : String) : String :=
  if isAbsolute path || dir = "" then path
  else if dir.toList.getLast? = some '/' then dir ++ path
  else dir ++ "/" ++ path

/-- A file name without what follows its last dot, if a dot stands behind its first character. -/
def stem (name : String) : String :=
  let back := name.toList.reverse
  let kept := (back.dropWhile (· ≠ '.')).drop 1
  if kept = [] then name else String.ofList kept.reverse

/-! ## Small laws -/

/-- A path compares equal to itself. -/
theorem same_refl (a : String) : same a a = true := by simp [same]

/-- Paths compare equal both ways. -/
theorem same_comm (a b : String) : same a b = same b a := by
  rw [Bool.eq_iff_iff]; simp only [same, beq_iff_eq]; exact eq_comm

/-- The pieces that say nothing are the silent ones. -/
theorem ofPiece_eq_none_iff {p : List Char} : ofPiece false p = none ↔ isSilent p = true := by
  unfold ofPiece isSilent
  split
  · simp [*]
  · split
    · simp [*]
    · split <;> simp [*]

/-- What is left ends in a piece that says something. -/
theorem ne_silent_of_trimSilent {ps front : List (List Char)} {p : List Char}
    (h : trimSilent ps = front ++ [p]) : isSilent p = false := by
  have h := congrArg List.reverse h
  rw [trimSilent, List.reverse_reverse, List.reverse_append] at h
  have := List.head?_dropWhile_not isSilent ps.reverse
  simpa [h] using this

/-- Trimming adds no piece. -/
theorem mem_of_mem_trimSilent {ps : List (List Char)} {p : List Char} (h : p ∈ trimSilent ps) :
    p ∈ ps := by
  have := (List.dropWhile_suffix isSilent).mem (List.mem_reverse.1 h)
  exact List.mem_reverse.1 this

/-- The parent is a front of the text, down to the end of a component. -/
example : parent? "./a//./b/." = some "./a" ∧ parent? "//a" = some "/" ∧ parent? "a" = some "" ∧
    parent? "/" = none := by decide +kernel

/-- Trailing slashes and dots say nothing; a leading dot does. -/
example : same "a" "a//" ∧ same "a" "a/." ∧ ¬ same "./a" "a" := by decide +kernel

end SceneSchema.Path
