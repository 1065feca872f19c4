import Mathlib.Data.List.Perm.Basic
import SceneSchema.Proofs.Disk.FullNames

/-!
# Disks that list their entries in another order

Two disks can have the same things at the same places and yet list the entries of a directory in
different orders. A path leads to the same place on both, because it is looked up name by name.

* `Node.Alike.of_perm`, `Node.Alike.cons` — directories with the same entries in another order are
  alike, and so are directories that have alike entries.
* `FileTree.Rearranged.walk_eq` — **moves lead to the same place on a disk that is rearranged.**
* `FileTree.Rearranged.holds`, `FileTree.Rearranged.shows` — a directory holds the same files there,
  and shows the same.
-/

namespace SceneSchema

/-! ### Nodes -/

namespace Node

variable {α : Type} {n n' : Node α} {entries entries' : Entries α}

/-- A node without what is in it, if it is a directory. -/
def shallow : Node α → Node α
  | .dir _ => .dir []
  | n => n

/-- Two nodes that have the same things at the same places in them. -/
def Alike (n n' : Node α) : Prop := ∀ p, (n'.find? p).map shallow = (n.find? p).map shallow

/-- Every node is like itself. -/
theorem Alike.refl (n : Node α) : n.Alike n := fun _ => rfl

/-- Likeness goes both ways. -/
theorem Alike.symm (alike : n.Alike n') : n'.Alike n := fun p => (alike p).symm

/-- Directories are alike if they list the same entries, in whatever order. -/
theorem Alike.of_perm (distinct : (Table.keys entries).Nodup) (perm : entries.Perm entries') :
    (Node.dir entries).Alike (.dir entries') := by
  intro p
  rcases p with _ | ⟨name, p⟩
  · rfl
  · have distinct' : (Table.keys entries').Nodup := (perm.map Prod.fst).nodup_iff.1 distinct
    have same : entries'.lookup name = entries.lookup name := by
      refine Option.ext fun n => ?_
      rw [lookup_eq_some_iff_mem distinct', lookup_eq_some_iff_mem distinct, perm.mem_iff]
    simp only [find?, same]

/-- Directories are alike if their first entries are, and the others. -/
theorem Alike.cons (first : n.Alike n') (others : (Node.dir entries).Alike (.dir entries'))
    (name : EntryName) :
    (Node.dir ((name, n) :: entries)).Alike (.dir ((name, n') :: entries')) := by
  intro p
  rcases p with _ | ⟨name', p⟩
  · rfl
  · have others := others (name' :: p)
    simp only [find?, List.lookup_cons] at others ⊢
    cases name' == name with
    | true => exact first p
    | false => exact others

end Node

/-! ### Disks -/

namespace FileTree

variable {α : Type} {t t' : FileTree α} {p : Place}

/-- The other disk has the same things at the same places, and the same directories can be listed:
it may differ in the order in which its directories list what is in them. -/
structure Rearranged (t t' : FileTree α) : Prop where
  /-- Relative paths start at the same place. -/
  workDir : t'.workDir = t.workDir
  /-- The same directories cannot be listed. -/
  unlistable : t'.unlistable = t.unlistable
  /-- From the root down, the same things are at the same places. -/
  look : (Node.dir t.root).Alike (.dir t'.root)

namespace Rearranged

/-- A disk that rearranges another is rearranged by it. -/
theorem symm (same : t.Rearranged t') : t'.Rearranged t :=
  ⟨same.workDir.symm, same.unlistable.symm, same.look.symm⟩

/-- At every place there are the same things, up to what directories list. -/
theorem look_at (same : t.Rearranged t') (p : Place) :
    (t'.node? p).map Node.shallow = (t.node? p).map Node.shallow :=
  same.look p

/-- Where there is a directory on the one disk there is one on the other. -/
theorem dir (same : t.Rearranged t') {entries : Entries α}
    (there : t.node? p = some (.dir entries)) : ∃ entries', t'.node? p = some (.dir entries') := by
  have look := same.look_at p
  rw [there] at look
  obtain ⟨n, there', shallow⟩ := Option.map_eq_some_iff.1 look
  cases n with
  | dir entries' => exact ⟨entries', there'⟩
  | file | link => cases shallow

/-- What is no directory is there unchanged. -/
theorem of_not_dir (same : t.Rearranged t') {n : Node α} (there : t.node? p = some n)
    (noDir : ∀ entries, n ≠ .dir entries) : t'.node? p = some n := by
  have look := same.look_at p
  rw [there] at look
  obtain ⟨n', there', shallow⟩ := Option.map_eq_some_iff.1 look
  cases n with
  | dir entries => exact absurd rfl (noDir entries)
  | file | link =>
    cases n' <;> cases shallow
    exact there'

/-- What is no link is no link there. -/
theorem noLink (same : t.Rearranged t') {n : Node α} (there : t.node? p = some n)
    (other : ∀ target, n ≠ .link target) :
    ∃ n', t'.node? p = some n' ∧ ∀ target, n' ≠ .link target := by
  cases n with
  | dir entries =>
    obtain ⟨entries', there'⟩ := same.dir there
    exact ⟨.dir entries', there', by rintro target ⟨⟩⟩
  | file content => exact ⟨.file content, same.of_not_dir there (by rintro entries ⟨⟩), other⟩
  | link target => exact absurd rfl (other target)

/-- Where there is nothing on the one disk there is nothing on the other. -/
theorem none (same : t.Rearranged t') (missing : t.node? p = none) : t'.node? p = none := by
  have look := same.look_at p
  rw [missing] at look
  exact Option.map_eq_none_iff.1 look

/-- **Moves lead to the same place.** -/
theorem walk_eq (same : t.Rearranged t') (within : Place → Bool → Bool) (links : Nat)
    (place : Place) (todo : List Move) :
    t'.walk within links place todo = t.walk within links place todo := by
  fun_induction walk t within links place todo with
  | case1 links place => rw [walk_nil]
  | case2 links place rest entries dir ih =>
    obtain ⟨entries', dir'⟩ := same.dir dir
    rw [walk_stay dir', ih]
  | case3 links place rest entries dir ih =>
    obtain ⟨entries', dir'⟩ := same.dir dir
    rw [walk_up dir', ih]
  | case4 links place rest entries dir name missing =>
    obtain ⟨entries', dir'⟩ := same.dir dir
    exact walk_missing dir' (same.none missing)
  | case5 place rest entries dir name target link =>
    obtain ⟨entries', dir'⟩ := same.dir dir
    rw [walk, dir']
    simp only [same.of_not_dir link (by rintro entries ⟨⟩)]
  | case6 place rest entries dir name target link links inside ih =>
    obtain ⟨entries', dir'⟩ := same.dir dir
    rw [walk_down_link dir' (same.of_not_dir link (by rintro entries ⟨⟩)) inside, ih]
  | case7 place rest entries dir name target link links outside =>
    obtain ⟨entries', dir'⟩ := same.dir dir
    rw [walk, dir']
    simp only [same.of_not_dir link (by rintro entries ⟨⟩), if_neg outside]
  | case8 links place rest entries dir name node noLink there inside ih =>
    obtain ⟨entries', dir'⟩ := same.dir dir
    obtain ⟨node', there', noLink'⟩ := same.noLink there noLink
    rw [walk_down dir' there' noLink' inside, ih]
  | case9 links place rest entries dir name node noLink there outside =>
    obtain ⟨entries', dir'⟩ := same.dir dir
    obtain ⟨node', there', noLink'⟩ := same.noLink there noLink
    exact walk_down_outside dir' there' noLink' outside
  | case10 links place move rest noDir =>
    refine walk_outside fun entries' dir' => ?_
    obtain ⟨entries, dir⟩ := same.symm.dir dir'
    exact noDir entries dir

/-- A path leads to the same place. -/
theorem resolve?_eq (same : t.Rearranged t') (path : String) :
    t'.resolve? path = t.resolve? path := by
  rw [resolve?, resolve?, same.workDir, same.walk_eq]

/-- A path has the same full name. -/
theorem canonical?_eq (same : t.Rearranged t') (path : String) :
    t'.canonical? path = t.canonical? path := by
  rw [canonical?, canonical?, same.workDir, same.walk_eq]

/-- What is a file is one there, with the same content. -/
theorem isFile_of_isFile (same : t.Rearranged t') {path : String} (file : t.isFile path = true) :
    t'.isFile path = true := by
  obtain ⟨content, found⟩ := isFile_iff.1 file
  obtain ⟨p, leads, there⟩ := Option.bind_eq_some_iff.1 found
  refine isFile_iff.2 ⟨content, ?_⟩
  rw [find?, same.resolve?_eq, leads]
  exact same.of_not_dir there (by rintro entries ⟨⟩)

/-- A directory holds the same files, in whatever order it lists them. -/
theorem holds (same : t.Rearranged t') {dir : String} {name : EntryName} (given : dir ≠ "")
    (holds : t.Holds dir name) : t'.Holds dir name :=
  (holds_iff given name).2 (same.isFile_of_isFile holds.2)

/-- The same directories can be listed. -/
theorem mayList_eq (same : t.Rearranged t') (path : String) : t'.mayList path = t.mayList path := by
  rw [mayList, mayList, same.resolve?_eq, same.unlistable]

/-- A directory shows the same files. -/
theorem shows (same : t.Rearranged t') {dir : String} {name : EntryName} (given : dir ≠ "")
    (shows : t.Shows dir name) : t'.Shows dir name := by
  obtain ⟨may, holds⟩ := shows_iff.1 shows
  exact shows_iff.2 ⟨(same.mayList_eq dir).trans may, same.holds given holds⟩

end Rearranged

end FileTree

end SceneSchema
