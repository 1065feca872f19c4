import Mathlib.Data.List.Induction
import SceneSchema.Proofs.Disk.Launcher

/-!
# What is on the search path, and in what order

The search path is put together from four sources by a fold that leaves a directory out if it is
empty or equal, as a path, to one that is there already. Which directories are there already
depends on what was left out before; `SearchPath.firsts` says without the fold what stays: of each
list, the directories that are not empty and not equal to any earlier one.

* `Path.components_eq_nil_iff` — only the empty path has no components, so that nothing else is
  equal to it.
* `SearchPath.any_distinct` — a directory is equal to one that stayed if it is equal to any.
* `SearchPath.distinct_eq_firsts` — **the fold keeps the first of each kind**.
* `SearchPath.Sources.all_ofLists` — the sources, in order.

**Main statement** (`SearchPath.Sources.dirs_ofLists`): what the search path is, for any lists of
directories given explicitly and any variables; so nothing is lost, nothing comes twice, and
directories stay in order.
-/

namespace SceneSchema

/-- If no two elements of a list both pass a test, then one that does is the only one. -/
theorem filter_eq_singleton {α : Type} {p : α → Bool} {l : List α} {a : α} (there : a ∈ l)
    (passes : p a = true) (apart : l.Pairwise fun b c => ¬ (p b = true ∧ p c = true)) :
    l.filter p = [a] := by
  have known : a ∈ l.filter p := List.mem_filter.2 ⟨there, passes⟩
  have apart := apart.filter p
  have all : ∀ b ∈ l.filter p, p b = true := fun b there => (List.mem_filter.1 there).2
  generalize l.filter p = passing at known apart all
  rcases passing with _ | ⟨b, _ | ⟨c, rest⟩⟩
  · cases known
  · rw [List.mem_singleton.1 known]
  · have first := all b List.mem_cons_self
    have second := all c (List.mem_cons_of_mem b List.mem_cons_self)
    exact absurd ⟨first, second⟩ ((List.pairwise_cons.1 apart).1 c List.mem_cons_self)

namespace Path

/-- As the first piece of a path, only an empty one says nothing. -/
theorem ofPiece_first_eq_none_iff {p : List Char} : ofPiece true p = none ↔ p = [] := by
  unfold ofPiece
  split
  · simp [*]
  · split
    · simp [*]
    · split <;> simp [*]

/-- **Only the empty path has no components.** -/
theorem components_eq_nil_iff {path : String} : components path = [] ↔ path = "" := by
  constructor
  · intro none
    have whole := intercalate_pieces '/' path.toList
    rw [components] at none
    rcases cut : pieces '/' path.toList with _ | ⟨p, ps⟩
    · exact absurd cut (pieces_ne_nil '/' path.toList)
    rw [cut] at none whole
    by_cases rooted : p = [] ∧ ps ≠ []
    · rw [ofPieces, if_pos rooted] at none
      cases none
    · rw [ofPieces, if_neg rooted, List.append_eq_nil_iff, Option.toList_eq_nil_iff,
        ofPiece_first_eq_none_iff] at none
      have single : ps = [] := Classical.not_not.1 fun more => rooted ⟨none.1, more⟩
      rw [none.1, single, List.intercalate_singleton] at whole
      exact String.toList_eq_nil_iff.1 whole.symm
  · rintro rfl
    decide +kernel

/-- No path but the empty one compares equal to it. -/
theorem same_empty {d : String} (given : d ≠ "") : same d "" = false := by
  rw [same, beq_eq_false_iff_ne, components_eq_nil_iff.2 rfl]
  exact fun none => given (components_eq_nil_iff.1 none)

/-- Paths that are equal are equal to the same paths. -/
theorem same_congr {a b : String} (equal : same a b = true) (c : String) :
    same a c = same b c := by
  rw [same, beq_iff_eq] at equal
  rw [same, same, equal]

end Path

namespace SearchPath

/-! ### The first of each kind -/

/-- Whether a directory is not empty and not equal, as a path, to any of those before it. -/
def isNew (before : List String) (d : String) : Bool := d ≠ "" && !before.any (Path.same d)

/-- The directories of a list that are not empty and not equal to any earlier one. -/
def firsts (dirs : List String) : List String :=
  (dirs.zipIdx.filter fun p => isNew (dirs.take p.2) p.1).map (·.1)

variable {dirs more : List String} {d e : String}

/-- One more directory comes last, unless it is empty or was there before. -/
theorem distinct_concat :
    distinct (dirs ++ [d]) = distinct dirs ++ if isNew (distinct dirs) d then [d] else [] := by
  rw [distinct, List.foldl_append, List.foldl_cons, List.foldl_nil, ← distinct, isNew]
  by_cases empty : d = "" <;> by_cases known : (distinct dirs).any (Path.same d) = true <;>
    simp [empty, known]

/-- One more directory is a first one if none before compares equal to it. -/
theorem firsts_concat :
    firsts (dirs ++ [d]) = firsts dirs ++ if isNew dirs d then [d] else [] := by
  have old : (dirs.zipIdx.filter fun p => isNew ((dirs ++ [d]).take p.2) p.1) =
      dirs.zipIdx.filter fun p => isNew (dirs.take p.2) p.1 := by
    refine List.filter_congr fun (e, i) there => ?_
    have inside : i < dirs.length := (List.mem_zipIdx' there).1
    rw [List.take_append_of_le_length (Nat.le_of_lt inside)]
  rw [firsts, List.zipIdx_append, List.filter_append, List.map_append, old, ← firsts]
  cases new : isNew dirs d <;> simp [new]

/-- **To be equal to one that stayed is to be equal to any.** -/
theorem any_distinct (given : e ≠ "") :
    (distinct dirs).any (Path.same e) = dirs.any (Path.same e) := by
  induction dirs using List.reverseRecOn with
  | nil => rfl
  | append_singleton dirs d ih =>
    rw [distinct_concat, List.any_append, List.any_append, ih, List.any_cons, List.any_nil,
      Bool.or_false]
    cases new : isNew (distinct dirs) d with
    | true => rw [if_pos rfl, List.any_cons, List.any_nil, Bool.or_false]
    | false =>
      rw [if_neg Bool.false_ne_true, List.any_nil, Bool.or_false]
      rw [isNew, Bool.and_eq_false_iff] at new
      rcases new with empty | known
      · have empty : d = "" := by simpa using empty
        rw [empty, Path.same_empty given, Bool.or_false]
      · rcases equal : Path.same e d with _ | _
        · rw [Bool.or_false]
        · -- what stayed in its place is equal to this one, too
          rw [← ih, funext (Path.same_congr equal)]
          simpa using known

/-- **The fold keeps the first of each kind.** -/
theorem distinct_eq_firsts (dirs : List String) : distinct dirs = firsts dirs := by
  induction dirs using List.reverseRecOn with
  | nil => rfl
  | append_singleton dirs d ih =>
    have same : isNew (distinct dirs) d = isNew dirs d := by
      by_cases empty : d = ""
      · rw [isNew, isNew, empty]
        rfl
      · rw [isNew, isNew, any_distinct empty]
    rw [distinct_concat, firsts_concat, same, ih]

/-! ### What follows for the search path -/

/-- The search keeps directories in their order and adds none. -/
theorem distinct_sublist (dirs : List String) : (distinct dirs).Sublist dirs := by
  have places : (firsts dirs).Sublist (dirs.zipIdx.map (·.1)) := List.filter_sublist.map _
  rwa [List.zipIdx_map_fst, ← distinct_eq_firsts] at places

/-- No two that stayed are equal. -/
theorem pairwise_distinct (dirs : List String) :
    (distinct dirs).Pairwise fun a b => Path.same a b = false := by
  induction dirs using List.reverseRecOn with
  | nil => exact List.Pairwise.nil
  | append_singleton dirs d ih =>
    rw [distinct_concat, List.pairwise_append]
    refine ⟨ih, ?_, fun a there b new => ?_⟩
    · split
      · exact List.pairwise_singleton ..
      · exact List.Pairwise.nil
    · split at new
      · rename_i fresh
        obtain rfl := List.mem_singleton.1 new
        rw [isNew, Bool.and_eq_true, Bool.not_eq_true', List.any_eq_false] at fresh
        rw [Path.same_comm, ← Bool.not_eq_true]
        exact fresh.2 a there
      · cases new

/-- Every directory that is not empty is equal to one that stayed. -/
theorem exists_same_of_mem (there : d ∈ dirs) (given : d ≠ "") :
    ∃ e ∈ distinct dirs, Path.same e d = true := by
  have any : dirs.any (Path.same d) = true :=
    List.any_eq_true.2 ⟨d, there, Path.same_refl d⟩
  rw [← any_distinct given, List.any_eq_true] at any
  obtain ⟨e, stays, equal⟩ := any
  exact ⟨e, stays, Path.same_comm e d ▸ equal⟩

/-- No directory that is searched has the empty path. -/
theorem ne_empty_of_mem_distinct (there : d ∈ distinct dirs) : d ≠ "" := by
  rw [distinct_eq_firsts, firsts, List.mem_map] at there
  obtain ⟨p, new, rfl⟩ := there
  have new := (List.mem_filter.1 new).2
  rw [isNew, Bool.and_eq_true, decide_eq_true_eq] at new
  exact new.1

/-- Of the directories that are equal to a given one, exactly one stays. -/
theorem exists_filter_distinct (there : d ∈ dirs) (given : d ≠ "") :
    ∃ e, (distinct dirs).filter (Path.same d) = [e] := by
  obtain ⟨e, stays, equal⟩ := exists_same_of_mem there given
  refine ⟨e, filter_eq_singleton stays (Path.same_comm d e ▸ equal) ?_⟩
  refine (pairwise_distinct dirs).imp fun {f g} other => ?_
  rintro ⟨first, second⟩
  rw [← Path.same_congr first, second] at other
  cases other

/-! ### The sources -/

/-- Empty directories may be left out beforehand. -/
theorem distinct_filter_append (dirs more : List String) :
    distinct (dirs.filter (· ≠ "") ++ more) = distinct (dirs ++ more) := by
  have skips : (fun (acc : List String) d => if decide (d ≠ "") = true then
        (if d = "" || acc.any (Path.same d) then acc else acc ++ [d]) else acc) =
      fun acc d => if d = "" || acc.any (Path.same d) then acc else acc ++ [d] := by
    funext acc d
    by_cases empty : d = "" <;> simp [empty]
  rw [distinct, List.foldl_append, List.foldl_filter, skips, ← List.foldl_append]

namespace Sources

variable {α : Type}

/-- The sources when lists are given explicitly, one after the other, with the variables. -/
def ofLists (lists : List String) (modules programs : Option String) : Sources :=
  lists.foldl withExplicit { modules, programs }

/-- All directories that lists and variables name, with those that are empty. -/
def named (t : FileTree α) (lists : List String) (modules programs : Option String) :
    List String :=
  lists.flatMap Path.splitList ++ ["."] ++ (modules.map Path.splitList).getD [] ++
    (guess? t { programs }).toList

/-- Lists that are given one after the other are all kept, without their empty pieces. -/
theorem foldl_withExplicit (lists : List String) (s : Sources) :
    lists.foldl withExplicit s =
      { s with explicit := s.explicit ++ (lists.flatMap Path.splitList).filter (· ≠ "") } := by
  induction lists generalizing s with
  | nil => simp
  | cons list lists ih => simp [ih, withExplicit]

/-- What the search path is made of: everything that is named, once the empty directories go. -/
theorem dirs_eq_distinct (t : FileTree α) (lists : List String) (modules programs : Option String) :
    (ofLists lists modules programs).dirs t = distinct (named t lists modules programs) := by
  rw [dirs, all, ofLists, foldl_withExplicit, List.nil_append, named]
  simp only [List.append_assoc]
  exact distinct_filter_append _ _

/-- **The search path is the first of each directory that is named.** It has the directories of the
lists given explicitly, the working directory, those of the variable and the guess, in this order,
but for empty ones and those equal, as paths, to an earlier one. So no two are equal, every
directory that is named and not empty is there, they stand in the order in which they are named,
exactly one is the working directory; and no matter which further lists are given, and where among
the others, all of them are still there. -/
theorem dirs_ofLists (t : FileTree α) (lists : List String) (modules programs : Option String) :
    (ofLists lists modules programs).dirs t = firsts (named t lists modules programs) ∧
    ((ofLists lists modules programs).dirs t).Pairwise (fun a b => Path.same a b = false) ∧
    (∀ d ∈ named t lists modules programs, d ≠ "" →
      ∃ e ∈ (ofLists lists modules programs).dirs t, Path.same e d = true) ∧
    ((ofLists lists modules programs).dirs t).Sublist (named t lists modules programs) ∧
    (∃ here, ((ofLists lists modules programs).dirs t).filter (Path.same ".") = [here]) ∧
    ∀ lists', lists ⊆ lists' → ∀ d ∈ (ofLists lists modules programs).dirs t,
      ∃ e ∈ (ofLists lists' modules programs).dirs t, Path.same e d = true := by
  simp only [dirs_eq_distinct]
  have workDir : "." ∈ named t lists modules programs := by simp [named]
  refine ⟨distinct_eq_firsts _, pairwise_distinct _, fun d => exists_same_of_mem,
    distinct_sublist _, exists_filter_distinct workDir (by decide), fun lists' more d stays => ?_⟩
  have there := (distinct_sublist _).subset stays
  have still : named t lists modules programs ⊆ named t lists' modules programs := by
    have further : lists.flatMap Path.splitList ⊆ lists'.flatMap Path.splitList := by
      intro d there
      obtain ⟨list, given, there⟩ := List.mem_flatMap.1 there
      exact List.mem_flatMap.2 ⟨list, more given, there⟩
    simp only [named, List.append_assoc]
    exact List.append_subset.2 ⟨List.subset_append_of_subset_left _ further,
      List.subset_append_right _ _⟩
  exact exists_same_of_mem (still there) (ne_empty_of_mem_distinct stays)

end Sources

/-! ### An installation -/

/-- A disk with the launcher in the directory of programs. -/
def launcherDisk : FileTree Unit := ⟨[(binName, .dir [(launcherName, .file ())])], [], [], []⟩

/-- The guess on this disk. -/
theorem guess?_launcherDisk :
    guess? launcherDisk { programs := some "/bin" } = some "/rdl2dso" := by
  have moves : Path.moves "/bin" = [.stay, .down binName] := by decide +kernel
  have walk {within : Place → Bool → Bool} (inside : within [binName] false = true) :
      launcherDisk.walk within FileTree.maxLinks (FileTree.start "/bin" launcherDisk.workDir)
        (Path.moves "/bin") = some [binName] := by
    have atRoot : launcherDisk.workDir = [] := rfl
    rw [atRoot, FileTree.start_nil, moves]
    exact FileTree.walk_in_root rfl (by rintro target ⟨⟩) inside
  have leads : launcherDisk.resolve? "/bin" = some [binName] := by
    rw [FileTree.resolve?_of_short (by decide) (by decide +kernel), walk rfl]
  have named : launcherDisk.canonical? "/bin" = some (FileTree.fullName [binName]) := by
    rw [FileTree.canonical?, if_neg (by decide), walk (by decide +kernel)]
    rfl
  have holds : HoldsLauncher launcherDisk "/bin" := by
    have stem : Path.stem launcherName.text = launcher := by decide +kernel
    have there : launcherDisk.node? [binName, launcherName] = some (.file ()) := rfl
    exact holdsLauncher_of_holds (by decide) rfl stem
      (FileTree.holds_of_node? leads there (by decide +kernel))
  have alone : Path.splitList "/bin" = [] ++ "/bin" :: [] := by decide +kernel
  rw [guess?_of_first rfl alone (List.forall_mem_nil _) holds, beside_of_canonical? named,
    if_neg (List.cons_ne_nil _ _)]
  exact congrArg some (by decide +kernel)

/-- The statement at lists and a variable in which directories are spelled in several ways, with
empty pieces, and a guess: the spelling that comes first stays. With one more list in front, none is
lost. -/
theorem Sources.dirs_ofLists_spellings :
    (ofLists ["a:./", "a//:/rdl2dso/"] (some "b/.::./a") (some "/bin")).dirs launcherDisk =
        ["a", "./", "/rdl2dso/", "b/.", "./a"] ∧
      (ofLists ["a:./"] (some "b") (some "/bin")).dirs launcherDisk = ["a", "./", "b", "/rdl2dso"] ∧
      ["a:./"] ⊆ ["a/.", "a:./"] ∧
      ∃ e ∈ (ofLists ["a/.", "a:./"] (some "b") (some "/bin")).dirs launcherDisk,
        Path.same e "a" = true := by
  have first := (dirs_ofLists launcherDisk ["a:./", "a//:/rdl2dso/"] (some "b/.::./a")
    (some "/bin")).1
  obtain ⟨second, -, -, -, -, more⟩ :=
    dirs_ofLists launcherDisk ["a:./"] (some "b") (some "/bin")
  rw [named, guess?_launcherDisk] at first second
  have second := second.trans (show _ = ["a", "./", "b", "/rdl2dso"] by decide +kernel)
  have further : ["a:./"] ⊆ ["a/.", "a:./"] := List.subset_cons_self _ _
  exact ⟨first.trans (by decide +kernel), second, further,
    more ["a/.", "a:./"] further "a" (second ▸ List.mem_cons_self)⟩

end SearchPath

end SceneSchema
