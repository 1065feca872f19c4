import SceneSchema.Disk.FileTree

/-!
# Where the paths of entries lead

A directory's text joined with the name of an entry has the pieces of the directory, but for an
empty one at its end, and behind them the name (`Path.pieces_join`). So whoever follows it comes to
the directory first.

* `FileTree.walk_append` — where moves lead does not depend on what follows them.
* `FileTree.find?_in_root` — from the root, a path of one name leads to the entry of that name.
* `FileTree.entries?_of_isFile_join` — if an entry is a file, the directory is one, and has it among
  its entries; so that to hold a file is to lead to it (`FileTree.holds_iff`). To list it as well,
  the directory must be one that can be listed (`FileTree.shows_iff`).
* `Path.parent?_join` — the parent of such a path has the same pieces, but for those at its end that
  say nothing; `FileTree.resolve?_join_parent?` — **joined with the name again, it leads to the same
  place**.
* `FileTree.resolve?_join_here` — a name by itself leads where it does from the working directory.
-/

namespace SceneSchema

namespace Path

/-! ### Pieces of joined text -/

variable {sep : Char}

/-- What is before a separator and what is behind it are cut apart from each other. -/
theorem pieces_append (a b : List Char) :
    pieces sep (a ++ sep :: b) = pieces sep a ++ pieces sep b := by
  induction a with
  | nil => simp [pieces]
  | cons c rest ih =>
    simp only [List.cons_append, pieces, ih]
    split
    · rfl
    · rcases cut : pieces sep rest with _ | ⟨p, ps⟩
      · exact absurd cut (pieces_ne_nil sep rest)
      · rfl

/-- Every character but the separator is in a piece. -/
theorem mem_iff_of_pieces {c : Char} {s : List Char} (other : c ≠ sep) :
    c ∈ s ↔ ∃ p ∈ pieces sep s, c ∈ p := by
  induction s with
  | nil => simp [pieces]
  | cons first rest ih =>
    rw [List.mem_cons, ih, pieces]
    by_cases cut : first = sep
    · simp [cut, other]
    · rw [if_neg cut]
      rcases pieces sep rest with _ | ⟨p, ps⟩
      · simp
      · simp [or_assoc]

/-- The name of an entry is not empty. -/
theorem text_ne_empty (name : EntryName) : name.text ≠ "" := by
  intro empty
  have valid := name.valid
  rw [empty] at valid
  exact absurd valid (by decide +kernel)

/-- The name of an entry has no slash. -/
theorem slash_not_mem (name : EntryName) : '/' ∉ name.text.toList := by
  have valid := name.valid
  simp only [isEntryName, Bool.and_eq_true, Bool.not_eq_true', List.contains_eq_mem,
    decide_eq_false_iff_not] at valid
  exact valid.2

/-- The name of an entry says something. -/
theorem not_isSilent (name : EntryName) : isSilent name.text.toList = false := by
  have valid := name.valid
  simp only [isEntryName, Bool.and_eq_true, bne_iff_ne] at valid
  have some : name.text.toList ≠ [] := mt String.toList_eq_nil_iff.1 (text_ne_empty name)
  have noDot : name.text.toList ≠ ['.'] := fun e => valid.1.1.2 (String.toList_inj.1 e)
  simp [isSilent, some, noDot]

/-- The name of an entry is a relative path. -/
theorem isAbsolute_text (name : EntryName) : isAbsolute name.text = false := by
  have free := slash_not_mem name
  rw [isAbsolute, beq_eq_false_iff_ne]
  exact fun first => free (List.mem_of_head? first)

/-- The text of a directory joined with a path that does not start at the root. -/
theorem toList_join_of_relative {dir rel : String} (given : dir ≠ "")
    (relative : isAbsolute rel = false) :
    (join dir rel).toList =
      if dir.toList.getLast? = some '/' then dir.toList ++ rel.toList
      else dir.toList ++ '/' :: rel.toList := by
  rw [join, relative, Bool.false_or, if_neg (by simpa using given)]
  split <;> simp

/-- The text of a directory joined with the name of an entry. -/
theorem toList_join {dir : String} (given : dir ≠ "") (name : EntryName) :
    (join dir name.text).toList =
      if dir.toList.getLast? = some '/' then dir.toList ++ name.text.toList
      else dir.toList ++ '/' :: name.text.toList :=
  toList_join_of_relative given (isAbsolute_text name)

/-- An entry's path has a slash in it, behind its directory. -/
theorem slash_mem_join {dir : String} (given : dir ≠ "") (name : EntryName) :
    '/' ∈ (join dir name.text).toList := by
  rw [toList_join given]
  split
  · rename_i trailing
    exact List.mem_append_left _ (List.mem_of_getLast? trailing)
  · exact List.mem_append_right _ List.mem_cons_self

/-- What is joined to a path is not empty. -/
theorem join_ne_empty_of_relative {dir rel : String} (given : dir ≠ "")
    (relative : isAbsolute rel = false) : join dir rel ≠ "" := by
  intro empty
  have text := toList_join_of_relative given relative
  rw [empty] at text
  have none : dir.toList = [] := by
    split at text
    all_goals exact (List.append_eq_nil_iff.1 text.symm).1
  exact given (String.toList_eq_nil_iff.1 none)

/-- The path of an entry is not empty. -/
theorem join_ne_empty {dir : String} (given : dir ≠ "") (name : EntryName) :
    join dir name.text ≠ "" :=
  join_ne_empty_of_relative given (isAbsolute_text name)

/-- **The pieces of a joined path** are those of the directory, but for an empty one at the end, and
those of the path that it is joined with. -/
theorem pieces_join_of_relative {dir rel : String} (given : dir ≠ "")
    (relative : isAbsolute rel = false) :
    ∃ ps, ps ≠ [] ∧ pieces '/' (join dir rel).toList = ps ++ pieces '/' rel.toList ∧
      (pieces '/' dir.toList = ps ∨ pieces '/' dir.toList = ps ++ [[]]) := by
  rw [toList_join_of_relative given relative]
  split
  · rename_i trailing
    obtain ⟨front, split⟩ := List.getLast?_eq_some_iff.1 trailing
    refine ⟨pieces '/' front, pieces_ne_nil _ _, ?_, .inr ?_⟩
    · rw [split, List.append_assoc, List.singleton_append, pieces_append]
    · rw [split, pieces_append]
      rfl
  · exact ⟨pieces '/' dir.toList, pieces_ne_nil _ _, pieces_append .., .inl rfl⟩

/-- The pieces of an entry's path end in its name. -/
theorem pieces_join {dir : String} (given : dir ≠ "") (name : EntryName) :
    ∃ ps, ps ≠ [] ∧ pieces '/' (join dir name.text).toList = ps ++ [name.text.toList] ∧
      (pieces '/' dir.toList = ps ∨ pieces '/' dir.toList = ps ++ [[]]) := by
  have single := pieces_of_not_mem (slash_not_mem name)
  exact single ▸ pieces_join_of_relative given (isAbsolute_text name)

/-- A path is absolute if it has several pieces, of which the first is empty. -/
theorem isAbsolute_iff {path : String} :
    isAbsolute path = true ↔ ∃ ps, ps ≠ [] ∧ pieces '/' path.toList = [] :: ps := by
  rw [isAbsolute, beq_iff_eq]
  rcases path.toList with _ | ⟨c, rest⟩
  · simp [pieces]
  · rw [List.head?_cons, Option.some.injEq, pieces]
    by_cases slash : c = '/'
    · simp [slash, pieces_ne_nil]
    · rw [if_neg slash]
      rcases pieces '/' rest with _ | ⟨p, ps⟩ <;> simp [slash]

/-- A relative path joined to a directory starts where the directory starts. -/
theorem isAbsolute_join_of_relative {dir rel : String} (given : dir ≠ "")
    (relative : isAbsolute rel = false) : isAbsolute (join dir rel) = isAbsolute dir := by
  obtain ⟨c, rest, text⟩ := List.exists_cons_of_ne_nil
    (show dir.toList ≠ [] from fun e => given (String.toList_inj.1 e))
  rw [isAbsolute, isAbsolute, toList_join_of_relative given relative, text]
  split <;> rfl

/-- The path of an entry starts where that of its directory starts. -/
theorem isAbsolute_join {dir : String} (given : dir ≠ "") (name : EntryName) :
    isAbsolute (join dir name.text) = isAbsolute dir :=
  isAbsolute_join_of_relative given (isAbsolute_text name)

/-- A text from which characters were left out is no longer in bytes. -/
theorem utf8ByteSize_le_of_sublist {a b : String} (h : a.toList.Sublist b.toList) :
    a.utf8ByteSize ≤ b.utf8ByteSize := by
  have cons (c : Char) (l : List Char) : (String.ofList (c :: l)).utf8ByteSize =
      (String.ofList [c]).utf8ByteSize + (String.ofList l).utf8ByteSize := by
    rw [← String.utf8ByteSize_append, ← String.ofList_append, List.singleton_append]
  rw [← String.ofList_toList (s := a), ← String.ofList_toList (s := b)]
  generalize a.toList = l, b.toList = l' at h
  induction h with
  | slnil => exact Nat.le_refl _
  | cons c _ ih =>
    rw [cons c]
    exact Nat.le_add_left_of_le ih
  | @cons_cons l l' c _ ih =>
    rw [cons c l, cons c l']
    exact Nat.add_le_add_left ih _

/-- The path of an entry takes at least the bytes of its directory's. -/
theorem utf8ByteSize_le_join {dir : String} (given : dir ≠ "") (name : EntryName) :
    dir.utf8ByteSize ≤ (join dir name.text).utf8ByteSize := by
  refine utf8ByteSize_le_of_sublist ?_
  rw [toList_join given]
  split <;> exact List.sublist_append_left ..

/-- What is joined takes the bytes of both parts and at most one for a slash. -/
theorem utf8ByteSize_join_le (dir rel : String) :
    (join dir rel).utf8ByteSize ≤ dir.utf8ByteSize + 1 + rel.utf8ByteSize := by
  have slash : "/".utf8ByteSize = 1 := by decide +kernel
  rw [join]
  split
  · omega
  · split
    · rw [String.utf8ByteSize_append]
      omega
    · refine Nat.le_of_eq ?_
      rw [String.utf8ByteSize_append, String.utf8ByteSize_append, slash]

/-! ### Joined paths and parents -/

/-- The directory that a path is in. -/
def home (path : String) : String :=
  match parent? path with
  | some d => if d = "" then "." else d
  | none => "."

/-- It has a path that is not empty. -/
theorem home_ne_empty (path : String) : home path ≠ "" := by
  rw [home]
  split
  · split
    · decide
    · assumption
  · decide

/-- It is the parent of the path, if that is not empty. -/
theorem home_of_parent? {path up : String} (parent : parent? path = some up) (given : up ≠ "") :
    home path = up := by
  rw [home, parent]
  exact if_neg given

/-- Parts that are left out are left out of the whole. -/
theorem sublist_intercalate {a b : List (List Char)} (h : a.Sublist b) :
    (List.intercalate ['/'] a).Sublist (List.intercalate ['/'] b) := by
  induction h with
  | slnil => exact List.Sublist.refl _
  | @cons a b p h ih =>
    rcases b with _ | ⟨q, b⟩
    · rw [List.sublist_nil.1 h]
      exact List.nil_sublist _
    · rw [List.intercalate_cons_cons]
      exact ih.trans (List.sublist_append_right ..)
  | @cons_cons a b p h ih =>
    rcases b with _ | ⟨r, b⟩
    · obtain rfl := List.sublist_nil.1 h
      exact List.Sublist.refl _
    · rcases a with _ | ⟨q, a⟩
      · rw [List.intercalate_singleton, List.intercalate_cons_cons, List.append_assoc]
        exact List.sublist_append_left ..
      · rw [List.intercalate_cons_cons, List.intercalate_cons_cons]
        exact ih.append_left _

/-- A path of some of the pieces is no longer in bytes. -/
theorem utf8ByteSize_le_of_pieces {a b : String}
    (fewer : (pieces '/' a.toList).Sublist (pieces '/' b.toList)) :
    a.utf8ByteSize ≤ b.utf8ByteSize := by
  refine utf8ByteSize_le_of_sublist ?_
  rw [← intercalate_pieces '/' a.toList, ← intercalate_pieces '/' b.toList]
  exact sublist_intercalate fewer

/-- A list of pieces is what is left when the silent ones at its end are cut off, and those. -/
theorem trimSilent_append_silent (ps : List (List Char)) :
    ∃ silent, ps = trimSilent ps ++ silent ∧ ∀ p ∈ silent, isSilent p = true := by
  refine ⟨(ps.reverse.takeWhile isSilent).reverse, ?_, fun p there => ?_⟩
  · rw [trimSilent, ← List.reverse_append, List.takeWhile_append_dropWhile, List.reverse_reverse]
  · exact List.all_eq_true.1 List.all_takeWhile p (List.mem_reverse.1 there)

/-- A last piece that says something stays, and so do all before it. -/
theorem trimSilent_concat {ps : List (List Char)} {p : List Char} (loud : isSilent p = false) :
    trimSilent (ps ++ [p]) = ps ++ [p] := by
  rw [trimSilent, List.reverse_append, List.reverse_singleton, List.singleton_append,
    List.dropWhile_cons_of_neg (by simp [loud]), ← List.singleton_append, List.reverse_append,
    List.reverse_reverse, List.reverse_singleton]

/-- Silent pieces at the end are trimmed away. -/
theorem trimSilent_append {ps silent : List (List Char)}
    (quiet : ∀ p ∈ silent, isSilent p = true) : trimSilent (ps ++ silent) = trimSilent ps := by
  have quiet' : ∀ p ∈ silent.reverse, isSilent p = true := by simpa using quiet
  rw [trimSilent, List.reverse_append, List.dropWhile_append_of_pos quiet', trimSilent]

/-- **The parent of a path that has several pieces** up to the last that says something: it is not
empty, and joined with a name it has the same pieces in front, but for those at their end that say
nothing. -/
theorem parent?_of_pieces {path : String} {first last : List Char} {rest silent : List (List Char)}
    (cut : pieces '/' path.toList = first :: (rest ++ last :: silent))
    (loud : isSilent last = false) (quiet : ∀ p ∈ silent, isSilent p = true) :
    ∃ up front between, parent? path = some up ∧ up ≠ "" ∧ rest = front ++ between ∧
      (∀ p ∈ between, isSilent p = true) ∧
      ∀ name : EntryName,
        pieces '/' (join up name.text).toList = first :: front ++ [name.text.toList] := by
  obtain ⟨between, split, quiet'⟩ := trimSilent_append_silent rest
  have free : ∀ p ∈ first :: trimSilent rest, '/' ∉ p := by
    intro p there
    refine not_mem_of_mem_pieces (s := path.toList) ?_
    rw [cut]
    rcases List.mem_cons.1 there with rfl | there
    · exact List.mem_cons_self
    · exact List.mem_cons_of_mem _ (List.mem_append_left _ (mem_of_mem_trimSilent there))
  have parent : parent? path =
      if first = [] ∧ trimSilent rest = [] then some "/"
      else some (String.ofList (List.intercalate ['/'] (first :: trimSilent rest))) := by
    have kept : trimSilent (rest ++ last :: silent) = rest ++ [last] := by
      rw [← List.singleton_append, ← List.append_assoc, trimSilent_append quiet,
        trimSilent_concat loud]
    unfold parent?
    rw [cut]
    simp only [kept, List.dropLast_concat]
    rw [if_neg (by simp)]
  by_cases bare : first = [] ∧ trimSilent rest = []
  · rw [if_pos bare] at parent
    refine ⟨_, _, between, parent, by decide, split, quiet', fun name => ?_⟩
    rw [toList_join (by decide), bare.1, bare.2]
    exact pieces_append [] _ ▸ congrArg ([] :: ·) (pieces_of_not_mem (slash_not_mem name))
  · rw [if_neg bare] at parent
    generalize up : String.ofList (List.intercalate ['/'] (first :: trimSilent rest)) = dir'
      at parent
    have whole : pieces '/' dir'.toList = first :: trimSilent rest := by
      rw [← up, String.toList_ofList, pieces_intercalate (List.cons_ne_nil _ _) free]
    have given' : dir' ≠ "" := by
      rintro rfl
      obtain ⟨empty, none⟩ := List.cons.inj whole
      exact bare ⟨empty.symm, none.symm⟩
    refine ⟨_, _, between, parent, given', split, quiet', fun name => ?_⟩
    obtain ⟨ps, nonempty', joined, same | trailing⟩ := pieces_join given' name
    · rw [joined, ← same, whole]
    · -- the parent's text does not end in a slash
      obtain ⟨first', ps, rfl⟩ := List.exists_cons_of_ne_nil nonempty'
      rw [whole, List.cons_append, List.cons.injEq] at trailing
      exact absurd (ne_silent_of_trimSilent trailing.2) (by decide)

/-- The parent of a path of one piece, but for those behind it that say nothing, is empty. -/
theorem parent?_of_single {path : String} {first : List Char} {silent : List (List Char)}
    (cut : pieces '/' path.toList = first :: silent) (given : first ≠ [])
    (quiet : ∀ p ∈ silent, isSilent p = true) : parent? path = some "" := by
  have none : trimSilent silent = [] := by
    rw [← List.nil_append silent, trimSilent_append quiet]
    rfl
  unfold parent?
  rw [cut]
  simp only [none, if_true]
  exact if_neg given

/-- **The parent of an entry's path**: it is not empty, and joined with the name again it has the
same pieces, but for those in front of the name that say nothing. -/
theorem parent?_join {dir : String} (given : dir ≠ "") (name : EntryName) :
    ∃ up first front silent, parent? (join dir name.text) = some up ∧ up ≠ "" ∧
      (∀ p ∈ silent, isSilent p = true) ∧
      pieces '/' (join dir name.text).toList = first :: (front ++ silent) ++ [name.text.toList] ∧
      pieces '/' (join up name.text).toList = first :: front ++ [name.text.toList] := by
  obtain ⟨ps, nonempty, cut, -⟩ := pieces_join given name
  obtain ⟨first, rest, rfl⟩ := List.exists_cons_of_ne_nil nonempty
  obtain ⟨up, front, silent, parent, given', rfl, quiet, joined⟩ :=
    parent?_of_pieces cut (not_isSilent name) (List.forall_mem_nil _)
  exact ⟨up, first, front, silent, parent, given', quiet, cut, joined name⟩

end Path

/-! ### Moves -/

/-- A path whose last piece is the name of an entry asks to go down to it in the end. -/
theorem Path.moves_eq_of_pieces {path : String} {ps : List (List Char)} {name : EntryName}
    (cut : pieces '/' path.toList = ps ++ [name.text.toList]) :
    moves path = ps.map (fun p => .ofPiece (String.ofList p)) ++ [.down name] := by
  rw [moves, cut, List.map_append, List.map_singleton, String.ofList_toList, Move.ofPiece_text]

/-- Silent pieces ask to stay. -/
theorem Move.ofPiece_of_isSilent {p : List Char} (silent : Path.isSilent p = true) :
    ofPiece (String.ofList p) = .stay := by
  rw [Path.isSilent, Bool.or_eq_true, beq_iff_eq, beq_iff_eq] at silent
  rcases silent with rfl | rfl <;> decide +kernel

namespace FileTree

variable {α : Type}

section moves

variable {t : FileTree α} {within : Place → Bool → Bool} {links : Nat} {place : Place}
  {entries : Entries α} {rest : List Move}

/-- With nothing left to do, a walk is where it is. -/
theorem walk_nil : t.walk within links place [] = some place := by rw [walk]

/-- To stay in a directory goes on from there. -/
theorem walk_stay (dir : t.node? place = some (.dir entries)) :
    t.walk within links place (.stay :: rest) = t.walk within links place rest := by
  rw [walk, dir]

/-- To go up from a directory goes on from the place above. -/
theorem walk_up (dir : t.node? place = some (.dir entries)) :
    t.walk within links place (.up :: rest) = t.walk within links place.dropLast rest := by
  rw [walk, dir]

/-- Going down to an entry that is no link. -/
theorem walk_down {name : EntryName} {n : Node α} (dir : t.node? place = some (.dir entries))
    (there : t.node? (place ++ [name]) = some n) (noLink : ∀ target, n ≠ .link target)
    (inside : within (place ++ [name]) (askDirectory rest) = true) :
    t.walk within links place (.down name :: rest) =
      t.walk within links (place ++ [name]) rest := by
  rw [walk, dir]
  cases n with
  | link target => exact absurd rfl (noLink target)
  | dir | file => simp only [there, inside, if_true]

/-- To go down to a directory goes on from it, if it is within bounds. -/
theorem walk_down_dir {name : EntryName} {sub : Entries α}
    (dir : t.node? place = some (.dir entries))
    (there : t.node? (place ++ [name]) = some (.dir sub))
    (inside : within (place ++ [name]) (askDirectory rest) = true) :
    t.walk within links place (.down name :: rest) = t.walk within links (place ++ [name]) rest :=
  walk_down dir there (by rintro target ⟨⟩) inside

/-- To go down to a file goes on from it, if it is within bounds. -/
theorem walk_down_file {name : EntryName} {content : α}
    (dir : t.node? place = some (.dir entries))
    (there : t.node? (place ++ [name]) = some (.file content))
    (inside : within (place ++ [name]) (askDirectory rest) = true) :
    t.walk within links place (.down name :: rest) = t.walk within links (place ++ [name]) rest :=
  walk_down dir there (by rintro target ⟨⟩) inside

/-- Going down to a link: it is replaced by the moves of its target. -/
theorem walk_down_link {name : EntryName} {target : String}
    (dir : t.node? place = some (.dir entries))
    (there : t.node? (place ++ [name]) = some (.link target))
    (inside : within (place ++ [name]) false = true) :
    t.walk within (links + 1) place (.down name :: rest) =
      t.walk within links (start target place) (Path.moves target ++ rest) := by
  rw [walk, dir]
  simp only [there, inside, if_true]

/-- Nothing is gone down to that may not be looked up. -/
theorem walk_down_outside {name : EntryName} {n : Node α}
    (dir : t.node? place = some (.dir entries)) (there : t.node? (place ++ [name]) = some n)
    (noLink : ∀ target, n ≠ .link target)
    (outside : ¬ within (place ++ [name]) (askDirectory rest) = true) :
    t.walk within links place (.down name :: rest) = none := by
  rw [walk, dir]
  cases n with
  | link target => exact absurd rfl (noLink target)
  | dir | file => simp only [there, if_neg outside]

/-- Nothing is gone down to where there is no such entry. -/
theorem walk_missing {name : EntryName} (dir : t.node? place = some (.dir entries))
    (missing : t.node? (place ++ [name]) = none) :
    t.walk within links place (.down name :: rest) = none := by
  rw [walk, dir]
  simp only [missing]

/-- Every move is made in a directory. -/
theorem walk_outside {move : Move} (noDir : ∀ entries, t.node? place ≠ some (.dir entries)) :
    t.walk within links place (move :: rest) = none := by
  unfold walk
  split
  · rename_i dir
    exact absurd dir (noDir _)
  · rfl

end moves

/-- **Where moves lead does not depend on what follows**: either nothing that begins with them leads
anywhere, or they come to a place, with some links left to follow, and what follows goes on there.
-/
theorem walk_append (t : FileTree α) (links : Nat) (place : Place) (ms : List Move) :
    (∀ more, t.walk anywhere links place (ms ++ more) = none) ∨
      ∃ q links', links' ≤ links ∧ ∀ more,
        t.walk anywhere links place (ms ++ more) = t.walk anywhere links' q more := by
  fun_induction walk t anywhere links place ms with
  | case1 links place => exact .inr ⟨place, links, Nat.le_refl links, fun _ => rfl⟩
  | case2 links place rest entries dir ih =>
    simpa only [List.cons_append, walk_stay dir] using ih
  | case3 links place rest entries dir ih =>
    simpa only [List.cons_append, walk_up dir] using ih
  | case4 links place rest entries dir name missing =>
    exact .inl fun more => by rw [List.cons_append, walk_missing dir missing]
  | case5 place rest entries dir name target link =>
    refine .inl fun more => ?_
    rw [List.cons_append, walk, dir]
    simp only [link]
  | case6 place rest entries dir name target link links within ih =>
    have step (more : List Move) : t.walk anywhere (links + 1) place (.down name :: rest ++ more) =
        t.walk anywhere links (start target place) (Path.moves target ++ rest ++ more) := by
      rw [List.cons_append, walk_down_link dir link rfl, List.append_assoc]
    simp only [step]
    exact ih.imp_right fun ⟨q, links', few, goesOn⟩ =>
      ⟨q, links', Nat.le_succ_of_le few, goesOn⟩
  | case7 place rest entries dir name target link links within => exact absurd rfl within
  | case8 links place rest entries dir name node noLink there within ih =>
    have step (more : List Move) : t.walk anywhere links place (.down name :: rest ++ more) =
        t.walk anywhere links (place ++ [name]) (rest ++ more) :=
      walk_down dir there noLink rfl
    simpa only [step] using ih
  | case9 links place rest entries dir name node noLink there within => exact absurd rfl within
  | case10 links place move rest noDir => exact .inl fun more => walk_outside noDir

variable {t : FileTree α} {links : Nat} {q : Place} {name : EntryName}

/-- Where an entry can be gone down to, there is a directory that has it. -/
theorem exists_of_walk_down {p : Place} {rest : List Move}
    (leads : t.walk anywhere links q (.down name :: rest) = some p) :
    ∃ entries, t.node? q = some (.dir entries) ∧ name ∈ Table.keys entries := by
  unfold walk at leads
  split at leads
  · rename_i entries dir
    refine ⟨entries, dir, ?_⟩
    dsimp only at leads
    split at leads
    · cases leads
    all_goals
      rename_i there
      rw [node?_append_singleton, dir] at there
      exact List.mem_map_of_mem (Table.mem_of_lookup there)
  · cases leads

/-- Staying before going down changes nothing. -/
theorem walk_stays (ms : List Move) (still : ∀ m ∈ ms, m = .stay) (rest : List Move) :
    t.walk anywhere links q (ms ++ .down name :: rest) =
      t.walk anywhere links q (.down name :: rest) := by
  induction ms with
  | nil => rfl
  | cons m ms ih =>
    have ih := ih fun m' there => still m' (List.mem_cons_of_mem m there)
    rw [still m List.mem_cons_self, List.cons_append]
    by_cases dir : ∃ entries, t.node? q = some (.dir entries)
    · obtain ⟨entries, dir⟩ := dir
      rw [walk_stay dir, ih]
    · have noDir (entries : Entries α) : t.node? q ≠ some (.dir entries) :=
        fun leads => dir ⟨entries, leads⟩
      rw [walk_outside noDir, walk_outside noDir]

/-! ### Entries of directories -/

/-- A path that leads somewhere is not too long, and its moves lead there. -/
theorem resolve?_eq_some_iff {path : String} {p : Place} : t.resolve? path = some p ↔
    path ≠ "" ∧ path.utf8ByteSize ≤ maxPathBytes ∧
      t.walk anywhere maxLinks (start path t.workDir) (Path.moves path) = some p := by
  rw [resolve?]
  split
  · rename_i outside
    constructor
    · intro leads
      cases leads
    · rintro ⟨given, short, -⟩
      rcases outside with rfl | long
      · exact absurd rfl given
      · exact absurd long (Nat.not_lt.2 short)
  · rename_i inside
    rw [not_or, Nat.not_lt] at inside
    simp [inside]

/-- A path that is neither empty nor too long is resolved by walking. -/
theorem resolve?_of_short {path : String} (given : path ≠ "")
    (short : path.utf8ByteSize ≤ maxPathBytes) :
    t.resolve? path = t.walk anywhere maxLinks (start path t.workDir) (Path.moves path) := by
  rw [resolve?, if_neg (not_or.2 ⟨given, Nat.not_lt.2 short⟩)]

/-- What a path leads to is what stands where its moves lead. -/
theorem find?_of_moves {path : String} {ms : List Move} (cut : Path.moves path = ms)
    (fits : path ≠ "" ∧ path.utf8ByteSize ≤ maxPathBytes) :
    t.find? path = (t.walk anywhere maxLinks (start path t.workDir) ms).bind t.node? := by
  rw [find?, resolve?_of_short fits.1 fits.2, cut]

/-- Seen from the root, every path starts there. -/
theorem start_nil (path : String) : start path [] = [] := ite_self _

/-- A path of one name leads to the entry of the root, if it is no link. -/
theorem walk_in_root {name : EntryName} {n : Node α} (there : t.root.lookup name = some n)
    (noLink : ∀ target, n ≠ .link target) (inside : within [name] false = true) :
    t.walk within links [] [.stay, .down name] = some [name] := by
  have root : t.node? [] = some (.dir t.root) := rfl
  have below : t.node? ([] ++ [name]) = some n := by
    rw [node?_append_singleton, root]
    exact there
  rw [walk_stay root, walk_down root below noLink inside, walk_nil, List.nil_append]

/-- **A path of one name leads to the entry of the root** that has the name, if that is no link and
the root is the working directory. -/
theorem find?_in_root {path : String} {name : EntryName} (atRoot : t.workDir = [])
    (moves : Path.moves path = [.stay, .down name])
    (fits : path ≠ "" ∧ path.utf8ByteSize ≤ maxPathBytes)
    (noLink : ∀ target, t.root.lookup name ≠ some (.link target)) :
    t.find? path = t.root.lookup name := by
  have root : t.node? [] = some (.dir t.root) := rfl
  have below : t.node? [name] = t.root.lookup name := by
    rw [← List.nil_append [name], node?_append_singleton, root]
  rw [find?_of_moves moves fits, atRoot, start_nil]
  rcases there : t.root.lookup name with _ | n
  · rw [walk_stay root, walk_missing root (below.trans there)]
    rfl
  · have noLink : ∀ target, n ≠ .link target := by
      rintro target rfl
      exact noLink target there
    rw [walk_in_root there noLink rfl]
    exact below.trans there

/-- **If an entry is a file, its directory is one**, and has it among its entries. -/
theorem entries?_of_isFile_join {dir : String} (given : dir ≠ "") (name : EntryName)
    (file : t.isFile (Path.join dir name.text) = true) :
    ∃ names, t.entries? dir = some names ∧ name ∈ names := by
  obtain ⟨ps, -, cut, own⟩ := Path.pieces_join given name
  obtain ⟨content, found⟩ := isFile_iff.1 file
  obtain ⟨p, leads, -⟩ := Option.bind_eq_some_iff.1 found
  obtain ⟨-, short, leads⟩ := resolve?_eq_some_iff.1 leads
  rw [Path.moves_eq_of_pieces cut, start, Path.isAbsolute_join given, ← start] at leads
  rcases t.walk_append maxLinks (start dir t.workDir)
    (ps.map fun p => .ofPiece (String.ofList p)) with nowhere | ⟨q, links, -, goesOn⟩
  · rw [nowhere] at leads
    cases leads
  rw [goesOn] at leads
  obtain ⟨entries, there, listed⟩ := exists_of_walk_down leads
  -- the directory's own path has the same moves, and perhaps one to stay there
  have comes : t.walk anywhere maxLinks (start dir t.workDir) (Path.moves dir) = some q := by
    rcases own with same | trailing
    · rw [Path.moves, same]
      have onward := goesOn []
      rw [List.append_nil] at onward
      rw [onward, walk_nil]
    · rw [Path.moves, trailing, List.map_append, goesOn]
      exact (walk_stay there).trans walk_nil
  have leads' : t.resolve? dir = some q :=
    resolve?_eq_some_iff.2 ⟨given, Nat.le_trans (Path.utf8ByteSize_le_join given name) short, comes⟩
  refine ⟨(Table.keys entries).eraseDups, ?_, List.mem_eraseDups.2 listed⟩
  rw [entries?, find?, leads', Option.bind_some, there]

/-- The directory under a path holds a file of the name: the entry is one of its entries, and is a
file or leads to one. Whether the directory can be listed is not asked. -/
def Holds (t : FileTree α) (dir : String) (name : EntryName) : Prop :=
  (∃ names, t.entries? dir = some names ∧ name ∈ names) ∧
    t.isFile (Path.join dir name.text) = true

/-- The directory under a path shows a file of the name: it lists the entry, and the entry is a file
or leads to one. -/
def Shows (t : FileTree α) (dir : String) (name : EntryName) : Prop :=
  (∃ names, t.list? dir = some names ∧ name ∈ names) ∧ t.isFile (Path.join dir name.text) = true

/-- **Joining asks the directory.** -/
theorem holds_iff {dir : String} (given : dir ≠ "") (name : EntryName) :
    t.Holds dir name ↔ t.isFile (Path.join dir name.text) = true :=
  ⟨fun holds => holds.2, fun file => ⟨entries?_of_isFile_join given name file, file⟩⟩

/-- A directory shows what it holds, if it can be listed. -/
theorem shows_iff {dir : String} {name : EntryName} :
    t.Shows dir name ↔ t.mayList dir = true ∧ t.Holds dir name := by
  simp only [Shows, Holds, list?_eq_some_iff, and_assoc, exists_and_left]

/-- **The entry's path and the one from its parent lead to the same place**, and the latter has no
other pieces. -/
theorem resolve?_join_parent? {dir : String} (given : dir ≠ "") (name : EntryName) :
    ∃ up, Path.parent? (Path.join dir name.text) = some up ∧ up ≠ "" ∧
      Path.pieces '/' (Path.join up name.text).toList ⊆
        Path.pieces '/' (Path.join dir name.text).toList ∧
      ((Path.join dir name.text).utf8ByteSize ≤ maxPathBytes →
        t.resolve? (Path.join up name.text) = t.resolve? (Path.join dir name.text)) := by
  obtain ⟨up, first, front, silent, parent, given', quiet, cut, cut'⟩ :=
    Path.parent?_join given name
  have fewer : (first :: front ++ [name.text.toList]).Sublist
      (first :: (front ++ silent) ++ [name.text.toList]) := by
    rw [List.cons_append, List.cons_append]
    exact ((List.sublist_append_left front silent).append_right _).cons_cons first
  refine ⟨up, parent, given', ?_, fun short => ?_⟩
  · rw [cut, cut']
    exact fewer.subset
  have start_eq : start (Path.join up name.text) t.workDir =
      start (Path.join dir name.text) t.workDir := by
    have both : Path.isAbsolute (Path.join up name.text) =
        Path.isAbsolute (Path.join dir name.text) := by
      rw [Bool.eq_iff_iff, Path.isAbsolute_iff, Path.isAbsolute_iff, cut, cut']
      simp
    rw [start, start, both]
  have short' : (Path.join up name.text).utf8ByteSize ≤ maxPathBytes := by
    refine Nat.le_trans (Path.utf8ByteSize_le_of_pieces ?_) short
    rw [cut, cut']
    exact fewer
  rw [resolve?_of_short (Path.join_ne_empty given' name) short', start_eq,
    Path.moves_eq_of_pieces cut', resolve?_of_short (Path.join_ne_empty given name) short,
    Path.moves_eq_of_pieces cut, ← List.cons_append, List.map_append, List.append_assoc]
  rcases t.walk_append maxLinks (start (Path.join dir name.text) t.workDir)
    ((first :: front).map fun p => .ofPiece (String.ofList p)) with nowhere | ⟨q, links, -, goesOn⟩
  · rw [nowhere, nowhere]
  · rw [goesOn, goesOn, walk_stays]
    intro m asked
    obtain ⟨p, there, rfl⟩ := List.mem_map.1 asked
    exact Move.ofPiece_of_isSilent (quiet p there)

/-- A name by itself leads where it does behind a dot and a slash. -/
theorem resolve?_join_here (name : EntryName)
    (short : name.text.utf8ByteSize + 2 ≤ maxPathBytes) :
    t.resolve? (Path.join "." name.text) = t.resolve? name.text := by
  have here : Path.join "." name.text = "./" ++ name.text := by
    rw [← String.toList_inj, Path.toList_join (by decide), String.toList_append]
    rfl
  have short' : (Path.join "." name.text).utf8ByteSize ≤ maxPathBytes := by
    rw [here, String.utf8ByteSize_append, Nat.add_comm]
    exact short
  have cut : Path.pieces '/' name.text.toList = [] ++ [name.text.toList] :=
    Path.pieces_of_not_mem (Path.slash_not_mem name)
  have cut' : Path.pieces '/' (Path.join "." name.text).toList =
      [['.']] ++ [name.text.toList] := by
    rw [here, String.toList_append]
    exact Path.pieces_append ['.'] _ ▸ congrArg (['.'] :: ·) cut
  have start_eq : start (Path.join "." name.text) t.workDir = start name.text t.workDir := by
    rw [start, start, Path.isAbsolute_join (by decide), Path.isAbsolute_text]
    rfl
  have stays : [['.']].map (fun p => Move.ofPiece (String.ofList p)) = [.stay] := by
    decide +kernel
  rw [resolve?_of_short (Path.join_ne_empty (by decide) name) short',
    resolve?_of_short (Path.text_ne_empty name) (Nat.le_of_add_right_le short), start_eq,
    Path.moves_eq_of_pieces cut, Path.moves_eq_of_pieces cut', stays]
  exact walk_stays [.stay] (by simp) []

end FileTree

end SceneSchema
