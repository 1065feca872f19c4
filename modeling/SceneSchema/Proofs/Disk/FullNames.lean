import SceneSchema.Proofs.Disk.Walks

/-!
# Full names of places

The full name of a place is a path that goes down from the root, entry by entry. If directories lead
down to the place, with no link among them, then the full name leads to it, whatever the working
directory is.

* `Path.moves_fullName`, `Path.parent?_fullName`, `Path.join_fullName` — what the text asks for, and
  that going one up or down changes it by one name.
* `FileTree.walk_downs` — **going down through directories** comes to the place and follows no link.
* `FileTree.walk_of_le` — where moves lead with few links to follow, they lead with more.
* `FileTree.walk_join` — a path joined to that of a directory goes on from where the directory is.
* `FileTree.canonical?_eq_fullName` — the platform finds the full name of where a path leads, on a
  disk where no name is too long for it.
-/

namespace SceneSchema

open FileTree (fullName)

namespace Path

variable {p : Place} {name : EntryName}

/-! ### Names with slashes between them -/

/-- The names with slashes between them. -/
def ofNames (p : Place) : String := "/".intercalate (p.map (·.text))

/-- Paths with the same pieces are the same text. -/
theorem eq_of_pieces {a b : String} (same : pieces '/' a.toList = pieces '/' b.toList) : a = b := by
  rw [← String.toList_inj, ← intercalate_pieces '/' a.toList, same, intercalate_pieces]

/-- Cut at the slashes, they are the names again. -/
theorem pieces_ofNames (some : p ≠ []) :
    pieces '/' (ofNames p).toList = p.map (·.text.toList) := by
  have text : (ofNames p).toList = List.intercalate ['/'] (p.map (·.text.toList)) := by
    rw [ofNames, String.toList_intercalate, List.map_map]
    rfl
  rw [text]
  apply pieces_intercalate
  · simpa using some
  · intro q there
    obtain ⟨name, -, rfl⟩ := List.mem_map.1 there
    exact slash_not_mem name

/-- A name among the pieces asks to go down to its entry. -/
theorem map_ofPiece_names (p : Place) :
    (p.map (·.text.toList)).map (fun q => Move.ofPiece (String.ofList q)) = p.map .down := by
  rw [List.map_map]
  refine List.map_congr_left fun name _ => ?_
  show Move.ofPiece (String.ofList name.text.toList) = .down name
  rw [String.ofList_toList, Move.ofPiece_text]

/-- They ask to go down to one entry after the other. -/
theorem moves_ofNames (some : p ≠ []) : moves (ofNames p) = p.map .down := by
  rw [moves, pieces_ofNames some, map_ofPiece_names]

/-- They do not start at the root. -/
theorem isAbsolute_ofNames (p : Place) : isAbsolute (ofNames p) = false := by
  rcases p with _ | ⟨name, p⟩
  · decide +kernel
  · rw [← Bool.not_eq_true, isAbsolute_iff, pieces_ofNames (List.cons_ne_nil name p)]
    rintro ⟨ps, -, starts⟩
    exact text_ne_empty name (String.toList_eq_nil_iff.1 (List.cons.inj starts).1)

/-- A character other than the slash stands in them if it stands in one of the names. -/
theorem mem_ofNames_iff {c : Char} (other : c ≠ '/') :
    c ∈ (ofNames p).toList ↔ ∃ name ∈ p, c ∈ name.text.toList := by
  rcases p with _ | ⟨name, p⟩
  · have none : (ofNames []).toList = [] := by decide +kernel
    simp [none]
  · rw [mem_iff_of_pieces other, pieces_ofNames (List.cons_ne_nil name p)]
    constructor
    · rintro ⟨q, there, within⟩
      obtain ⟨name', there', rfl⟩ := List.mem_map.1 there
      exact ⟨name', there', within⟩
    · rintro ⟨name', there, within⟩
      exact ⟨_, List.mem_map_of_mem there, within⟩

/-- What is joined to a path that ends in a name goes behind it. -/
theorem pieces_join_of_ends {dir : String} {ps : List (List Char)} {last : EntryName}
    (given : dir ≠ "") (ends : pieces '/' dir.toList = ps ++ [last.text.toList])
    (name : EntryName) :
    pieces '/' (join dir name.text).toList = ps ++ [last.text.toList] ++ [name.text.toList] := by
  obtain ⟨ps', -, cut, same | trailing⟩ := pieces_join given name
  · rw [cut, ← same, ends]
  · have silent := (List.append_inj' (ends.symm.trans trailing) rfl).2
    exact absurd (List.cons.inj silent).1 fun none =>
      text_ne_empty last (String.toList_eq_nil_iff.1 none)

/-- They are not the empty text, since no name is. -/
theorem ofNames_ne_empty (some : p ≠ []) : ofNames p ≠ "" := by
  intro none
  have cut := pieces_ofNames some
  rw [none] at cut
  obtain ⟨name, rest, rfl⟩ := List.exists_cons_of_ne_nil some
  have first := (List.cons.inj cut).1
  exact text_ne_empty name (String.toList_eq_nil_iff.1 first.symm)

/-- Joined with a name they are the names up to it. -/
theorem join_ofNames (some : p ≠ []) (name : EntryName) :
    join (ofNames p) name.text = ofNames (p ++ [name]) := by
  obtain ⟨front, last, rfl⟩ := (List.eq_nil_or_concat p).resolve_left some
  rw [List.concat_eq_append] at some ⊢
  have ends := pieces_ofNames some
  rw [List.map_append, List.map_singleton] at ends
  have cut := pieces_join_of_ends (ofNames_ne_empty some) ends name
  apply eq_of_pieces
  rw [cut, pieces_ofNames (by simp), List.map_append, List.map_append]
  rfl

/-- One more name takes its own bytes and one for the slash. -/
theorem utf8ByteSize_ofNames_cons (name : EntryName) (some : p ≠ []) :
    (ofNames (name :: p)).utf8ByteSize =
      name.text.utf8ByteSize + 1 + (ofNames p).utf8ByteSize := by
  have slash : "/".utf8ByteSize = 1 := by decide +kernel
  rw [ofNames, List.map_cons, String.intercalate_cons_of_ne_nil (by simpa using some),
    String.utf8ByteSize_append, String.utf8ByteSize_append, slash, ← ofNames]

/-- The same name several times takes its bytes as often, and a slash between each two. -/
theorem utf8ByteSize_ofNames_replicate (name : EntryName) (n : Nat) :
    (ofNames (List.replicate (n + 1) name)).utf8ByteSize =
      n * (name.text.utf8ByteSize + 1) + name.text.utf8ByteSize := by
  induction n with
  | zero =>
    have single : ofNames [name] = name.text := String.intercalate_singleton
    rw [List.replicate_one, single, Nat.zero_mul, Nat.zero_add]
  | succ n ih =>
    have some : List.replicate (n + 1) name ≠ [] := by simp
    rw [List.replicate_succ, utf8ByteSize_ofNames_cons name some, ih, Nat.succ_mul]
    omega

/-- A full name takes one byte more, for the slash in front. -/
theorem utf8ByteSize_fullName (p : Place) :
    (fullName p).utf8ByteSize = (ofNames p).utf8ByteSize + 1 := by
  have slash : "/".utf8ByteSize = 1 := by decide +kernel
  rw [fullName, String.utf8ByteSize_append, slash, ← ofNames, Nat.add_comm]

/-- No name is silent, so none is trimmed away. -/
theorem trimSilent_names (p : Place) :
    trimSilent (p.map (·.text.toList)) = p.map (·.text.toList) := by
  rcases List.eq_nil_or_concat p with rfl | ⟨front, name, rfl⟩
  · rfl
  · rw [List.concat_eq_append, List.map_append, List.map_singleton,
      trimSilent_concat (not_isSilent name)]

/-- The parent of a path whose pieces are names, but for the first, and one more name behind them.
-/
theorem parent?_of_names {path up : String} {first : List Char} (given : up ≠ "")
    (cut : pieces '/' path.toList = first :: (p.map (·.text.toList) ++ [name.text.toList]))
    (own : pieces '/' up.toList = first :: p.map (·.text.toList)) : parent? path = some up := by
  have some : ¬ (first = [] ∧ p.map (·.text.toList) = []) := by
    rintro ⟨rfl, none⟩
    rw [none] at own
    have text := intercalate_pieces '/' up.toList
    rw [own, List.intercalate_singleton] at text
    exact given (String.toList_eq_nil_iff.1 text.symm)
  unfold parent?
  rw [cut]
  simp only [trimSilent_concat (not_isSilent name), List.dropLast_concat, trimSilent_names]
  rw [if_neg (by simp), if_neg some, ← own, intercalate_pieces, String.ofList_toList]

/-- Without the last component they are the other names, if there are any. -/
theorem parent?_ofNames (some : p ≠ []) (name : EntryName) :
    parent? (ofNames (p ++ [name])) = .some (ofNames p) := by
  obtain ⟨first, rest, rfl⟩ := List.exists_cons_of_ne_nil some
  have cut : pieces '/' (ofNames (first :: rest ++ [name])).toList =
      first.text.toList :: (rest.map (·.text.toList) ++ [name.text.toList]) := by
    rw [pieces_ofNames (by simp), List.map_append]
    rfl
  exact parent?_of_names (ofNames_ne_empty some) cut (pieces_ofNames some)

/-! ### Full names -/

/-- A full name is the slash and then the names. -/
theorem toList_fullName (p : Place) : (fullName p).toList = '/' :: (ofNames p).toList := by
  rw [fullName, String.toList_append]
  rfl

/-- A full name starts at the root. -/
theorem isAbsolute_fullName (p : Place) : isAbsolute (fullName p) = true := by
  rw [isAbsolute, toList_fullName]
  rfl

/-- Its first piece is empty, and the others are the names. -/
theorem pieces_fullName (some : p ≠ []) :
    pieces '/' (fullName p).toList = [] :: p.map (·.text.toList) := by
  rw [toList_fullName, pieces, if_pos rfl, pieces_ofNames some]

/-- A full name asks to go down to one entry after the other. -/
theorem moves_fullName (some : p ≠ []) : moves (fullName p) = .stay :: p.map .down := by
  rw [moves, pieces_fullName some, List.map_cons, map_ofPiece_names]
  rfl

/-- A full name is never the empty text. -/
theorem fullName_ne_empty (p : Place) : fullName p ≠ "" := by
  intro none
  have starts := toList_fullName p
  rw [none] at starts
  cases starts

/-- Without its last component it is the name of the place above. -/
theorem parent?_fullName (p : Place) (name : EntryName) :
    parent? (fullName (p ++ [name])) = some (fullName p) := by
  have cut : pieces '/' (fullName (p ++ [name])).toList =
      [] :: (p.map (·.text.toList) ++ [name.text.toList]) := by
    rw [pieces_fullName (by simp), List.map_append, List.map_singleton]
  by_cases root : p = []
  · -- the root has an empty piece more than this
    subst root
    unfold parent?
    rw [cut]
    simp only [trimSilent_concat (not_isSilent name), List.dropLast_concat, trimSilent_names]
    rfl
  · exact parent?_of_names (fullName_ne_empty p) cut (pieces_fullName root)

/-- Joined with a name it is the name of the entry. -/
theorem join_fullName (p : Place) (name : EntryName) :
    join (fullName p) name.text = fullName (p ++ [name]) := by
  apply eq_of_pieces
  rw [pieces_fullName (by simp), List.map_append, List.map_singleton]
  rcases List.eq_nil_or_concat p with rfl | ⟨front, last, rfl⟩
  · have slash : fullName [] = "/" := by decide +kernel
    rw [slash, toList_join (by decide)]
    exact pieces_append [] _ ▸ congrArg ([] :: ·) (pieces_of_not_mem (slash_not_mem name))
  · rw [List.concat_eq_append]
    have ends : pieces '/' (fullName (front ++ [last])).toList =
        [] :: front.map (·.text.toList) ++ [last.text.toList] := by
      rw [pieces_fullName (by simp), List.map_append]
      rfl
    rw [pieces_join_of_ends (fullName_ne_empty _) ends, List.map_append]
    rfl

end Path

/-- What is found along two places is found along the first and from there along the second. -/
theorem Node.find?_append {α : Type} (n : Node α) (p q : Place) :
    n.find? (p ++ q) = (n.find? p).bind (·.find? q) := by
  induction p generalizing n with
  | nil => rfl
  | cons name p ih =>
    cases n with
    | dir entries =>
      simp only [List.cons_append, find?]
      rcases entries.lookup name with _ | m
      · rfl
      · exact ih m
    | file | link => rfl

namespace FileTree

variable {α : Type} {t : FileTree α} {within : Place → Bool → Bool} {links : Nat}
  {place p q : Place} {todo rest : List Move} {name : EntryName} {n : Node α}

/-- The same from the root of a disk. -/
theorem node?_append (t : FileTree α) (p q : Place) :
    t.node? (p ++ q) = (t.node? p).bind (·.find? q) :=
  Node.find?_append _ p q

/-- What stands above something is a directory. -/
theorem exists_dir_of_node?_append (there : t.node? (p ++ name :: q) = some n) :
    ∃ entries, t.node? p = some (.dir entries) := by
  rw [node?_append] at there
  obtain ⟨m, above, below⟩ := Option.bind_eq_some_iff.1 there
  cases m with
  | dir entries => exact ⟨entries, above⟩
  | file | link => cases below

/-! ### Going down -/

/-- **Going down through directories** leads to the place, and no link is followed. -/
theorem walk_downs (there : t.node? (place ++ p) = some n) (noLink : ∀ target, n ≠ .link target)
    (rest : List Move) : t.walk anywhere links place (p.map .down ++ rest) =
      t.walk anywhere links (place ++ p) rest := by
  induction p generalizing place with
  | nil => rw [List.append_nil, List.map_nil, List.nil_append]
  | cons name p ih =>
    obtain ⟨entries, dir⟩ := exists_dir_of_node?_append there
    have there' : t.node? (place ++ [name] ++ p) = some n := by
      rwa [List.append_assoc, List.singleton_append]
    calc t.walk anywhere links place (.down name :: (p.map .down ++ rest))
        = t.walk anywhere links (place ++ [name]) (p.map .down ++ rest) := by
          rcases p with _ | ⟨below, p⟩
          · rw [List.append_nil] at there'
            exact walk_down dir there' noLink rfl
          · obtain ⟨entries', dir'⟩ := exists_dir_of_node?_append there'
            exact walk_down_dir dir dir' rfl
      _ = t.walk anywhere links (place ++ [name] ++ p) rest := ih there'
      _ = t.walk anywhere links (place ++ name :: p) rest := by
          rw [List.append_assoc, List.singleton_append]

/-- If the place itself may not be looked up, nothing is reached. -/
theorem walk_downs_outside (there : t.node? (place ++ p) = some n)
    (noLink : ∀ target, n ≠ .link target) (some : p ≠ [])
    (outside : within (place ++ p) (askDirectory rest) = false) :
    t.walk within links place (p.map .down ++ rest) = none := by
  induction p generalizing place with
  | nil => exact absurd rfl some
  | cons name p ih =>
    obtain ⟨entries, dir⟩ := exists_dir_of_node?_append there
    have there' : t.node? (place ++ [name] ++ p) = .some n := by
      rwa [List.append_assoc, List.singleton_append]
    have outside' : within (place ++ [name] ++ p) (askDirectory rest) = false := by
      rwa [List.append_assoc, List.singleton_append]
    rw [List.map_cons, List.cons_append]
    rcases p with _ | ⟨below, p⟩
    · rw [List.append_nil] at there' outside'
      exact walk_down_outside dir there' noLink (by simpa using outside')
    · obtain ⟨entries', dir'⟩ := exists_dir_of_node?_append there'
      by_cases inside : within (place ++ [name]) false = true
      · rw [walk_down_dir dir dir' inside, ih there' (List.cons_ne_nil below p) outside']
      · exact walk_down_outside dir dir' (by rintro target ⟨⟩) inside

/-! ### Links and bounds -/

/-- **With more links to follow, moves lead to the same place.** -/
theorem walk_of_le {links' : Nat} (leads : t.walk within links place todo = some q)
    (more : links ≤ links') : t.walk within links' place todo = some q := by
  fun_induction walk t within links place todo generalizing links' with
  | case1 links place => rwa [walk_nil]
  | case2 links place rest entries dir ih => rw [walk_stay dir, ih leads more]
  | case3 links place rest entries dir ih => rw [walk_up dir, ih leads more]
  | case4 => cases leads
  | case5 => cases leads
  | case6 place rest entries dir name target link links inside ih =>
    obtain ⟨fewer, rfl⟩ := Nat.exists_eq_add_one_of_ne_zero (Nat.ne_zero_of_lt more)
    rw [walk_down_link dir link inside, ih leads (Nat.le_of_succ_le_succ more)]
  | case7 => cases leads
  | case8 links place rest entries dir name node noLink there inside ih =>
    rw [walk_down dir there noLink inside, ih leads more]
  | case9 => cases leads
  | case10 => cases leads

/-- Bounds that hold wherever something stands do not matter. -/
theorem walk_eq_anywhere (inside : ∀ p n b, t.node? p = some n → within p b = true) :
    t.walk within links place todo = t.walk anywhere links place todo := by
  fun_induction walk t anywhere links place todo with
  | case1 links place => rw [walk_nil]
  | case2 links place rest entries dir ih => rw [walk_stay dir, ih]
  | case3 links place rest entries dir ih => rw [walk_up dir, ih]
  | case4 links place rest entries dir name missing => rw [walk_missing dir missing]
  | case5 place rest entries dir name target link =>
    rw [walk, dir]
    simp only [link]
  | case6 place rest entries dir name target link links _ ih =>
    rw [walk_down_link dir link (inside _ _ _ link), ih]
  | case7 place rest entries dir name target link links outside => exact absurd rfl outside
  | case8 links place rest entries dir name node noLink there _ ih =>
    rw [walk_down dir there noLink (inside _ _ _ there), ih]
  | case9 links place rest entries dir name node noLink there outside => exact absurd rfl outside
  | case10 links place move rest noDir => exact walk_outside noDir

/-- **The platform finds the full name** of where a path leads, if no name on the disk is too long
for it. -/
theorem canonical?_eq_fullName {path : String} (leads : t.resolve? path = some q)
    (short : ∀ p n, t.node? p = some n → isNameable p true = true) :
    t.canonical? path = some (fullName q) := by
  obtain ⟨given, -, leads⟩ := resolve?_eq_some_iff.1 leads
  have inside : ∀ p n b, t.node? p = some n → isNameable p b = true := by
    intro p n b there
    have fits := short p n there
    simp only [isNameable, decide_eq_true_eq, Bool.toNat_true] at fits ⊢
    exact Nat.le_trans (Nat.add_le_add_left b.toNat_le _) fits
  rw [canonical?, if_neg given, walk_eq_anywhere inside, leads]
  rfl

/-! ### Joined paths -/

/-- To stay is to be where one is. -/
theorem eq_of_walk_stay (leads : t.walk within links place [.stay] = some q) : place = q := by
  by_cases dir : ∃ entries, t.node? place = some (.dir entries)
  · obtain ⟨entries, dir⟩ := dir
    rw [walk_stay dir, walk_nil] at leads
    exact Option.some.inj leads
  · rw [walk_outside fun entries there => dir ⟨entries, there⟩] at leads
    cases leads

/-- **Moves behind those of a directory's path go on from where the directory is**, with some of the
links left to follow. An empty piece at the end of the path may be left out. -/
theorem walk_onward {dir : String} {ps : List (List Char)} (leads : t.resolve? dir = some q)
    (own : Path.pieces '/' dir.toList = ps ∨ Path.pieces '/' dir.toList = ps ++ [[]]) :
    ∃ links ≤ maxLinks, ∀ more, t.walk anywhere maxLinks (start dir t.workDir)
      (ps.map (fun p => .ofPiece (String.ofList p)) ++ more) = t.walk anywhere links q more := by
  obtain ⟨-, -, leads⟩ := resolve?_eq_some_iff.1 leads
  have own' : ∃ still, Path.moves dir = ps.map (fun p => .ofPiece (String.ofList p)) ++ still ∧
      (still = [] ∨ still = [.stay]) := by
    rcases own with same | trailing
    · exact ⟨[], by rw [Path.moves, same, List.append_nil], .inl rfl⟩
    · exact ⟨[.stay], by rw [Path.moves, trailing, List.map_append]; rfl, .inr rfl⟩
  obtain ⟨still, own, stays⟩ := own'
  rw [own] at leads
  rcases t.walk_append maxLinks (start dir t.workDir)
    (ps.map fun p => .ofPiece (String.ofList p)) with nowhere | ⟨q', links, few, goesOn⟩
  · rw [nowhere] at leads
    cases leads
  · rw [goesOn] at leads
    have here : q' = q := by
      rcases stays with rfl | rfl
      · rw [walk_nil] at leads
        exact Option.some.inj leads
      · exact eq_of_walk_stay leads
    exact ⟨links, few, here ▸ goesOn⟩

/-- **A path joined to that of a directory goes on from where the directory is.** -/
theorem walk_join {dir rel : String} (leads : t.resolve? dir = some q)
    (relative : Path.isAbsolute rel = false) :
    ∃ links ≤ maxLinks, t.walk anywhere maxLinks (start (Path.join dir rel) t.workDir)
      (Path.moves (Path.join dir rel)) = t.walk anywhere links q (Path.moves rel) := by
  have given := (resolve?_eq_some_iff.1 leads).1
  obtain ⟨ps, -, cut, own⟩ := Path.pieces_join_of_relative given relative
  obtain ⟨links, few, goesOn⟩ := walk_onward leads own
  refine ⟨links, few, ?_⟩
  rw [start, Path.isAbsolute_join_of_relative given relative, ← start, Path.moves, cut,
    List.map_append, goesOn, ← Path.moves]

/-- The directory that a path leads to holds the files that are in it. -/
theorem holds_of_node? {dir : String} {content : α} (leads : t.resolve? dir = some q)
    (there : t.node? (q ++ [name]) = some (.file content))
    (short : (Path.join dir name.text).utf8ByteSize ≤ maxPathBytes) : t.Holds dir name := by
  have given := (resolve?_eq_some_iff.1 leads).1
  obtain ⟨entries, inside⟩ := exists_dir_of_node?_append there
  obtain ⟨links, -, goesOn⟩ := walk_join leads (Path.isAbsolute_text name)
  have single : Path.pieces '/' name.text.toList = [] ++ [name.text.toList] :=
    Path.pieces_of_not_mem (Path.slash_not_mem name)
  have down : Path.moves name.text = [.down name] := Path.moves_eq_of_pieces single
  have comes : t.resolve? (Path.join dir name.text) = some (q ++ [name]) := by
    rw [resolve?_of_short (Path.join_ne_empty given name) short, goesOn, down,
      walk_down_file inside there rfl, walk_nil]
  refine (holds_iff given name).2 (isFile_iff.2 ⟨content, ?_⟩)
  rw [find?, comes, Option.bind_some, there]

end FileTree

end SceneSchema
