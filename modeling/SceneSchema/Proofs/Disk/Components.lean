import SceneSchema.Proofs.Disk.Walks

/-!
# Components and pieces

The components of a path are what its pieces say, but for those that say nothing. So a path that
ends in the name of an entry ends in a component that is this name, whatever slashes and dots stand
behind it.

* `Path.components_join` — the path of an entry has one component more than that of its directory.
* `Path.fileName?_eq_some_iff` — **the file name of a path** is its last piece that says something,
  if that is the name of an entry.
* `Path.parent?_of_lastName` — the parent of such a path, as far as names in it are concerned.
-/

namespace SceneSchema.Path

variable {path file : String}

/-- A piece that is the name of an entry asks to go down to the entry. -/
theorem ofPiece_entryName (first : Bool) (name : EntryName) :
    ofPiece first name.text.toList = some (.down name.text) := by
  have valid := name.valid
  simp only [isEntryName, Bool.and_eq_true, bne_iff_ne] at valid
  have nonempty : name.text.toList ≠ [] := mt String.toList_eq_nil_iff.1 (text_ne_empty name)
  have noDot : name.text.toList ≠ ['.'] := fun e => valid.1.1.2 (String.toList_inj.1 e)
  have noDots : name.text.toList ≠ ['.', '.'] := fun e => valid.1.2 (String.toList_inj.1 e)
  rw [ofPiece, if_neg nonempty, if_neg noDot, if_neg noDots, String.ofList_toList]

/-- What the first piece says and what the others say, unless there is nothing but an empty piece.
-/
theorem ofPieces_cons {first : List Char} {rest : List (List Char)}
    (some : first = [] → rest ≠ []) : ofPieces (first :: rest) =
      (if first = [] then [.root] else (ofPiece true first).toList) ++
        rest.filterMap (ofPiece false) := by
  by_cases rooted : first = []
  · rw [ofPieces, if_pos ⟨rooted, some rooted⟩, if_pos rooted]
    rfl
  · rw [ofPieces, if_neg fun both => rooted both.1, if_neg rooted]

/-- Alone behind other pieces, it says just that. -/
theorem filterMap_entryName (name : EntryName) :
    [name.text.toList].filterMap (ofPiece false) = [.down name.text] := by
  rw [List.filterMap_cons_some (ofPiece_entryName false name), List.filterMap_nil]

/-- **An entry's path is that of its directory, and one component more.** -/
theorem components_join {dir : String} (given : dir ≠ "") (name : EntryName) :
    components (join dir name.text) = components dir ++ [.down name.text] := by
  obtain ⟨ps, nonempty, cut, own⟩ := pieces_join given name
  obtain ⟨first, rest, rfl⟩ := List.exists_cons_of_ne_nil nonempty
  have whole : components (join dir name.text) =
      (if first = [] then [.root] else (ofPiece true first).toList) ++
        rest.filterMap (ofPiece false) ++ [.down name.text] := by
    rw [components, cut, List.cons_append, ofPieces_cons (by simp), List.filterMap_append,
      filterMap_entryName, List.append_assoc]
  rw [whole, components]
  rcases own with same | trailing
  · have some : first = [] → rest ≠ [] := by
      rintro rfl rfl
      have text := intercalate_pieces '/' dir.toList
      rw [same, List.intercalate_singleton] at text
      exact given (String.toList_eq_nil_iff.1 text.symm)
    rw [same, ofPieces_cons some]
  · have silent : [[]].filterMap (ofPiece false) = [] := rfl
    rw [trailing, List.cons_append, ofPieces_cons (by simp), List.filterMap_append, silent,
      List.append_nil]

/-- A piece that asks to go down is the name that it asks for. -/
theorem toList_of_ofPiece {first : Bool} {p : List Char} {name : String}
    (asks : ofPiece first p = some (.down name)) : name.toList = p := by
  unfold ofPiece at asks
  split at asks
  · cases asks
  · split at asks
    · split at asks <;> cases asks
    · split at asks
      · cases asks
      · cases asks
        exact String.toList_ofList

/-- A name that is among the components is among the pieces. -/
theorem mem_pieces_of_mem_ofPieces {ps : List (List Char)} {name : String}
    (there : .down name ∈ ofPieces ps) : name.toList ∈ ps := by
  have later {ps : List (List Char)} (there : .down name ∈ ps.filterMap (ofPiece false)) :
      name.toList ∈ ps := by
    obtain ⟨p, member, asks⟩ := List.mem_filterMap.1 there
    exact toList_of_ofPiece asks ▸ member
  rcases ps with _ | ⟨first, rest⟩
  · cases there
  · rw [ofPieces] at there
    split at there
    · rcases List.mem_cons.1 there with root | there
      · cases root
      · exact List.mem_cons_of_mem _ (later there)
    · rcases List.mem_append.1 there with asks | there
      · exact toList_of_ofPiece (Option.mem_toList.1 asks) ▸ List.mem_cons_self
      · exact List.mem_cons_of_mem _ (later there)

/-- A text that is longer than the two dots names an entry if it has no slash. -/
theorem isEntryName_of_length {s : String} (long : 3 ≤ s.toList.length) (free : '/' ∉ s.toList) :
    isEntryName s = true := by
  have other {short : String} (few : short.toList.length < 3) : s ≠ short := by
    rintro rfl
    exact absurd long (Nat.not_le.2 few)
  simp only [isEntryName, Bool.and_eq_true, bne_iff_ne, Bool.not_eq_true', List.contains_eq_mem,
    decide_eq_false_iff_not]
  exact ⟨⟨⟨other (by decide), other (by decide)⟩, other (by decide)⟩, free⟩

/-! ### The last component -/

/-- The name is the last component of the path: behind it are only slashes and dots that say
nothing. -/
def LastName (path name : String) : Prop :=
  ∃ front silent, pieces '/' path.toList = front ++ name.toList :: silent ∧
    ∀ p ∈ silent, isSilent p = true

/-- Silent pieces give no components. -/
theorem filterMap_silent {silent : List (List Char)} (quiet : ∀ p ∈ silent, isSilent p = true) :
    silent.filterMap (ofPiece false) = [] :=
  List.filterMap_eq_nil_iff.2 fun p there => ofPiece_eq_none_iff.2 (quiet p there)

/-- What a piece without a slash asks for is the name of an entry: it is neither empty nor dots.
-/
theorem isEntryName_of_ofPiece {first : Bool} {p : List Char} (free : '/' ∉ p)
    (asks : ofPiece first p = some (.down file)) : isEntryName file = true := by
  have text := toList_of_ofPiece asks
  subst text
  simp only [isEntryName, Bool.and_eq_true, bne_iff_ne, Bool.not_eq_true', List.contains_eq_mem,
    decide_eq_false_iff_not]
  refine ⟨⟨⟨?_, ?_⟩, ?_⟩, free⟩
  all_goals
    rintro rfl
    revert asks
    cases first <;> decide +kernel

/-- **The file name of a path** is its last component, if that is the name of an entry. -/
theorem fileName?_eq_some_iff :
    fileName? path = some file ↔ LastName path file ∧ isEntryName file = true := by
  constructor
  · intro named
    have last : (components path).getLast? = some (.down file) := by
      unfold fileName? at named
      split at named
      · rename_i last
        exact Option.some.inj named ▸ last
      · cases named
    have clean : ∀ p ∈ pieces '/' path.toList, '/' ∉ p := fun _ => not_mem_of_mem_pieces
    rw [components] at last
    rcases cut : pieces '/' path.toList with _ | ⟨first, rest⟩
    · exact absurd cut (pieces_ne_nil _ _)
    rw [cut] at last clean
    obtain ⟨silent, split, quiet⟩ := trimSilent_append_silent rest
    rcases List.eq_nil_or_concat (trimSilent rest) with none | ⟨front, p, some⟩
    · -- nothing behind the first piece says anything
      rw [none, List.nil_append] at split
      have asks : ofPiece true first = .some (.down file) := by
        rw [split, ofPieces] at last
        split at last
        · simp [filterMap_silent quiet] at last
        · rw [filterMap_silent quiet, List.append_nil] at last
          exact Option.mem_toList.1 (List.mem_of_getLast? last)
      have free := clean first List.mem_cons_self
      refine ⟨⟨[], silent, ?_, quiet⟩, isEntryName_of_ofPiece free asks⟩
      rw [cut, toList_of_ofPiece asks, split]
      rfl
    · rw [List.concat_eq_append] at some
      obtain ⟨c, asked⟩ := Option.ne_none_iff_exists'.1
        (mt ofPiece_eq_none_iff.1 (ne_true_of_eq_false (ne_silent_of_trimSilent some)))
      have rest_eq : rest = front ++ p :: silent := by
        rw [split, some, List.append_assoc, List.singleton_append]
      have ends : ∃ before, ofPieces (first :: rest) = before ++ [c] := by
        rw [ofPieces_cons fun _ => by simp [rest_eq], rest_eq, List.filterMap_append,
          List.filterMap_cons_some asked, filterMap_silent quiet]
        exact ⟨_, (List.append_assoc ..).symm⟩
      obtain ⟨before, whole⟩ := ends
      rw [whole, List.getLast?_concat, Option.some.injEq] at last
      subst last
      have free := clean p (List.mem_cons_of_mem _ (rest_eq ▸ by simp))
      refine ⟨⟨first :: front, silent, ?_, quiet⟩, isEntryName_of_ofPiece free asked⟩
      rw [cut, toList_of_ofPiece asked, rest_eq, List.cons_append]
  · rintro ⟨⟨front, silent, cut, quiet⟩, valid⟩
    have reads (first : Bool) : ofPiece first file.toList = some (.down file) :=
      ofPiece_entryName first ⟨file, valid⟩
    have ends : ∃ before, components path = before ++ [.down file] := by
      rw [components, cut]
      rcases front with _ | ⟨first, front⟩
      · have given : file.toList ≠ [] := fun none => by simp [none, ofPiece] at reads
        rw [List.nil_append, ofPieces_cons fun none => absurd none given, if_neg given, reads,
          filterMap_silent quiet]
        exact ⟨[], rfl⟩
      · rw [List.cons_append, ofPieces_cons fun _ => by simp, List.filterMap_append,
          List.filterMap_cons_some (reads false), filterMap_silent quiet]
        exact ⟨_, (List.append_assoc ..).symm⟩
    obtain ⟨before, whole⟩ := ends
    rw [fileName?, whole, List.getLast?_concat]

/-- A path whose last piece is the name of an entry ends in that name. -/
theorem fileName?_of_pieces {ps : List (List Char)} {name : EntryName}
    (cut : pieces '/' path.toList = ps ++ [name.text.toList]) :
    fileName? path = some name.text :=
  fileName?_eq_some_iff.2 ⟨⟨ps, [], cut, List.forall_mem_nil _⟩, name.valid⟩

/-- The name of an entry, as a path, ends in itself. -/
theorem fileName?_text (name : EntryName) : fileName? name.text = some name.text := by
  have single : pieces '/' name.text.toList = [] ++ [name.text.toList] :=
    pieces_of_not_mem (slash_not_mem name)
  exact fileName?_of_pieces single

/-- The file name of a path has no slash. -/
theorem slash_not_mem_of_fileName? (ends : fileName? path = some file) : '/' ∉ file.toList :=
  slash_not_mem ⟨file, (fileName?_eq_some_iff.1 ends).2⟩

/-- **The parent of a path that ends in a name**: joined with a name, it has the pieces in front,
but for those at their end that say nothing; and it is empty if there are none. -/
theorem parent?_of_lastName {name : EntryName} (last : LastName path name.text) :
    ∃ up front between silent, parent? path = some up ∧
      pieces '/' path.toList = front ++ between ++ name.text.toList :: silent ∧
      (∀ p ∈ between, isSilent p = true) ∧ (∀ p ∈ silent, isSilent p = true) ∧
      (∀ n : EntryName, pieces '/' (join up n.text).toList = front ++ [n.text.toList]) ∧
      (up = "" ∧ front = [] ∧ between = [] ∨ up ≠ "" ∧ front ≠ []) := by
  obtain ⟨before, silent, cut, quiet⟩ := last
  rcases before with _ | ⟨first, rest⟩
  · have given : name.text.toList ≠ [] := mt String.toList_eq_nil_iff.1 (text_ne_empty name)
    refine ⟨"", [], [], silent, parent?_of_single cut given quiet, cut, List.forall_mem_nil _,
      quiet, fun n => ?_, .inl ⟨rfl, rfl, rfl⟩⟩
    have bare : join "" n.text = n.text := by simp [join]
    rw [bare]
    exact pieces_of_not_mem (slash_not_mem n)
  · obtain ⟨up, front, between, parent, given, rfl, quiet', joined⟩ :=
      parent?_of_pieces cut (not_isSilent name) quiet
    exact ⟨up, first :: front, between, silent, parent, cut, quiet', quiet, joined,
      .inr ⟨given, List.cons_ne_nil first front⟩⟩

end SceneSchema.Path
