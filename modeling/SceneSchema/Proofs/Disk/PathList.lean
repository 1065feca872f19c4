import SceneSchema.Proofs.Disk.Components
import SceneSchema.Proofs.Disk.SearchOrder

/-!
# The search path as one text

The directories of the search path are written in one text with colons between them, and whoever
reads the text cuts it at every colon. That gives the directories again if there is no colon in any
of them; so the platform has a way to join directories that refuses those with a colon, and only if
it refuses they are joined all the same.

All directories but the guess come out of lists that were cut at colons. The guess comes from the
disk, where a name may have a colon in it. And such a guess is never left out as one that is there
already, because paths that are equal have the same names in them.

* `Path.joinList_eq_getD` — **both ways to join give the same text.**
* `Path.mem_iff_of_components` — what is in a path, but for slashes and dots, is in the names that
  are its components; so `Path.mem_iff_of_same`, paths that are equal agree on colons.
* `SearchPath.Sources.guess?_of_colon` — a directory with a colon is the guess.

**Main statement** (`SearchPath.Sources.splitList_joinList_dirs_iff`): the text gives the search
path again exactly if the guess has no colon. -/

namespace SceneSchema

namespace Path

variable {dirs : List String} {path a b : String} {c : Char}

/-! ### Joining -/

/-- Add directories to a text, each behind a colon; one that has a colon itself is refused. -/
def joinOnto? (joined : String) : List String → Option String
  | [] => some joined
  | d :: ds => if ':' ∈ d.toList then none else joinOnto? (joined ++ ":" ++ d) ds

/-- The platform's way to join directories: one that has a colon is refused. -/
def joinChecked? : List String → Option String
  | [] => some ""
  | d :: ds => if ':' ∈ d.toList then none else joinOnto? d ds

/-- What is added is joined, unless some directory has a colon. -/
theorem joinOnto?_eq (joined : String) (ds : List String) : joinOnto? joined ds =
    if ∃ d ∈ ds, ':' ∈ d.toList then none else some (joinList (joined :: ds)) := by
  induction ds generalizing joined with
  | nil => simp [joinOnto?, joinList]
  | cons d ds ih =>
    have onward : joinList ((joined ++ ":" ++ d) :: ds) = joinList (joined :: d :: ds) := by
      rw [joinList, joinList, String.intercalate_cons_cons, String.intercalate_cons_append]
    rw [joinOnto?, ih, onward]
    by_cases colon : ':' ∈ d.toList <;> simp [colon]

/-- Joining is refused exactly if some directory has a colon. -/
theorem joinChecked?_eq (dirs : List String) : joinChecked? dirs =
    if ∃ d ∈ dirs, ':' ∈ d.toList then none else some (joinList dirs) := by
  rcases dirs with _ | ⟨d, ds⟩
  · simp [joinChecked?, joinList]
  · rw [joinChecked?, joinOnto?_eq]
    by_cases colon : ':' ∈ d.toList <;> simp [colon]

/-- Joining succeeds exactly if no directory has a colon. -/
theorem isSome_joinChecked?_iff :
    (joinChecked? dirs).isSome = true ↔ ∀ d ∈ dirs, ':' ∉ d.toList := by
  rw [joinChecked?_eq]
  split <;> simp_all

/-- **Both ways to join give the same text.** -/
theorem joinList_eq_getD (dirs : List String) :
    joinList dirs = (joinChecked? dirs).getD (":".intercalate dirs) := by
  rw [joinChecked?_eq]
  split <;> rfl

/-! ### Cutting what was joined -/

/-- **Cutting gives the directories again** exactly if none has a colon. -/
theorem splitList_joinList_iff (some : dirs ≠ []) :
    splitList (joinList dirs) = dirs ↔ ∀ d ∈ dirs, ':' ∉ d.toList := by
  constructor
  · intro same d there
    rw [← same] at there
    exact not_mem_of_mem_splitList there
  · intro free
    have text : (joinList dirs).toList = List.intercalate [':'] (dirs.map String.toList) := by
      rw [joinList, String.toList_intercalate]
      rfl
    have cut : pieces ':' (joinList dirs).toList = dirs.map String.toList := by
      rw [text]
      apply pieces_intercalate
      · simpa using some
      · simpa using free
    rw [splitList, cut, List.map_map]
    exact List.map_id'' (fun d => String.ofList_toList) dirs

/-! ### What is in a path -/

/-- A piece with a character other than a dot asks to go down. -/
theorem ofPiece_of_mem {p : List Char} (noDot : c ≠ '.') (within : c ∈ p) (first : Bool) :
    ofPiece first p = some (.down (String.ofList p)) := by
  have given : p ≠ [] := List.ne_nil_of_mem within
  have notDot : p ≠ ['.'] := by
    rintro rfl
    exact noDot (List.mem_singleton.1 within)
  have notDots : p ≠ ['.', '.'] := by
    rintro rfl
    simp [noDot] at within
  rw [ofPiece, if_neg given, if_neg notDot, if_neg notDots]

/-- What a piece says wherever it stands is a component. -/
theorem mem_ofPieces {ps : List (List Char)} {p : List Char} {component : Component}
    (there : p ∈ ps) (means : ∀ first, ofPiece first p = some component) :
    component ∈ ofPieces ps := by
  rcases ps with _ | ⟨q, rest⟩
  · cases there
  · have later (there : p ∈ rest) : component ∈ rest.filterMap (ofPiece false) :=
      List.mem_filterMap.2 ⟨p, there, means false⟩
    rw [ofPieces]
    split
    · rename_i rooted
      rcases List.mem_cons.1 there with rfl | there
      · have silent := means false
        rw [rooted.1] at silent
        cases silent
      · exact List.mem_cons_of_mem _ (later there)
    · rcases List.mem_cons.1 there with rfl | there
      · exact List.mem_append_left _ (Option.mem_toList.2 (means true))
      · exact List.mem_append_right _ (later there)

/-- **What is in a path is in its names**, but for slashes and dots. -/
theorem mem_iff_of_components (noSlash : c ≠ '/') (noDot : c ≠ '.') :
    c ∈ path.toList ↔ ∃ name, .down name ∈ components path ∧ c ∈ name.toList := by
  rw [mem_iff_of_pieces noSlash]
  constructor
  · rintro ⟨p, there, within⟩
    refine ⟨String.ofList p, mem_ofPieces there (ofPiece_of_mem noDot within), ?_⟩
    rwa [String.toList_ofList]
  · rintro ⟨name, there, within⟩
    exact ⟨name.toList, mem_pieces_of_mem_ofPieces there, within⟩

/-- Paths that compare equal have the same characters, but for slashes and dots. -/
theorem mem_iff_of_same (noSlash : c ≠ '/') (noDot : c ≠ '.') (equal : same a b = true) :
    c ∈ a.toList ↔ c ∈ b.toList := by
  rw [same, beq_iff_eq] at equal
  rw [mem_iff_of_components noSlash noDot, mem_iff_of_components noSlash noDot, equal]

end Path

open FileTree (fullName)

namespace SearchPath.Sources

variable {α : Type} {t : FileTree α} {lists : List String} {modules programs : Option String}
  {d : String}

/-- The guess depends on the directories of programs and on nothing else. -/
theorem guess?_ofLists (t : FileTree α) (lists : List String) (modules programs : Option String) :
    guess? t (ofLists lists modules programs) = guess? t { programs } := by
  rw [guess?, guess?, ofLists, foldl_withExplicit]

/-- **A directory of the search path that has a colon is the guess.** -/
theorem guess?_of_colon (there : d ∈ (ofLists lists modules programs).dirs t)
    (colon : ':' ∈ d.toList) : guess? t (ofLists lists modules programs) = some d := by
  rw [dirs_eq_distinct] at there
  have cut {list : String} (listed : d ∈ Path.splitList list) : False :=
    Path.not_mem_of_mem_splitList listed colon
  have source := (distinct_sublist _).subset there
  rw [named, List.mem_append, List.mem_append, List.mem_append] at source
  rcases source with ((explicit | here) | listed) | guessed
  · obtain ⟨list, -, listed⟩ := List.mem_flatMap.1 explicit
    exact (cut listed).elim
  · rw [List.mem_singleton.1 here] at colon
    exact absurd colon (by decide +kernel)
  · cases modules with
    | none => cases listed
    | some list => exact (cut listed).elim
  · rw [guess?_ofLists]
    exact Option.mem_toList.1 guessed

/-- If the guess has a colon, a directory of the search path has: the guess or one equal to it. -/
theorem exists_colon_of_guess? (guessed : guess? t (ofLists lists modules programs) = some d)
    (colon : ':' ∈ d.toList) : ∃ e ∈ (ofLists lists modules programs).dirs t, ':' ∈ e.toList := by
  rw [guess?_ofLists] at guessed
  have given : d ≠ "" := by
    rintro rfl
    cases colon
  have there : d ∈ named t lists modules programs := by
    rw [named, guessed]
    exact List.mem_append_right _ List.mem_cons_self
  obtain ⟨e, stays, equal⟩ := exists_same_of_mem there given
  rw [← dirs_eq_distinct] at stays
  exact ⟨e, stays, (Path.mem_iff_of_same (by decide) (by decide) equal).2 colon⟩

/-- No directory of the search path has a colon if the guess has none. -/
theorem forall_dirs_iff :
    (∀ e ∈ (ofLists lists modules programs).dirs t, ':' ∉ e.toList) ↔
      ∀ guess, guess? t (ofLists lists modules programs) = some guess → ':' ∉ guess.toList := by
  constructor
  · intro free guess guessed colon
    obtain ⟨e, stays, colon'⟩ := exists_colon_of_guess? guessed colon
    exact free e stays colon'
  · intro free e stays colon
    exact free e (guess?_of_colon stays colon) colon

/-- The working directory is always there, under some name. -/
theorem dirs_ne_nil : (ofLists lists modules programs).dirs t ≠ [] := by
  rw [dirs_eq_distinct]
  have workDir : "." ∈ named t lists modules programs := by simp [named]
  obtain ⟨e, stays, -⟩ := exists_same_of_mem workDir (by decide)
  exact List.ne_nil_of_mem stays

/-- **The search path can be read back from its text exactly if the guess has no colon**, or if
there is none: as the same directories, spelled the same, in the same order. Exactly then the
platform joins the directories; and if it refuses, they are joined to the text that it would have
given. -/
theorem splitList_joinList_dirs_iff (t : FileTree α) (lists : List String)
    (modules programs : Option String) :
    (Path.splitList (Path.joinList ((ofLists lists modules programs).dirs t)) =
        (ofLists lists modules programs).dirs t ↔
      ∀ guess, guess? t (ofLists lists modules programs) = some guess → ':' ∉ guess.toList) ∧
    ((Path.joinChecked? ((ofLists lists modules programs).dirs t)).isSome = true ↔
      ∀ guess, guess? t (ofLists lists modules programs) = some guess → ':' ∉ guess.toList) ∧
    Path.joinList ((ofLists lists modules programs).dirs t) =
      (Path.joinChecked? ((ofLists lists modules programs).dirs t)).getD
        (":".intercalate ((ofLists lists modules programs).dirs t)) := by
  refine ⟨?_, ?_, Path.joinList_eq_getD _⟩
  · rw [Path.splitList_joinList_iff dirs_ne_nil, forall_dirs_iff]
  · rw [Path.isSome_joinChecked?_iff, forall_dirs_iff]

/-! ### A guess with a colon -/

/-- A name with a colon. -/
def colonName : EntryName := ⟨"x:y", by decide +kernel⟩

/-- The statement where the guess has no colon, and where it has one, though the list of directories
of programs is the same: there the text is read back as other directories. -/
theorem splitList_joinList_dirs_linkedDisk :
    guess? (linkedDisk optName binEntries) (ofLists ["a:b/"] (some "c:a/") (some "/bin")) =
      some "/opt/rdl2dso" ∧
    Path.splitList (Path.joinList
      ((ofLists ["a:b/"] (some "c:a/") (some "/bin")).dirs (linkedDisk optName binEntries))) =
      (ofLists ["a:b/"] (some "c:a/") (some "/bin")).dirs (linkedDisk optName binEntries) ∧
    guess? (linkedDisk colonName binEntries) (ofLists ["a:b/"] (some "c:a/") (some "/bin")) =
      some "/x:y/rdl2dso" ∧
    Path.splitList (Path.joinList
      ((ofLists ["a:b/"] (some "c:a/") (some "/bin")).dirs (linkedDisk colonName binEntries))) ≠
      (ofLists ["a:b/"] (some "c:a/") (some "/bin")).dirs (linkedDisk colonName binEntries) := by
  have name : fullName [optName, neighbourName] = "/opt/rdl2dso" := by decide +kernel
  have name' : fullName [colonName, neighbourName] = "/x:y/rdl2dso" := by decide +kernel
  have guessed : guess? (linkedDisk optName binEntries)
      (ofLists ["a:b/"] (some "c:a/") (some "/bin")) = some "/opt/rdl2dso" := by
    rw [guess?_ofLists, guess?_linkedDisk optName_ne_binName (by decide +kernel), name]
  have guessed' : guess? (linkedDisk colonName binEntries)
      (ofLists ["a:b/"] (some "c:a/") (some "/bin")) = some "/x:y/rdl2dso" := by
    rw [guess?_ofLists, guess?_linkedDisk (by decide +kernel) (by decide +kernel), name']
  refine ⟨guessed, ?_, guessed', ?_⟩
  · rw [(splitList_joinList_dirs_iff _ _ _ _).1, guessed]
    rintro guess ⟨⟩
    decide +kernel
  · rw [ne_eq, (splitList_joinList_dirs_iff _ _ _ _).1]
    intro free
    exact absurd (free _ guessed') (by decide +kernel)

end SearchPath.Sources

end SceneSchema
