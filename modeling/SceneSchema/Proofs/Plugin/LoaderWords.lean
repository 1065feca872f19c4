import SceneSchema.Disk.FileTree
import SceneSchema.Plugin.LoaderPath

/-!
# Paths in which a loader replaces nothing

A loader may have words of its own that it replaces behind a dollar sign. What is relied on of a
loader with certain words is that it opens every other path as it stands (`World.LoadsBy`). Nothing
is asked of it for a path that has one of the words in it, nor for a bare name.

A word has no slash in it and ends in front of one, so whether there is one in a path
(`LoaderPath.Plain`) is a question to each piece of the path by itself (`plain_iff_pieces`).

* `plain_of_pieces_subset` — if there is no word in one path, then there is none in another that is
  made of the same pieces.
* `expandFrom_eq_self_iff` — a text is left as it is exactly if it is plain, since what a word
  stands for does not begin with a dollar sign.

**Main statement** (`World.loadsBy_onDisk`): the loader of a world on a disk is such a loader.
-/

namespace SceneSchema

namespace LoaderPath

variable {ws : List Word} {w : Word}

/-- None of the words stands behind a dollar sign. -/
def Plain (ws : List Word) (text : List Char) : Prop :=
  ∀ front rest, text = front ++ '$' :: rest → ∀ w ∈ ws, w.taken? rest = none

/-- Nothing stands behind a dollar sign where there is no text. -/
theorem plain_nil : Plain ws [] := by
  intro front rest split
  simp at split

/-- The words may stand at the first character or further on. -/
theorem plain_cons {c : Char} {rest : List Char} : Plain ws (c :: rest) ↔
    (c = '$' → ∀ w ∈ ws, w.taken? rest = none) ∧ Plain ws rest := by
  constructor
  · intro plain
    refine ⟨?_, fun front rest' split => ?_⟩
    · rintro rfl
      exact plain [] rest rfl
    · exact plain (c :: front) rest' (by rw [split, List.cons_append])
  · rintro ⟨first, plain⟩ (_ | ⟨d, front⟩) rest' split
    · obtain ⟨rfl, rfl⟩ := List.cons.inj split
      exact first rfl
    · exact plain front rest' (List.cons.inj split).2

/-- A text without a dollar sign is plain. -/
theorem plain_of_not_mem {text : List Char} (free : '$' ∉ text) : Plain ws text := by
  rintro front rest rfl
  exact absurd (List.mem_append_right _ List.mem_cons_self) free

/-! ### What is replaced is changed -/

/-- **The loader leaves a text as it is exactly if it is plain**, since what a word stands for does
not begin as the word does. -/
theorem expandFrom_eq_self_iff
    (changes : ∀ w ∈ ws, ∃ c more, w.meaning.toList = c :: more ∧ c ≠ '$') {text : List Char} :
    expandFrom ws 0 text = text ↔ Plain ws text := by
  induction text with
  | nil => exact iff_of_true rfl plain_nil
  | cons c rest ih =>
    rw [plain_cons, expandFrom]
    by_cases dollar : c = '$'
    · subst dollar
      simp only [if_true, forall_const]
      rcases found : ws.findSome? fun w => (w.taken? rest).map (w.meaning, ·) with _ | ⟨m, taken⟩
      · have none : ∀ w ∈ ws, w.taken? rest = none := by simpa using found
        simp only [found, List.cons.injEq, true_and, ih]
        exact (and_iff_right none).symm
      · obtain ⟨w, there, stands⟩ := List.exists_of_findSome?_eq_some found
        obtain ⟨n, some, pair⟩ := Option.map_eq_some_iff.1 stands
        obtain ⟨d, more, starts, other⟩ := changes w there
        obtain ⟨rfl, -⟩ := Prod.mk.inj pair
        simp only [found, starts, List.cons_append, List.cons.injEq, other, false_and, false_iff]
        rintro ⟨none, -⟩
        rw [none w there] at some
        cases some
    · simp [dollar, ih]

/-! ### Words and slashes -/

/-- A name without a slash starts a text if it does so in front of the first slash. -/
theorem isPrefixOf_append_slash {name : List Char} (free : '/' ∉ name) (text back : List Char) :
    name.isPrefixOf (text ++ '/' :: back) = name.isPrefixOf text := by
  induction name generalizing text with
  | nil => simp
  | cons c name ih =>
    obtain ⟨other, free⟩ := List.ne_and_not_mem_of_not_mem_cons free
    rcases text with _ | ⟨d, text⟩
    · simp [List.isPrefixOf, Ne.symm other]
    · simp [List.isPrefixOf, ih free]

/-- Without a brace, a word is taken if its name comes next and does not go on behind it. -/
theorem Word.taken?_of_bare {text : List Char} (bare : text.head? ≠ some '\x7b') :
    w.taken? text = if w.name.toList.isPrefixOf text &&
      !((text.drop w.name.toList.length).head?.any goesOn) then some w.name.toList.length
    else none := by
  unfold taken?
  split
  · exact absurd rfl bare
  · rfl

/-- What stands behind a slash does not matter to a word in front of it. -/
theorem Word.taken?_append_slash (free : '/' ∉ w.name.toList) (text back : List Char) :
    w.taken? (text ++ '/' :: back) = w.taken? text := by
  by_cases braced : ∃ inner, text = '\x7b' :: inner
  · obtain ⟨inner, rfl⟩ := braced
    have free' : '/' ∉ w.name.toList ++ ['\x7d'] := by simp [free]
    simp only [List.cons_append, taken?, isPrefixOf_append_slash free']
  · have bare : text.head? ≠ some '\x7b' := fun first =>
      braced (List.head?_eq_some_iff.1 first)
    have bare' : (text ++ '/' :: back).head? ≠ some '\x7b' := by
      rcases text with _ | ⟨c, text⟩
      · exact fun first => absurd (Option.some.inj first) (by decide)
      · exact bare
    rw [taken?_of_bare bare, taken?_of_bare bare', isPrefixOf_append_slash free]
    rcases starts : w.name.toList.isPrefixOf text with _ | _
    · rfl
    · -- a slash ends the word as the end of the text does
      obtain ⟨more, rfl⟩ := List.isPrefixOf_iff_prefix.1 starts
      rw [List.append_assoc, List.drop_left, List.drop_left]
      rcases more with _ | ⟨c, more⟩ <;> rfl

/-- **A text is plain exactly if what stands in front of a slash is, and what stands behind it.** -/
theorem plain_append_slash (free : ∀ w ∈ ws, '/' ∉ w.name.toList) {front back : List Char} :
    Plain ws (front ++ '/' :: back) ↔ Plain ws front ∧ Plain ws back := by
  induction front with
  | nil =>
    rw [List.nil_append, plain_cons]
    exact and_congr (iff_of_true (fun dollar => absurd dollar (by decide)) plain_nil) Iff.rfl
  | cons c front ih =>
    rw [List.cons_append, plain_cons, plain_cons, ih, and_assoc]
    refine and_congr_left fun _ => forall_congr' fun _ => forall₂_congr fun w there => ?_
    rw [Word.taken?_append_slash (free w there)]

/-- It is a question to the pieces. -/
theorem plain_iff_pieces (free : ∀ w ∈ ws, '/' ∉ w.name.toList) {text : List Char} :
    Plain ws text ↔ ∀ p ∈ Path.pieces '/' text, Plain ws p := by
  have joined (ps : List (List Char)) (some_piece : ps ≠ []) :
      Plain ws (List.intercalate ['/'] ps) ↔ ∀ p ∈ ps, Plain ws p := by
    induction ps with
    | nil => exact absurd rfl some_piece
    | cons p ps ih =>
      rcases ps with _ | ⟨q, ps⟩
      · simp
      · rw [List.intercalate_cons_cons, List.append_assoc, List.singleton_append,
          plain_append_slash free, ih (List.cons_ne_nil q ps)]
        exact (List.forall_mem_cons ..).symm
  rw [← joined _ (Path.pieces_ne_nil '/' text), Path.intercalate_pieces]

/-- **There is no word in a path that is made of the same pieces.** -/
theorem plain_of_pieces_subset (free : ∀ w ∈ ws, '/' ∉ w.name.toList) {path path' : String}
    (pieces : Path.pieces '/' path'.toList ⊆ Path.pieces '/' path.toList)
    (plain : Plain ws path.toList) : Plain ws path'.toList := by
  rw [plain_iff_pieces free] at plain ⊢
  exact fun p there => plain p (pieces there)

/-! ### The words of the loader that can be run -/

/-- No word of this loader has a slash in it. -/
theorem slash_not_mem_words (programDir : String) :
    ∀ w ∈ words programDir, '/' ∉ w.name.toList := by
  simp only [words, List.forall_mem_cons]
  decide +kernel

/-- What a word of this loader stands for begins with something other than a dollar sign. -/
theorem changes_words (place : Place) : ∀ w ∈ words (FileTree.fullName place),
    ∃ c more, w.meaning.toList = c :: more ∧ c ≠ '$' := by
  have rooted : (FileTree.fullName place).toList =
      '/' :: ("/".intercalate (place.map (·.text))).toList := by
    rw [FileTree.fullName, String.toList_append]
    rfl
  simp only [words, List.forall_mem_cons]
  exact ⟨⟨_, _, rooted, by decide⟩, ⟨_, _, rfl, by decide⟩, ⟨_, _, rfl, by decide⟩,
    fun _ none => absurd none List.not_mem_nil⟩

/-- The path is left as it is exactly if it is plain. -/
theorem expand_eq_self_iff {place : Place} {path : String} :
    expand (FileTree.fullName place) path = path ↔
      Plain (words (FileTree.fullName place)) path.toList := by
  rw [← expandFrom_eq_self_iff (changes_words place), expand, ← String.toList_inj,
    String.toList_ofList]

end LoaderPath

/-! ### Loaders with words of their own -/

/-- The loader has no words but these: a path with a slash in which none of them stands behind a
dollar sign is opened as it stands. That is what the manuals of such loaders say of them. A loader
that keeps in mind what it has loaded satisfies it as long as the files stay as they were by then.
-/
structure World.LoadsBy (w : World) (ws : List LoaderPath.Word) : Prop where
  /-- No word has a slash in it. -/
  free : ∀ word ∈ ws, '/' ∉ word.name.toList
  /-- A path with a slash and without any of the words is opened as it stands. -/
  opens (path : String) : '/' ∈ path.toList → LoaderPath.Plain ws path.toList → w.OpensAsIs path

/-- **A path that is made of the same pieces is opened as it stands, too.** -/
theorem World.LoadsBy.opens_of_pieces_subset {w : World} {ws : List LoaderPath.Word}
    (loader : w.LoadsBy ws) {path path' : String} (slash : '/' ∈ path'.toList)
    (pieces : Path.pieces '/' path'.toList ⊆ Path.pieces '/' path.toList)
    (plain : LoaderPath.Plain ws path.toList) : w.OpensAsIs path' :=
  loader.opens path' slash (LoaderPath.plain_of_pieces_subset loader.free pieces plain)

/-- **The loader of a world on a disk has no words but its three.** -/
theorem World.loadsBy_onDisk (files : FileTree FileContent) (scripts : Scripts) :
    (World.onDisk files scripts).LoadsBy
      (LoaderPath.words (FileTree.fullName files.programDir)) where
  free := LoaderPath.slash_not_mem_words _
  opens path slash plain := by
    show LoaderPath.load? files path = files.library? path
    rw [LoaderPath.load?, if_pos (List.contains_iff_mem.2 slash),
      LoaderPath.expand_eq_self_iff.2 plain]

end SceneSchema
