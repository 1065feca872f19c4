import SceneSchema.Proofs.Plugin.FileNames

/-!
# Which class a path is read as

A class name is read off the last component of a path: what stands in front of the suffix of either
mode, in letters of either case. Writing the name of a module file knows only the suffix in its own
letters.

* `ModuleFile.stripSuffix?_eq_some_iff` — what is in front of the suffix of one mode.
* `ModuleFile.eq_of_append_eq` — **no text ends in the suffixes of both modes**, so that it can be
  cut in one way only.

**Main statement** (`ModuleFile.className_eq_iff_and_name`): which class is read off a path, that it
is the class whose module file has the name, and that no two classes or modes share a file name.
-/

namespace SceneSchema

namespace ModuleFile

variable {path s s' tail tail' : String} {proxy proxy' : Bool}

/-- The text is the suffix of the mode, in letters of either case. -/
def SpellsSuffix (tail : String) (proxy : Bool) : Prop :=
  tail.toList.map Char.toLower = (suffix proxy).toList

/-- Whether a text spells a suffix can be decided. -/
instance (tail : String) (proxy : Bool) : Decidable (SpellsSuffix tail proxy) :=
  inferInstanceAs (Decidable (_ = _))

/-- The suffixes are written in small letters. -/
theorem map_toLower_suffix (proxy : Bool) :
    (suffix proxy).toList.map Char.toLower = (suffix proxy).toList := by
  cases proxy <;> decide +kernel

/-- A suffix spells itself. -/
theorem spellsSuffix_suffix (proxy : Bool) : SpellsSuffix (suffix proxy) proxy :=
  map_toLower_suffix proxy

/-- Whatever spells a suffix is as long as it. -/
theorem length_of_spellsSuffix (spells : SpellsSuffix tail proxy) :
    tail.toList.length = (suffix proxy).toList.length := by
  have lengths := congrArg List.length spells
  rwa [List.length_map] at lengths

/-- What is cut off is what stands in front of the suffix. -/
theorem stripSuffix?_eq_some_iff : stripSuffix? path proxy = some s ↔
    s ≠ "" ∧ ∃ tail, Path.fileName? path = some (s ++ tail) ∧ SpellsSuffix tail proxy := by
  constructor
  · intro strips
    refine ⟨ne_empty_of_stripSuffix? strips, ?_⟩
    obtain ⟨file, fileName, strips⟩ := Option.bind_eq_some_iff.1 strips
    dsimp only at strips
    split at strips
    · rename_i ends
      obtain rfl := Option.some.inj strips
      generalize cut : file.toList.length - (suffix proxy).toList.length = n at ends
      refine ⟨String.ofList (file.toList.drop n), ?_, ?_⟩
      · rw [fileName, ← String.ofList_append, List.take_append_drop, String.ofList_toList]
      · have letters := ends.2
        rw [sameLetters, beq_iff_eq, map_toLower_suffix] at letters
        rw [SpellsSuffix, String.toList_ofList, letters]
    · cases strips
  · rintro ⟨given, tail, fileName, spells⟩
    have length := length_of_spellsSuffix spells
    have cut : (s ++ tail).toList.length - (suffix proxy).toList.length = s.toList.length := by
      rw [String.toList_append, List.length_append, length, Nat.add_sub_cancel]
    have longer : (suffix proxy).toList.length < (s ++ tail).toList.length := by
      rw [String.toList_append, List.length_append, length, Nat.lt_add_left_iff_pos,
        List.length_pos_iff]
      exact fun none => given (String.toList_eq_nil_iff.1 none)
    have letters : sameLetters tail.toList (suffix proxy).toList = true := by
      rw [sameLetters, beq_iff_eq, map_toLower_suffix]
      exact spells
    simp only [stripSuffix?, fileName, Option.bind_eq_bind, Option.bind_some, cut]
    rw [String.toList_append, List.drop_left, List.take_left, String.ofList_toList, if_pos]
    exact ⟨String.toList_append ▸ longer, letters⟩

/-- **No text ends in the suffixes of both modes**, so there is one way to cut it. -/
theorem eq_of_append_eq (spells : SpellsSuffix tail proxy) (spells' : SpellsSuffix tail' proxy')
    (same : s ++ tail = s' ++ tail') : proxy = proxy' ∧ s = s' ∧ tail = tail' := by
  have text : s.toList ++ tail.toList = s'.toList ++ tail'.toList := by
    rw [← String.toList_append, same, String.toList_append]
  have modes : proxy = proxy' := by
    have lower := congrArg (fun l => (l.map Char.toLower).getLast?) text
    simp only [List.map_append] at lower
    rw [spells, spells', List.getLast?_append, List.getLast?_append] at lower
    revert lower
    cases proxy <;> cases proxy' <;> simp [suffix]
  subst modes
  have lengths := (length_of_spellsSuffix spells).trans (length_of_spellsSuffix spells').symm
  obtain ⟨front, back⟩ := List.append_inj' text lengths
  exact ⟨rfl, String.toList_inj.1 front, String.toList_inj.1 back⟩

/-- The class that is read off a path is what stands in front of either suffix in its file name. -/
theorem className_eq_iff_fileName? (given : s ≠ "") : className path = s ↔
    ∃ proxy tail, Path.fileName? path = some (s ++ tail) ∧ SpellsSuffix tail proxy := by
  constructor
  · intro read
    rcases long : stripSuffix? path true with _ | c
    · rcases short : stripSuffix? path false with _ | c
      · rw [className, long, short] at read
        exact absurd read.symm given
      · rw [className, long, short] at read
        exact ⟨false, (stripSuffix?_eq_some_iff.1 (short.trans (congrArg some read))).2⟩
    · rw [className, long] at read
      exact ⟨true, (stripSuffix?_eq_some_iff.1 (long.trans (congrArg some read))).2⟩
  · rintro ⟨proxy, tail, fileName, spells⟩
    have strips := stripSuffix?_eq_some_iff.2 ⟨given, tail, fileName, spells⟩
    rcases proxy with _ | _
    · have other : stripSuffix? path true = none := by
        refine Option.eq_none_iff_forall_ne_some.2 fun c strips' => ?_
        obtain ⟨-, tail', fileName', spells'⟩ := stripSuffix?_eq_some_iff.1 strips'
        have same := Option.some.inj (fileName.symm.trans fileName')
        exact absurd (eq_of_append_eq spells spells' same).1 Bool.false_ne_true
      rw [className, other, strips]
      rfl
    · rw [className, strips]
      rfl

/-- **Class names and file names.** The class that is read off a path is a given text exactly if the
path's last component is that text and behind it the suffix of a mode, in letters of either case. A
component can be so cut in one way only. The name of a class's module file, in either mode, is read
as that class, unless there is a slash in the class's name; and different classes or modes give
different names. -/
theorem className_eq_iff_and_name :
    (∀ path s, s ≠ "" → (className path = s ↔
      ∃ proxy tail, Path.LastName path (s ++ tail) ∧ SpellsSuffix tail proxy)) ∧
    (∀ s s' tail tail' proxy proxy', SpellsSuffix tail proxy → SpellsSuffix tail' proxy' →
      s ++ tail = s' ++ tail' → proxy = proxy' ∧ s = s' ∧ tail = tail') ∧
    (∀ c proxy, c ≠ "" → '/' ∉ c.toList → className (name c proxy) = c) ∧
    ∀ c c' proxy proxy', name c proxy = name c' proxy' → c = c' ∧ proxy = proxy' := by
  refine ⟨fun path s given => ?_, fun _ _ _ _ _ _ => eq_of_append_eq, fun c proxy _ free => ?_,
    fun c c' proxy proxy' same => ?_⟩
  · rw [className_eq_iff_fileName? given]
    refine exists_congr fun proxy => exists_congr fun tail => and_congr_left fun spells => ?_
    rw [Path.fileName?_eq_some_iff]
    refine and_iff_left_of_imp fun ⟨front, silent, cut, _⟩ => Path.isEntryName_of_length ?_ ?_
    · rw [String.toList_append, List.length_append, length_of_spellsSuffix spells]
      exact Nat.le_add_left_of_le (three_le_length_suffix proxy)
    · exact Path.not_mem_of_mem_pieces (s := path.toList) (cut ▸ by simp)
  · exact className_name (Path.fileName?_text ⟨_, isEntryName_name free proxy⟩)
  · obtain ⟨modes, classes, -⟩ :=
      eq_of_append_eq (spellsSuffix_suffix proxy) (spellsSuffix_suffix proxy') same
    exact ⟨classes, modes⟩

/-- The statement at a class whose name ends in a suffix itself: it is read off a path with capital
letters and slashes behind, and off the name of its module file, which no other class has. -/
theorem className_eq_iff_and_name_twoSuffixes :
    SpellsSuffix ".SO.Proxy" true ∧
      Path.LastName "dir.so/./Lamp.so.SO.Proxy//." "Lamp.so.SO.Proxy" ∧
      className "dir.so/./Lamp.so.SO.Proxy//." = "Lamp.so" ∧
      ¬ SpellsSuffix ".SO.Proxy" false ∧
      className (name "Lamp.so" false) = "Lamp.so" ∧ name "Lamp.so" true ≠ name "Lamp" true := by
  obtain ⟨reads, cuts, leadsBack, apart⟩ := className_eq_iff_and_name
  have spells : SpellsSuffix ".SO.Proxy" true := by decide +kernel
  have last : Path.LastName "dir.so/./Lamp.so.SO.Proxy//." "Lamp.so.SO.Proxy" :=
    ⟨["dir.so".toList, ".".toList], [[], ['.']], by decide +kernel, by decide +kernel⟩
  refine ⟨spells, last, (reads _ _ (by decide)).2 ⟨true, ".SO.Proxy", last, spells⟩,
    fun spells' => ?_, leadsBack "Lamp.so" false (by decide) (by decide +kernel),
    fun same => absurd (apart _ _ _ _ same).1 (by decide)⟩
  exact absurd (cuts "Lamp.so" "Lamp.so" _ _ _ _ spells spells' rfl).1 (by decide)

end ModuleFile

end SceneSchema
