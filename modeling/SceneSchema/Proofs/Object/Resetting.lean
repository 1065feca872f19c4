import SceneSchema.Proofs.Object.Marks

/-!
# Going back to the defaults

An object goes back to a default only if the value in the slot does not compare equal to it, and
what compares equal is not always the same: there are the two zeros, and there is the NaN, which
differs from itself. So a slot that holds a default with a sign of a zero changed keeps what it
holds (`SceneObject.KeepsZeroSignsAt`), and a slot whose default holds a NaN is written, and marked,
each time anew (`SceneClass.HasNaNDefaultAt`). Nothing else goes wrong.

* `Slot.value_reset_eq_iff`, `Slot.reset_again` — this is so of one slot.
* `resets` puts several slots back, one after the other: one for a key, all of them for the object.
  What holds of it (`GoesBackTo`, `resets_resets`, `Complete.resets_again`) holds of both.
* `WellTyped.snapshot_eq_new_iff` — an object and a new one of its class have one snapshot exactly
  if all values are the defaults.

**Main statement** (`WellTyped.back_to_defaults`): an object goes back to its defaults bit for bit
but for signs of zeros; to do it again changes nothing; and to do it again after the marks were
cleared changes no value, and marks the slots whose default holds a NaN, and no others.
-/

namespace SceneSchema

/-! ### What goes wrong -/

/-- The values differ, but in nothing other than signs of zeros, and no NaN is in them. -/
def Value.DiffersInZeroSigns (v w : Value) : Prop :=
  v ≠ w ∧ v.holdsNaN = false ∧ v.unsignedZeros = w.unsignedZeros

/-- This is how values can compare equal without being the same. -/
theorem Value.differsInZeroSigns_iff {v w : Value} :
    v.DiffersInZeroSigns w ↔ v ≠ w ∧ v.same w = true := by
  rw [DiffersInZeroSigns, same_iff]

/-- There is no NaN in a value that another one compares equal to. -/
theorem Value.holdsNaN_of_same {v w : Value} (h : v.same w = true) : w.holdsNaN = false := by
  rw [same_comm] at h
  exact (same_iff.1 h).1

/-- The default of the row holds a NaN. -/
def SceneClass.HasNaNDefaultAt (c : SceneClass) (i : Nat) : Prop :=
  ∃ v, c.defaults[i]? = some v ∧ v.holdsNaN = true

/-- The value in the slot differs from the default, but only in signs of zeros. -/
def SceneObject.KeepsZeroSignsAt (o : SceneObject) (i : Nat) : Prop :=
  ∃ v w, o.valueAt? i = some v ∧ o.sceneClass.defaults[i]? = some w ∧ v.DiffersInZeroSigns w

namespace SceneObject

variable {o o' : SceneObject} {i : Nat} {is : List Nat} {s : Slot} {v : Value}

/-! ### One slot -/

namespace Slot

/-- A slot that differs from the default in signs of zeros stays as it is. -/
theorem reset_of_differsInZeroSigns (h : s.value.DiffersInZeroSigns v) : Slot.reset s v = s :=
  if_pos (Value.differsInZeroSigns_iff.1 h).2

/-- **A slot gets its default back**, bit for bit, unless it differs from it in signs of zeros. -/
theorem value_reset_eq_iff : (Slot.reset s v).value = v ↔ ¬ s.value.DiffersInZeroSigns v := by
  rw [Value.differsInZeroSigns_iff]
  by_cases same : s.value.same v = true
  · rw [Slot.reset, if_pos same]
    simp [same]
  · rw [Slot.reset, if_neg same]
    simp [same]

/-- Once the mark is cleared, to go back again marks the slot if its default holds a NaN. -/
theorem reset_again (s : Slot) (v : Value) :
    Slot.reset { Slot.reset s v with dirty := false } v = ⟨(Slot.reset s v).value, v.holdsNaN⟩ := by
  by_cases same : s.value.same v = true
  · simp [Slot.reset, same, Value.holdsNaN_of_same same]
  · have itself : v.same v = !v.holdsNaN := by
      rw [Bool.eq_iff_iff, Value.same_self_iff, Bool.not_eq_true']
    simp only [Slot.reset, if_neg same, itself]
    cases v.holdsNaN <;> rfl

end Slot

/-! ### Several slots -/

/-- The object with the slots of the numbers put back to their defaults, one after the other. -/
def resets (o : SceneObject) (is : List Nat) : SceneObject := is.foldl resetAt o

/-- Going back touches nothing but the slots. -/
theorem resets_frame (o : SceneObject) (is : List Nat) :
    o.resets is = { o with slots := (o.resets is).slots } := by
  induction is generalizing o with
  | nil => rfl
  | cons j rest ih =>
    have first : o.resetAt j = { o with slots := (o.resetAt j).slots } := by
      unfold resetAt
      split <;> rfl
    rw [resets, List.foldl_cons, ← resets, ih (o.resetAt j), first]

/-- Going back keeps the class. -/
@[simp] theorem sceneClass_resets (o : SceneObject) (is : List Nat) :
    (o.resets is).sceneClass = o.sceneClass := by rw [o.resets_frame is]

/-- Going back adds and removes no slot. -/
theorem length_slots_resets (o : SceneObject) (is : List Nat) :
    (o.resets is).slots.length = o.slots.length := by
  induction is generalizing o with
  | nil => rfl
  | cons j rest ih => exact (ih _).trans (o.length_slots_resetAt j)

/-- An object has a slot where its class has a default, and nowhere else. -/
theorem Complete.slot_and_default (h : o.Complete) (i : Nat) :
    (o.slots[i]? = none ∧ o.sceneClass.defaults[i]? = none) ∨
      ∃ s v, o.slots[i]? = some s ∧ o.sceneClass.defaults[i]? = some v := by
  rcases there : o.slots[i]? with _ | s
  · refine .inl ⟨rfl, ?_⟩
    rw [List.getElem?_eq_none_iff, SceneClass.defaults, List.length_map]
    exact h.symm.trans_le (List.getElem?_eq_none_iff.1 there)
  · obtain ⟨a, row⟩ := h.row there
    exact .inr ⟨s, a.default, rfl, by rw [SceneClass.defaults, List.getElem?_map, row]; rfl⟩

/-- Where there is no slot there is none afterwards. -/
theorem getElem?_resets_of_none (is : List Nat) (absent : o.slots[i]? = none) :
    (o.resets is).slots[i]? = none := by
  rw [List.getElem?_eq_none_iff] at absent ⊢
  rwa [length_slots_resets]

/-- A slot is put back if its number is among those given. -/
theorem getElem?_resets (is : List Nat) (there : o.slots[i]? = some s)
    (default : o.sceneClass.defaults[i]? = some v) :
    (o.resets is).slots[i]? = some (if i ∈ is then Slot.reset s v else s) := by
  rw [SceneClass.defaults, List.getElem?_map, Option.map_eq_some_iff] at default
  obtain ⟨a, row, rfl⟩ := default
  exact getElem?_foldl_resetAt is there row

/-- Whether signs of zeros are kept is a question to the value of the slot. -/
theorem keepsZeroSignsAt_iff (there : o.slots[i]? = some s)
    (default : o.sceneClass.defaults[i]? = some v) :
    o.KeepsZeroSignsAt i ↔ s.value.DiffersInZeroSigns v := by
  simp [KeepsZeroSignsAt, valueAt?, there, default]

/-- What becomes of an object whose chosen slots go back to their defaults: the others stay. -/
structure GoesBackTo (o o' : SceneObject) (chosen : Nat → Prop) : Prop where
  /-- A chosen slot holds its default, bit for bit, unless it held it but for signs of zeros. -/
  restored (i : Nat) : chosen i →
    (o'.valueAt? i = o.sceneClass.defaults[i]? ↔ ¬ o.KeepsZeroSignsAt i)
  /-- In that case it stays as it is. -/
  kept (i : Nat) : chosen i → o.KeepsZeroSignsAt i → o'.slots[i]? = o.slots[i]?
  /-- The other slots stay as they are, -/
  others (i : Nat) : ¬ chosen i → o'.slots[i]? = o.slots[i]?
  /-- and so does all that is not in a slot. -/
  frame : o' = { o with slots := o'.slots }

/-- The slots that are put back go back to their defaults, and no others. -/
theorem Complete.goesBackTo_resets (h : o.Complete) (is : List Nat) :
    o.GoesBackTo (o.resets is) (· ∈ is) where
  restored i chosen := by
    rcases h.slot_and_default i with ⟨absent, noDefault⟩ | ⟨s, v, there, default⟩
    · simp [KeepsZeroSignsAt, valueAt?, absent, getElem?_resets_of_none is absent, noDefault]
    · rw [keepsZeroSignsAt_iff there default, ← Slot.value_reset_eq_iff]
      simp [valueAt?, getElem?_resets is there default, chosen, default]
  kept i chosen keeps := by
    obtain ⟨v, w, value, default, differs⟩ := keeps
    obtain ⟨s, there, rfl⟩ := valueAt?_eq_some_iff.1 value
    rw [getElem?_resets is there default, there, if_pos chosen,
      Slot.reset_of_differsInZeroSigns differs]
  others i elsewhere := by
    rcases h.slot_and_default i with ⟨absent, -⟩ | ⟨s, v, there, default⟩
    · rw [absent, getElem?_resets_of_none is absent]
    · rw [getElem?_resets is there default, there, if_neg elsewhere]
  frame := o.resets_frame is

/-- To go back once more changes nothing, no mark either. -/
theorem Complete.resets_resets (h : o.Complete) (is : List Nat) :
    (o.resets is).resets is = o.resets is := by
  have slots : ((o.resets is).resets is).slots = (o.resets is).slots := by
    refine List.ext_getElem? fun i => ?_
    rcases h.slot_and_default i with ⟨absent, -⟩ | ⟨s, v, there, default⟩
    · have absent' := getElem?_resets_of_none is absent
      rw [absent', getElem?_resets_of_none is absent']
    · have once := getElem?_resets is there default
      rw [getElem?_resets is once (by simpa using default), once]
      split
      · rw [Slot.reset_reset]
      · rfl
  rw [(o.resets is).resets_frame is, slots]

/-- Clearing the marks adds no slot. -/
theorem getElem?_clearDirty_of_none (absent : o.slots[i]? = none) :
    o.clearDirty.slots[i]? = none := by
  rw [clearDirty, List.getElem?_map, absent]
  rfl

/-- The slots once more put back, after the marks were cleared. -/
theorem getElem?_resets_again (is : List Nat) (there : o.slots[i]? = some s)
    (default : o.sceneClass.defaults[i]? = some v) :
    ((o.resets is).clearDirty.resets is).slots[i]? =
      some (if i ∈ is then ⟨(Slot.reset s v).value, v.holdsNaN⟩ else ⟨s.value, false⟩) := by
  have cleared : (o.resets is).clearDirty.slots[i]? =
      some { (if i ∈ is then Slot.reset s v else s) with dirty := false } := by
    rw [clearDirty, List.getElem?_map, getElem?_resets is there default]
    rfl
  rw [getElem?_resets is cleared (by simpa [clearDirty] using default)]
  split
  · rw [Slot.reset_again]
  · rfl

/-- **To go back once more after the marks were cleared** changes no value, and marks those slots
whose default holds a NaN. -/
theorem Complete.resets_again (h : o.Complete) (is : List Nat) :
    ((o.resets is).clearDirty.resets is).values = (o.resets is).values ∧
      ∀ i, i ∈ ((o.resets is).clearDirty.resets is).dirtyIndices ↔
        i ∈ is ∧ o.sceneClass.HasNaNDefaultAt i := by
  constructor
  · refine List.ext_getElem? fun i => ?_
    rw [values, values, List.getElem?_map, List.getElem?_map]
    rcases h.slot_and_default i with ⟨absent, -⟩ | ⟨s, v, there, default⟩
    · have absent' := getElem?_resets_of_none is absent
      rw [getElem?_resets_of_none is (getElem?_clearDirty_of_none absent'), absent']
    · rw [getElem?_resets_again is there default, getElem?_resets is there default]
      split <;> rfl
  · intro i
    rw [mem_dirtyIndices]
    rcases h.slot_and_default i with ⟨absent, noDefault⟩ | ⟨s, v, there, default⟩
    · have absent' := getElem?_clearDirty_of_none (getElem?_resets_of_none is absent)
      simp [getElem?_resets_of_none is absent', SceneClass.HasNaNDefaultAt, noDefault]
    · rw [getElem?_resets_again is there default]
      by_cases chosen : i ∈ is <;> simp [chosen, SceneClass.HasNaNDefaultAt, default]

/-- What is chosen may be stated in other words. -/
theorem GoesBackTo.congr {chosen chosen' : Nat → Prop} (h : o.GoesBackTo o' chosen)
    (iff : ∀ i, chosen i ↔ chosen' i) : o.GoesBackTo o' chosen' :=
  (funext fun i => propext (iff i) : chosen = chosen') ▸ h

/-! ### Snapshots -/

/-- Objects of one class have the same snapshot exactly if they have the same values. -/
theorem WellTyped.snapshot_eq_iff (h : o.WellTyped) (h' : o'.WellTyped)
    (same : o'.sceneClass = o.sceneClass) (fits : o'.snapshot.length < 2 ^ 64) :
    o.snapshot = o'.snapshot ↔ o.values = o'.values := by
  constructor
  · intro equal
    have record : Record o.sceneClass.types (o'.snapshot.drop Wire.headerSize) o.values :=
      IsSnapshot.record (.inl equal.symm) h (equal ▸ fits)
    have record' : Record o.sceneClass.types (o'.snapshot.drop Wire.headerSize) o'.values :=
      same ▸ IsSnapshot.record (.inl rfl) h' fits
    have short : (o'.snapshot.drop Wire.headerSize).length < 2 ^ 64 := by
      rw [List.length_drop]
      omega
    exact ((Wire.recognizes_readValues _).unique List.prefix_rfl List.prefix_rfl short
      record record').2
  · intro values
    rw [snapshot, snapshot, encodeInto, encodeInto, values]

/-- If all slots are chosen, the values are the defaults unless a slot held its default but for
signs of zeros. -/
theorem GoesBackTo.values_eq_iff (h : o.GoesBackTo o' (· < o.sceneClass.count))
    (complete : o.Complete) (complete' : o'.Complete) :
    o'.values = o.sceneClass.defaults ↔ ∀ i, ¬ o.KeepsZeroSignsAt i := by
  have at_ (i : Nat) : o'.values[i]? = o'.valueAt? i := List.getElem?_map
  constructor
  · intro equal i keeps
    have inside : i < o.sceneClass.count := by
      obtain ⟨v, w, value, -, -⟩ := keeps
      obtain ⟨s, there, -⟩ := valueAt?_eq_some_iff.1 value
      exact (List.getElem?_eq_some_iff.1 there).1.trans_eq complete
    refine (h.restored i inside).1 ?_ keeps
    rw [← at_ i, equal]
  · intro never
    refine List.ext_getElem? fun i => ?_
    by_cases inside : i < o.sceneClass.count
    · rw [at_ i, (h.restored i inside).2 (never i)]
    · have length : o'.values.length = o.sceneClass.count := by
        rw [values, List.length_map, complete', h.frame]
      have length' : o.sceneClass.defaults.length = o.sceneClass.count := List.length_map _
      rw [List.getElem?_eq_none (by omega), List.getElem?_eq_none (by omega)]

/-! ### By key, and all at once -/

/-- Going back by a key puts back the slot that the key names. -/
theorem WellTyped.reset_eq (h : o.WellTyped) {t : ValueType} {k : Key t}
    (issued : o.sceneClass.Issued k) : o.reset k = .ok (o.resets [k.index]) := by
  obtain ⟨s, there⟩ := h.slot_of_issued issued
  rw [SceneObject.reset, there]
  rfl

/-- Going back to all defaults puts back all slots. -/
theorem resetAll_eq_resets {n : Nat} (length : o.slots.length = n) :
    o.resetAll = o.resets (List.range n) := length ▸ rfl

/-- **Back to the defaults.** An object can go back to the default under each key that its class
has issued. The slot gets its default bit for bit, unless it holds it but for signs of zeros, and
the others stay as they are. The same is so of all slots at once; if none of them holds its default
but for signs of zeros, the object has the snapshot of a new one, and only then. Going back again
changes nothing, and when the marks were cleared it changes no value and marks those slots whose
default holds a NaN. -/
theorem WellTyped.back_to_defaults (h : o.WellTyped) :
    (∀ {t : ValueType} (k : Key t), o.sceneClass.Issued k → ∃ o', o.reset k = .ok o' ∧
      o.GoesBackTo o' (· = k.index) ∧ o'.reset k = .ok o' ∧
      ∃ o'', o'.clearDirty.reset k = .ok o'' ∧ o''.values = o'.values ∧
        ∀ i, i ∈ o''.dirtyIndices ↔ i = k.index ∧ o.sceneClass.HasNaNDefaultAt i) ∧
    o.GoesBackTo o.resetAll (· < o.sceneClass.count) ∧ o.resetAll.resetAll = o.resetAll ∧
    o.resetAll.clearDirty.resetAll.values = o.resetAll.values ∧
    (∀ i, i ∈ o.resetAll.clearDirty.resetAll.dirtyIndices ↔ o.sceneClass.HasNaNDefaultAt i) ∧
    ∀ name, (new o.sceneClass name).snapshot.length < 2 ^ 64 →
      (o.resetAll.snapshot = (new o.sceneClass name).snapshot ↔
        ∀ i, ¬ o.KeepsZeroSignsAt i) := by
  have complete := h.complete
  refine ⟨fun {t} k issued => ?_, ?_⟩
  · have h' : (o.resets [k.index]).WellTyped := h.resetAt k.index
    have own : (o.resets [k.index]).sceneClass.Issued k := (o.sceneClass_resets _).symm ▸ issued
    obtain ⟨values, marks⟩ := complete.resets_again [k.index]
    refine ⟨o.resets [k.index], h.reset_eq issued,
      (complete.goesBackTo_resets [k.index]).congr fun i => List.mem_singleton, ?_,
      _, WellTyped.reset_eq h'.clearDirty own, values, fun i => ?_⟩
    · rw [h'.reset_eq own, complete.resets_resets]
    · rw [marks i, List.mem_singleton]
  · obtain ⟨values, marks⟩ := complete.resets_again (List.range o.slots.length)
    have all : o.resetAll = o.resets (List.range o.slots.length) := rfl
    have same := o.length_slots_resets (List.range o.slots.length)
    have same' : (o.resets (List.range o.slots.length)).clearDirty.slots.length = o.slots.length :=
      (List.length_map _).trans same
    have back : o.GoesBackTo o.resetAll (· < o.sceneClass.count) :=
      (complete.goesBackTo_resets _).congr fun i => by rw [List.mem_range, complete]
    refine ⟨back, ?_, ?_, fun i => ?_, fun name fits => ?_⟩
    · rw [all, resetAll_eq_resets same, complete.resets_resets]
    · rw [all, resetAll_eq_resets same', values]
    · rw [all, resetAll_eq_resets same', marks i]
      refine and_iff_right_of_imp fun ⟨v, default, _⟩ => ?_
      have inside := (List.getElem?_eq_some_iff.1 default).1
      rw [SceneClass.defaults, List.length_map] at inside
      exact List.mem_range.2 (inside.trans_eq complete.symm)
    · rw [h.resetAll.snapshot_eq_iff (wellTyped_new h.rows name) (by rw [back.frame]; rfl) fits,
        values_new]
      exact back.values_eq_iff complete h.resetAll.complete

/-- A class with a zero and a NaN for defaults. -/
def dialClass : SceneClass :=
  (SceneClass.new ⟨0⟩ "Dial").edits [.declare "offset" ⟨.scalar .float, Single.zero⟩ .empty,
    .declare "limit" ⟨.scalar .float, Single.quietNaN⟩ .empty, .finalize]

/-- The key of the offset. -/
def offsetKey : Key (.scalar .float) := ⟨⟨0⟩, 0⟩

/-- An object of it that holds the zero with a sign. -/
def dial : SceneObject := (new dialClass "left").write 0 ⟨.scalar .float, Single.negativeZero⟩

/-- The statement at an object whose zero has a sign, and whose other default is a NaN. -/
theorem back_to_defaults_dial :
    dial.WellTyped ∧ dialClass.Issued offsetKey ∧ (∃ o', dial.reset offsetKey = .ok o' ∧
      o'.slots[0]? = some ⟨⟨.scalar .float, Single.negativeZero⟩, true⟩ ∧
      o'.slots[1]? = dial.slots[1]? ∧ o'.reset offsetKey = .ok o') ∧
    dial.resetAll.resetAll = dial.resetAll ∧
    (new dialClass "right").snapshot.length < 2 ^ 64 ∧
    dial.resetAll.snapshot ≠ (new dialClass "right").snapshot ∧
    0 ∉ dial.resetAll.clearDirty.resetAll.dirtyIndices ∧
    1 ∈ dial.resetAll.clearDirty.resetAll.dirtyIndices := by
  have typed : dial.WellTyped := (wellTyped_new (by decide +kernel) "left").write rfl
  have issued : dialClass.Issued offsetKey := ⟨rfl, by decide +kernel⟩
  have fits : (new dialClass "right").snapshot.length < 2 ^ 64 := by decide +kernel
  have keeps : dial.KeepsZeroSignsAt 0 :=
    ⟨_, _, rfl, rfl, Value.differsInZeroSigns_iff.2 (by decide +kernel)⟩
  obtain ⟨keyed, -, again, -, marks, snapshot⟩ := typed.back_to_defaults
  obtain ⟨o', run, back, still, -⟩ := keyed offsetKey issued
  refine ⟨typed, issued, ⟨o', run, (back.kept 0 rfl keeps).trans (by decide +kernel),
    back.others 1 (by decide), still⟩, again, fits, fun equal => ?_, ?_, ?_⟩
  · exact (snapshot "right" fits).1 equal 0 keeps
  · rw [marks 0]
    rintro ⟨v, default, holds⟩
    have zero : dial.sceneClass.defaults[0]? = some ⟨.scalar .float, Single.zero⟩ := by
      decide +kernel
    obtain rfl := Option.some.inj (zero.symm.trans default)
    exact absurd holds (by decide +kernel)
  · exact (marks 1).2 ⟨_, rfl, by decide +kernel⟩

/-- **Not every default comes back**, and going back again is not always without a trace: the sign
of a zero stays, in the slot and in the snapshot, and a NaN for a default is marked again. -/
theorem dial_keeps_negativeZero :
    (∃ o', dial.reset offsetKey = .ok o' ∧
      o'.valueAt? 0 = some ⟨.scalar .float, Single.negativeZero⟩) ∧
    dialClass.defaults[0]? = some ⟨.scalar .float, Single.zero⟩ ∧
    dial.resetAll.snapshot ≠ (new dialClass "right").snapshot ∧
    dial.resetAll.clearDirty.dirtyIndices = [] ∧
    dial.resetAll.clearDirty.resetAll.dirtyIndices = [1] := by
  refine ⟨⟨dial.resetAt 0, ?_, ?_⟩, ?_, ?_, ?_, ?_⟩ <;> decide +kernel

end SceneObject

end SceneSchema
