import SceneSchema.Proofs.Object.Keys
import SceneSchema.Proofs.Value.Comparison

/-!
# What the marks of an object tell

Three rules decide which slots get marked: writing a slot marks it, going back to a default marks
the slots whose value differed from it, and restoring marks the slots whose value differed from the
one restored. `Call.Marks` says so of one call, and `SceneObject.MarkedBy` of a run of calls, each
met by the object as the calls before it left it.

* `Complete.effect_of_run` — all that a successful call can do to an object (`Effect`).
* `Complete.slot_call` — what one call makes of a slot (`Slot.Follows`): marked if it was or if the
  call marks it, and otherwise with the value that it had, or one that compares equal to it.
* `Complete.mem_dirtyIndices_afterAll_iff` — **after any run without a clearing of marks, those
  slots are marked that were, and those that the run marks**, and no others.
* `Complete.valueAt?_afterAll` — **a slot that is not marked has kept its value**, or one that
  compares equal to it, however often the value was replaced: comparing equal is transitive.

This holds of every object with a slot for each attribute (`SceneObject.Complete`), whatever keys,
values and buffers the calls are given.
-/

namespace SceneSchema

open Wire

/-! ### What a call marks -/

/-- The value in the slot is not the default, as values compare. -/
def SceneObject.StraysAt (o : SceneObject) (i : Nat) : Prop :=
  ∃ v a, o.valueAt? i = some v ∧ o.sceneClass.attributes[i]? = some a ∧ v.same a.default = false

/-- The object and what has become of it have values in the slot that differ, as values compare. -/
def SceneObject.DiffersAt (o o' : SceneObject) (i : Nat) : Prop :=
  ∃ v w, o.valueAt? i = some v ∧ o'.valueAt? i = some w ∧ v.same w = false

/-- The call, which has made the one object of the other, wrote the slot, or it put a value there
that differs from the one before. -/
def Call.Touches (k : Call) (o o' : SceneObject) (i : Nat) : Prop :=
  match k with
  | .set key _ => key.index = i
  | .setValueAt index _ => index = i
  | .reset key => key.index = i ∧ o.StraysAt i
  | .resetAll => o.StraysAt i
  | .clearDirty => False
  | .restore _ | .restoreFrom _ => o.DiffersAt o' i

/-- The call succeeds and marks the slot. -/
def Call.Marks (k : Call) (o : SceneObject) (i : Nat) : Prop :=
  ∃ o', k.run o = .ok o' ∧ k.Touches o o' i

namespace SceneObject

/-- One of the calls, made one after the other, marks the slot. -/
def MarkedBy (o : SceneObject) (calls : List Call) (i : Nat) : Prop :=
  ∃ before k after, calls = before ++ k :: after ∧ k.Marks (o.afterAll before) i

/-- There is a slot for each attribute. -/
def Complete (o : SceneObject) : Prop := o.slots.length = o.sceneClass.count

variable {o o' : SceneObject} {k : Call} {calls : List Call} {i : Nat} {s s' : Slot}

/-- A well-typed object has a slot for each attribute. -/
theorem WellTyped.complete (h : o.WellTyped) : o.Complete := by
  rw [Complete, h.length_slots, SceneClass.types, List.length_map]
  rfl

/-- The rows that an object lists are those of its marked slots. -/
theorem mem_dirtyIndices : i ∈ o.dirtyIndices ↔ ∃ s, o.slots[i]? = some s ∧ s.dirty = true := by
  simp only [dirtyIndices, List.mem_map, List.mem_filter, Prod.exists,
    List.mem_zipIdx_iff_getElem?]
  constructor
  · rintro ⟨s, j, ⟨there, marked⟩, rfl⟩
    exact ⟨s, there, marked⟩
  · rintro ⟨s, there, marked⟩
    exact ⟨s, i, ⟨there, marked⟩, rfl⟩

/-- When the marks are cleared, no row is listed. -/
theorem dirtyIndices_clearDirty (o : SceneObject) : o.clearDirty.dirtyIndices = [] := by
  refine List.eq_nil_iff_forall_not_mem.2 fun i marked => ?_
  obtain ⟨s, there, dirty⟩ := mem_dirtyIndices.1 marked
  rw [clearDirty, List.getElem?_map, Option.map_eq_some_iff] at there
  obtain ⟨s', -, rfl⟩ := there
  cases dirty

/-- The value of a row is that of its slot. -/
theorem valueAt?_eq_some_iff {v : Value} :
    o.valueAt? i = some v ↔ ∃ s, o.slots[i]? = some s ∧ s.value = v := by
  rw [valueAt?, Option.map_eq_some_iff]

/-! ### What may become of a slot -/

/-- The slot is marked if it was or if it `marks`; if not, it has kept its value, or it has one that
compares equal. -/
structure Slot.Follows (marks : Prop) (s s' : Slot) : Prop where
  /-- The mark is set if it was, or now. -/
  dirty_iff : s'.dirty = true ↔ s.dirty = true ∨ marks
  /-- Without a mark the value is as it was, or compares equal. -/
  value : ¬ marks → s'.value = s.value ∨ s.value.same s'.value = true

namespace Slot

variable {marks marks' : Prop} {s'' : Slot} {v : Value}

/-- A slot that is left alone follows itself if nothing marks it. -/
theorem Follows.refl (never : ¬ marks) (s : Slot) : Follows marks s s :=
  ⟨by simp [never], fun _ => .inl rfl⟩

/-- One change after another marks if either does; comparing equal is transitive. -/
theorem Follows.trans (h : Follows marks s s') (h' : Follows marks' s' s'') :
    Follows (marks ∨ marks') s s'' where
  dirty_iff := by rw [h'.dirty_iff, h.dirty_iff, or_assoc]
  value none := by
    rw [not_or] at none
    rcases h.value none.1 with same | same <;> rcases h'.value none.2 with same' | same'
    · exact .inl (same'.trans same)
    · exact .inr (same ▸ same')
    · exact .inr (same'.symm ▸ same)
    · exact .inr (Value.same_trans same same')

/-- What marks may be stated in other words. -/
theorem Follows.congr (h : Follows marks s s') (iff : marks ↔ marks') : Follows marks' s s' :=
  propext iff ▸ h

/-- Writing a slot marks it, whatever was there. -/
theorem follows_write (s : Slot) (v : Value) : Follows True s ⟨v, true⟩ :=
  ⟨by simp, fun never => absurd trivial never⟩

/-- Replacing a value marks the slot if the new value differs. -/
theorem follows_replace (s : Slot) (v : Value) :
    Follows (s.value.same v = false) s (Slot.replace s v) where
  dirty_iff := by simp [Slot.replace]
  value same := .inr (Bool.eq_true_of_not_eq_false same)

/-- Going back to a value marks the slot if the value there differs, and changes nothing
otherwise. -/
theorem follows_reset (s : Slot) (v : Value) :
    Follows (s.value.same v = false) s (Slot.reset s v) := by
  unfold Slot.reset
  split
  · rename_i same
    exact .refl (by simp [same]) s
  · rename_i differs
    exact (follows_write s v).congr (by simpa using differs)

/-- Going back to a default once more changes nothing, even if the default holds a NaN. -/
theorem reset_reset (s : Slot) (v : Value) : Slot.reset (Slot.reset s v) v = Slot.reset s v := by
  by_cases same : s.value.same v = true
  · simp only [Slot.reset, if_pos same]
  · simp only [Slot.reset, if_neg same, ite_self]

end Slot

/-! ### Writing and going back -/

/-- A row of the class has a slot. -/
theorem Complete.lt_length (h : o.Complete) {a : Attribute}
    (row : o.sceneClass.attributes[i]? = some a) : ∃ s, o.slots[i]? = some s := by
  have inside := (List.getElem?_eq_some_iff.1 row).1
  exact ⟨_, List.getElem?_eq_getElem (Nat.lt_of_lt_of_eq inside h.symm)⟩

/-- A slot has a row of the class. -/
theorem Complete.row (h : o.Complete) (there : o.slots[i]? = some s) :
    ∃ a, o.sceneClass.attributes[i]? = some a := by
  have inside := (List.getElem?_eq_some_iff.1 there).1
  exact ⟨_, List.getElem?_eq_getElem (Nat.lt_of_lt_of_eq inside h)⟩

/-- Writing one slot makes nothing of the others. -/
theorem slot_write (there : o.slots[i]? = some s) (j : Nat) (v : Value) :
    ∃ s', (o.write j v).slots[i]? = some s' ∧ Slot.Follows (j = i) s s' := by
  have written : (o.write j v).slots[i]? = some (if j = i then ⟨v, true⟩ else s) := by
    rw [write, List.getElem?_modify, there]
    split <;> rfl
  refine ⟨_, written, ?_⟩
  split
  · rename_i here
    exact (Slot.follows_write s v).congr (iff_true_intro here).symm
  · rename_i elsewhere
    exact .refl elsewhere s

/-- Whether a slot strays from its default is a question to its value. -/
theorem straysAt_iff {a : Attribute} (there : o.slots[i]? = some s)
    (row : o.sceneClass.attributes[i]? = some a) :
    o.StraysAt i ↔ s.value.same a.default = false := by
  simp [StraysAt, valueAt?, there, row]

/-- Going back to a default resets the slot of that row, and no other. -/
theorem getElem?_resetAt {a : Attribute} (there : o.slots[i]? = some s)
    (row : o.sceneClass.attributes[i]? = some a) (j : Nat) :
    (o.resetAt j).slots[i]? = some (if j = i then Slot.reset s a.default else s) := by
  unfold resetAt
  by_cases here : j = i
  · subst here
    simp only [row, List.getElem?_modify, there, if_true]
    rfl
  · rw [if_neg here]
    split
    · simp only [List.getElem?_modify, there, if_neg here]
      rfl
    · exact there

/-- Going back to a default marks the slot of that row if it strays, and no other. -/
theorem Complete.slot_resetAt (h : o.Complete) (there : o.slots[i]? = some s) (j : Nat) :
    ∃ s', (o.resetAt j).slots[i]? = some s' ∧ Slot.Follows (j = i ∧ o.StraysAt i) s s' := by
  obtain ⟨a, row⟩ := h.row there
  refine ⟨_, getElem?_resetAt there row j, ?_⟩
  rw [straysAt_iff there row]
  split
  · rename_i here
    exact (Slot.follows_reset s a.default).congr (and_iff_right here).symm
  · rename_i elsewhere
    exact .refl (fun both => elsewhere both.1) s

/-- Going back to several defaults resets each of their slots. -/
theorem getElem?_foldl_resetAt {a : Attribute} (indices : List Nat) (there : o.slots[i]? = some s)
    (row : o.sceneClass.attributes[i]? = some a) :
    (indices.foldl resetAt o).slots[i]? =
      some (if i ∈ indices then Slot.reset s a.default else s) := by
  induction indices generalizing o s with
  | nil => simpa using there
  | cons j rest ih =>
    rw [List.foldl_cons, ih (getElem?_resetAt there row j) (by simpa using row)]
    by_cases here : j = i
    · simp [here, Slot.reset_reset]
    · simp [here, Ne.symm here]

/-- Going back to all defaults marks the slots that stray. -/
theorem Complete.slot_resetAll (h : o.Complete) (there : o.slots[i]? = some s) :
    ∃ s', o.resetAll.slots[i]? = some s' ∧ Slot.Follows (o.StraysAt i) s s' := by
  obtain ⟨a, row⟩ := h.row there
  have inside : i ∈ List.range o.slots.length :=
    List.mem_range.2 (List.getElem?_eq_some_iff.1 there).1
  refine ⟨Slot.reset s a.default, ?_, ?_⟩
  · rw [resetAll, getElem?_foldl_resetAt _ there row, if_pos inside]
  · rw [straysAt_iff there row]
    exact Slot.follows_reset s a.default

/-! ### Restoring -/

/-- Values of the types of a class are as many as its attributes. -/
theorem length_of_types_eq {vs : List Value} (types : vs.map Value.type = o.sceneClass.types) :
    vs.length = o.sceneClass.count := by
  rw [SceneClass.count, ← List.length_map Attribute.type, ← SceneClass.types, ← types,
    List.length_map]

/-- Restoring replaces all values, by one for each attribute. -/
theorem eq_replaceValues_of_restoreFrom {r : Reader} (run : (o.restoreFrom r).1 = .ok o') :
    ∃ vs, vs.length = o.sceneClass.count ∧ o' = o.replaceValues vs := by
  obtain ⟨vs, reads, rfl⟩ := restoreFrom_eq_ok_iff.1 (Prod.ext run rfl)
  obtain ⟨bytes, -, record, -⟩ := (recognizes_readValues _).sound reads
  exact ⟨vs, length_of_types_eq record.types_eq, rfl⟩

/-- Restoring a buffer replaces all values too. -/
theorem eq_replaceValues_of_restore {data : Bytes} (run : o.restore data = .ok o') :
    ∃ vs, vs.length = o.sceneClass.count ∧ o' = o.replaceValues vs := by
  obtain ⟨-, vs, record, rfl⟩ := record_of_restore run
  exact ⟨vs, length_of_types_eq record.types_eq, rfl⟩

/-- A slot whose value is replaced is marked if the new value differs. -/
theorem Complete.slot_replaceValues (h : o.Complete) {vs : List Value}
    (length : vs.length = o.sceneClass.count) (there : o.slots[i]? = some s) :
    ∃ s', (o.replaceValues vs).slots[i]? = some s' ∧
      Slot.Follows (o.DiffersAt (o.replaceValues vs) i) s s' := by
  have inside : i < vs.length := by
    rw [length, ← h]
    exact (List.getElem?_eq_some_iff.1 there).1
  have replaced : (o.replaceValues vs).slots[i]? = some (Slot.replace s vs[i]) := by
    simp only [replaceValues, List.getElem?_zipWith, there, List.getElem?_eq_getElem inside]
  refine ⟨_, replaced, (Slot.follows_replace s vs[i]).congr ?_⟩
  simp [DiffersAt, valueAt?, there, replaced, Slot.replace]

/-! ### One call -/

/-- A key reaches the slot that it names. -/
theorem getElem?_of_slot {key : SlotKey} (run : o.slot key = .ok s) :
    o.slots[key.index]? = some s := by
  rw [slot, if_pos (owner_of_slot run)] at run
  split at run
  · rename_i s' there
    exact there.trans (congrArg some (Except.ok.inj run))
  · cases run

/-- **What a successful call does**, and which slots it touches. -/
inductive Effect (o : SceneObject) (k : Call) : SceneObject → Prop
  | wrote {j : Nat} {s : Slot} (there : o.slots[j]? = some s) (v : Value)
      (touches : ∀ i, k.Touches o (o.write j v) i ↔ j = i) : Effect o k (o.write j v)
  | wentBack (j : Nat) (touches : ∀ i, k.Touches o (o.resetAt j) i ↔ j = i ∧ o.StraysAt i) :
      Effect o k (o.resetAt j)
  | wentBackAll (touches : ∀ i, k.Touches o o.resetAll i ↔ o.StraysAt i) : Effect o k o.resetAll
  | cleared (asked : k = .clearDirty) : Effect o k o.clearDirty
  | replaced {vs : List Value} (length : vs.length = o.sceneClass.count)
      (touches : ∀ i, k.Touches o (o.replaceValues vs) i ↔ o.DiffersAt (o.replaceValues vs) i) :
      Effect o k (o.replaceValues vs)

/-- Each call that succeeds has one of the effects; the marks that it leaves are read off its own
text. -/
theorem Complete.effect_of_run (h : o.Complete) (run : k.run o = .ok o') : Effect o k o' := by
  cases k with
  | set key d =>
    obtain ⟨s, own, write⟩ := bind_eq_ok_iff.1 run
    cases write
    exact .wrote (getElem?_of_slot own) _ fun i => Iff.rfl
  | setValueAt index v =>
    rw [Call.run, SceneObject.setValueAt] at run
    split at run
    · cases run
    · rename_i a row
      obtain ⟨s, there⟩ := h.lt_length row
      split at run <;> cases run
      exact .wrote there v fun i => Iff.rfl
  | reset key =>
    obtain ⟨_, -, reset⟩ := bind_eq_ok_iff.1 run
    cases reset
    exact .wentBack key.index fun i => Iff.rfl
  | resetAll =>
    cases run
    exact .wentBackAll fun i => Iff.rfl
  | clearDirty =>
    cases run
    exact .cleared rfl
  | restore data =>
    obtain ⟨vs, length, rfl⟩ := eq_replaceValues_of_restore run
    exact .replaced length fun i => Iff.rfl
  | restoreFrom r =>
    obtain ⟨vs, length, rfl⟩ := eq_replaceValues_of_restoreFrom run
    exact .replaced length fun i => Iff.rfl

/-- What a successful call makes of a slot, unless it clears the marks. -/
theorem Complete.slot_of_run (h : o.Complete) (keeps : k ≠ .clearDirty) (run : k.run o = .ok o')
    (there : o.slots[i]? = some s) :
    ∃ s', o'.slots[i]? = some s' ∧ Slot.Follows (k.Touches o o' i) s s' := by
  cases h.effect_of_run run with
  | wrote _ v touches =>
    rw [touches i]
    exact slot_write there _ v
  | wentBack j touches =>
    rw [touches i]
    exact h.slot_resetAt there j
  | wentBackAll touches =>
    rw [touches i]
    exact h.slot_resetAll there
  | cleared asked => exact absurd asked keeps
  | replaced length touches =>
    rw [touches i]
    exact h.slot_replaceValues length there

/-- **What one call makes of a slot**, unless it clears the marks: one that fails makes nothing of
it. -/
theorem Complete.slot_call (h : o.Complete) (keeps : k ≠ .clearDirty)
    (there : o.slots[i]? = some s) :
    ∃ s', (o.afterwards (k.run o)).slots[i]? = some s' ∧ Slot.Follows (k.Marks o i) s s' := by
  rcases run : k.run o with e | o'
  · refine ⟨s, there, .refl ?_ s⟩
    rintro ⟨o', ok, -⟩
    rw [run] at ok
    cases ok
  · obtain ⟨s', there', follows⟩ := h.slot_of_run keeps run there
    refine ⟨s', there', follows.congr ?_⟩
    simp [Call.Marks, run]

/-- Going back to a default adds and removes no slot. -/
theorem length_slots_resetAt (o : SceneObject) (i : Nat) :
    (o.resetAt i).slots.length = o.slots.length := by
  unfold resetAt
  split
  · exact List.length_modify ..
  · rfl

/-- Neither does going back to all of them. -/
theorem length_slots_resetAll (o : SceneObject) : o.resetAll.slots.length = o.slots.length := by
  unfold resetAll
  generalize List.range o.slots.length = indices
  induction indices generalizing o with
  | nil => rfl
  | cons i rest ih => exact (ih _).trans (o.length_slots_resetAt i)

/-- Neither does replacing all values. -/
theorem Complete.length_slots_replaceValues (h : o.Complete) {vs : List Value}
    (length : vs.length = o.sceneClass.count) :
    (o.replaceValues vs).slots.length = o.slots.length := by
  rw [replaceValues, List.length_zipWith, length, ← h, Nat.min_self]

/-- A successful call adds and removes no slot. -/
theorem Complete.length_slots_of_run (h : o.Complete) (run : k.run o = .ok o') :
    o'.slots.length = o.slots.length := by
  cases h.effect_of_run run with
  | wrote => exact List.length_modify ..
  | wentBack j => exact o.length_slots_resetAt j
  | wentBackAll => exact o.length_slots_resetAll
  | cleared => exact List.length_map ..
  | replaced length => exact h.length_slots_replaceValues length

/-- Calls keep a slot for each attribute. -/
theorem Complete.call (h : o.Complete) (k : Call) : (o.afterwards (k.run o)).Complete := by
  rw [Complete, sceneClass_afterwards, ← h]
  rcases run : k.run o with e | o'
  · rfl
  · exact h.length_slots_of_run run

/-- A row with a value has a slot. -/
theorem slot_of_valueAt? {v : Value} (value : o.valueAt? i = some v) :
    ∃ s, o.slots[i]? = some s :=
  (valueAt?_eq_some_iff.1 value).imp fun _ both => both.1

/-- A call marks only slots that are there. -/
theorem Complete.slot_of_marks (h : o.Complete) (marks : k.Marks o i) :
    ∃ s, o.slots[i]? = some s := by
  obtain ⟨o', run, touched⟩ := marks
  cases h.effect_of_run run with
  | @wrote j s there v touches =>
    obtain rfl := (touches i).1 touched
    exact ⟨s, there⟩
  | wentBack j touches =>
    obtain ⟨-, v, _, value, -⟩ := (touches i).1 touched
    exact slot_of_valueAt? value
  | wentBackAll touches =>
    obtain ⟨v, _, value, -⟩ := (touches i).1 touched
    exact slot_of_valueAt? value
  | cleared asked =>
    subst asked
    exact touched.elim
  | replaced _ touches =>
    obtain ⟨v, _, value, -⟩ := (touches i).1 touched
    exact slot_of_valueAt? value

/-! ### A run of calls -/

/-- A run marks what its first call marks and what the others mark after it. -/
theorem markedBy_cons : o.MarkedBy (k :: calls) i ↔
    k.Marks o i ∨ (o.afterwards (k.run o)).MarkedBy calls i := by
  constructor
  · rintro ⟨_ | ⟨k', before⟩, k'', after, split, marks⟩
    · obtain ⟨rfl, -⟩ := List.cons.inj split
      exact .inl marks
    · obtain ⟨rfl, rest⟩ := List.cons.inj split
      exact .inr ⟨before, k'', after, rest, marks⟩
  · rintro (marks | ⟨before, k', after, rfl, marks⟩)
    · exact ⟨[], k, calls, rfl, marks⟩
    · exact ⟨k :: before, k', after, rfl, marks⟩

/-- No calls mark nothing. -/
theorem not_markedBy_nil : ¬ o.MarkedBy [] i := by
  rintro ⟨before, k, after, split, -⟩
  exact absurd split (by simp)

/-- **What a run of calls makes of a slot**, if none of them clears the marks. -/
theorem Complete.slot_afterAll (h : o.Complete) (keeps : .clearDirty ∉ calls)
    (there : o.slots[i]? = some s) :
    ∃ s', (o.afterAll calls).slots[i]? = some s' ∧ Slot.Follows (o.MarkedBy calls i) s s' := by
  induction calls generalizing o s with
  | nil => exact ⟨s, there, .refl not_markedBy_nil s⟩
  | cons k rest ih =>
    rw [List.mem_cons, not_or] at keeps
    obtain ⟨s', there', first⟩ := h.slot_call (Ne.symm keeps.1) there
    obtain ⟨s'', there'', others⟩ := ih (h.call k) keeps.2 there'
    exact ⟨s'', there'', (first.trans others).congr markedBy_cons.symm⟩

/-- Calls one after the other keep a slot for each attribute. -/
theorem Complete.afterAll (h : o.Complete) (calls : List Call) : (o.afterAll calls).Complete := by
  induction calls generalizing o with
  | nil => exact h
  | cons k rest ih => exact ih (h.call k)

/-- A slot that is there in the end was there before. -/
theorem Complete.slot_of_afterAll (h : o.Complete) (calls : List Call)
    (there : (o.afterAll calls).slots[i]? = some s') : ∃ s, o.slots[i]? = some s := by
  obtain ⟨a, row⟩ := (h.afterAll calls).row there
  rw [sceneClass_afterAll] at row
  exact h.lt_length row

/-- **The marked slots** after a run of calls are those that were marked and those that it marks. -/
theorem Complete.mem_dirtyIndices_afterAll_iff (h : o.Complete) (keeps : .clearDirty ∉ calls) :
    i ∈ (o.afterAll calls).dirtyIndices ↔ i ∈ o.dirtyIndices ∨ o.MarkedBy calls i := by
  by_cases there : ∃ s, o.slots[i]? = some s
  · obtain ⟨s, there⟩ := there
    obtain ⟨s', there', follows⟩ := h.slot_afterAll keeps there
    simpa [mem_dirtyIndices, there, there'] using follows.dirty_iff
  · refine iff_of_false (fun marked => ?_) ?_
    · obtain ⟨s', there', -⟩ := mem_dirtyIndices.1 marked
      exact there (h.slot_of_afterAll calls there')
    · rintro (marked | ⟨before, k, after, -, marks⟩)
      · obtain ⟨s, there', -⟩ := mem_dirtyIndices.1 marked
        exact there ⟨s, there'⟩
      · obtain ⟨s', there'⟩ := (h.afterAll before).slot_of_marks marks
        exact there (h.slot_of_afterAll before there')

/-- **A slot that is not marked keeps its value**, or gets one that compares equal. -/
theorem Complete.valueAt?_afterAll (h : o.Complete) (keeps : .clearDirty ∉ calls) {v : Value}
    (value : o.valueAt? i = some v) (unmarked : i ∉ (o.afterAll calls).dirtyIndices) :
    ∃ w, (o.afterAll calls).valueAt? i = some w ∧ (w = v ∨ v.same w = true) := by
  obtain ⟨s, there, rfl⟩ := valueAt?_eq_some_iff.1 value
  obtain ⟨s', there', follows⟩ := h.slot_afterAll keeps there
  rw [h.mem_dirtyIndices_afterAll_iff keeps, not_or] at unmarked
  exact ⟨s'.value, valueAt?_eq_some_iff.2 ⟨s', there', rfl⟩, follows.value unmarked.2⟩

end SceneObject

end SceneSchema
