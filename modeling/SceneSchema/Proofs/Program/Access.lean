import SceneSchema.Proofs.Object.Resetting
import SceneSchema.Proofs.Program.Objects

/-!
# Access by key and access by number

A slot of an object is reached in two ways. A typed key is checked for the class that issued it, and
neither reading nor writing through it looks at the type of the slot. A number comes without a type,
and what is written by it is checked for the type of the attribute. The two checks have nothing in
common, yet the two ways lead to the same place and do the same there.

* `SceneObject.AgreesOn` — a key and its number do the same: writing, reading, asking for the mark.
* `SceneObject.Wrote` — what one write leaves: the slot with the value, marked, and all else as it
  was.
* `Program.ReadsEverywhere` — a value is read back from a slot in every way there is: by number, by
  every key that a program can come by, and by the keys to be had under each name of the attribute.
* `SceneObject.resetKeys` — going back to the default under one key after the other. Which slots go
  back is all that matters of the keys (`Complete.resets_congr`), neither their order nor how often
  a slot occurs.

**Main statement** (`Program.access_agrees`): this is so of every object that a program holds, and
going back under keys that cover all slots is going back at once.
-/

namespace SceneSchema

namespace SceneObject

variable {o o' : SceneObject} {t : ValueType} {k : Key t} {i : Nat} {v : Value}

/-! ### One slot, two ways -/

/-- What can be done through the key does what is done by its number with the value as it is. -/
structure AgreesOn (o : SceneObject) {t : ValueType} (k : Key t) : Prop where
  /-- The two ways to write have the same result. -/
  set_eq (d : t.Data) : o.set k d = o.setValueAt k.index ⟨t, d⟩
  /-- The key may be written through, -/
  set_ok (d : t.Data) : ∃ o', o.set k d = .ok o'
  /-- and read, -/
  get_ok : ∃ d, o.get k = .ok d
  /-- which gives the data of the value in the slot. -/
  get_iff (d : t.Data) : o.get k = .ok d ↔ o.valueAt? k.index = some ⟨t, d⟩
  /-- The mark is that of the row in the list of marked rows. -/
  isDirty_eq : o.isDirty k = .ok (decide (k.index ∈ o.dirtyIndices))

/-- The one object is the other with a value written to a slot, which is marked. -/
structure Wrote (o o' : SceneObject) (i : Nat) (v : Value) : Prop where
  /-- The slot has the value, and is marked. -/
  written : o'.slots[i]? = some ⟨v, true⟩
  /-- The other slots stay as they are, -/
  others (j : Nat) : j ≠ i → o'.slots[j]? = o.slots[j]?
  /-- and so does all that is not in a slot. -/
  frame : o' = { o with slots := o'.slots }

/-- Writing by number succeeds exactly with a value of the type of the attribute. -/
theorem setValueAt_eq_ok_iff :
    o.setValueAt i v = .ok o' ↔ o.sceneClass.types[i]? = some v.type ∧ o' = o.write i v := by
  rw [setValueAt, SceneClass.types_getElem?_eq_some_iff]
  rcases o.sceneClass.attributes[i]? with _ | a
  · simp
  · by_cases type : a.type = v.type
    · simp [type, eq_comm]
    · simp [type]

/-- Writing by key does not look at the type, but a key that was issued vouches for it. -/
theorem WellTyped.set_eq_write (h : o.WellTyped) (issued : o.sceneClass.Issued k) (d : t.Data) :
    o.set k d = .ok (o.write k.index ⟨t, d⟩) := by
  obtain ⟨s, there⟩ := h.slot_of_issued issued
  rw [SceneObject.set, there]
  rfl

/-- What a key reads is what is in its slot, whatever has been written there. -/
theorem WellTyped.get_eq_ok_iff (h : o.WellTyped) (issued : o.sceneClass.Issued k) {d : t.Data} :
    o.get k = .ok d ↔ o.valueAt? k.index = some ⟨t, d⟩ := by
  obtain ⟨d', read, value⟩ := h.get_of_vouches (fun _ => issued.2) issued.1
  rw [values, List.getElem?_map] at value
  rw [read, valueAt?, value, Except.ok.injEq, Option.some.injEq, Value.mk.injEq]
  simp

/-- To ask for a mark by a key that was issued is to ask whether the row is listed. -/
theorem WellTyped.isDirty_eq (h : o.WellTyped) (issued : o.sceneClass.Issued k) :
    o.isDirty k = .ok (decide (k.index ∈ o.dirtyIndices)) := by
  obtain ⟨s, reached⟩ := h.slot_of_issued issued
  have there := getElem?_of_slot reached
  have mark : s.dirty = decide (k.index ∈ o.dirtyIndices) := by
    rw [Bool.eq_iff_iff, decide_eq_true_iff, mem_dirtyIndices, there]
    simp
  rw [SceneObject.isDirty, reached, ← mark]
  rfl

/-- **A key that the class has issued does what its number does.** -/
theorem WellTyped.agreesOn (h : o.WellTyped) (issued : o.sceneClass.Issued k) : o.AgreesOn k where
  set_eq d := by
    have written : o.setValueAt k.index ⟨t, d⟩ = .ok (o.write k.index ⟨t, d⟩) :=
      setValueAt_eq_ok_iff.2 ⟨issued.2, rfl⟩
    rw [h.set_eq_write issued, written]
  set_ok d := ⟨_, h.set_eq_write issued d⟩
  get_ok := (h.accepts issued).get
  get_iff d := h.get_eq_ok_iff issued
  isDirty_eq := h.isDirty_eq issued

/-- A successful write changes the one slot. -/
theorem WellTyped.wrote_of_setValueAt (h : o.WellTyped) (run : o.setValueAt i v = .ok o') :
    o.Wrote o' i v := by
  obtain ⟨type, rfl⟩ := setValueAt_eq_ok_iff.1 run
  obtain ⟨a, row, -⟩ := SceneClass.types_getElem?_eq_some_iff.1 type
  obtain ⟨s, there⟩ := h.complete.lt_length row
  refine ⟨?_, ?_, rfl⟩
  · rw [SceneObject.write, List.getElem?_modify, there]
    simp
  · intro j other
    rw [SceneObject.write, List.getElem?_modify]
    simp [other.symm]

/-! ### Going back, in whatever order -/

/-- Put the slots under the keys back to their defaults, one after the other. -/
def resetKeys (o : SceneObject) (ks : List AnyKey) : Except Error SceneObject :=
  ks.foldlM (fun o k => o.reset k.key) o

/-- Keys that the class has issued put back the slots of their numbers. -/
theorem WellTyped.resetKeys_eq (h : o.WellTyped) {ks : List AnyKey}
    (issued : ∀ k ∈ ks, o.sceneClass.Issued k.key) :
    o.resetKeys ks = .ok (o.resets (ks.map (·.key.index))) := by
  induction ks generalizing o with
  | nil => rfl
  | cons k rest ih =>
    have first : o.reset k.key = .ok (o.resetAt k.key.index) :=
      h.reset_eq (issued k List.mem_cons_self)
    have others : ∀ k' ∈ rest, (o.resetAt k.key.index).sceneClass.Issued k'.key := by
      intro k' there
      rw [sceneClass_resetAt]
      exact issued k' (List.mem_cons_of_mem k there)
    rw [resetKeys, List.foldlM_cons, first]
    exact ih (h.resetAt k.key.index) others

/-- **Which slots go back is all that matters**, not in which order, nor how often. -/
theorem Complete.resets_congr (h : o.Complete) {is js : List Nat}
    (same : ∀ i < o.sceneClass.count, i ∈ is ↔ i ∈ js) : o.resets is = o.resets js := by
  have slots : (o.resets is).slots = (o.resets js).slots := by
    apply List.ext_getElem?
    intro i
    rcases h.slot_and_default i with ⟨absent, -⟩ | ⟨s, v, there, default⟩
    · rw [getElem?_resets_of_none is absent, getElem?_resets_of_none js absent]
    · have inside : i < o.sceneClass.count := by
        rw [← h]
        exact (List.getElem?_eq_some_iff.1 there).1
      rw [getElem?_resets is there default, getElem?_resets js there default]
      simp only [same i inside]
  rw [o.resets_frame is, o.resets_frame js, slots]

/-- Keys that cover all slots put all slots back, as going back at once does. -/
theorem WellTyped.resetKeys_eq_resetAll (h : o.WellTyped) {ks : List AnyKey}
    (issued : ∀ k ∈ ks, o.sceneClass.Issued k.key)
    (cover : ∀ i < o.sceneClass.count, ∃ k ∈ ks, k.key.index = i) :
    o.resetKeys ks = .ok o.resetAll := by
  have all : o.resetAll = o.resets (List.range o.slots.length) := rfl
  rw [h.resetKeys_eq issued, all]
  apply congrArg Except.ok
  apply h.complete.resets_congr
  intro i inside
  have covered : i ∈ ks.map (·.key.index) := List.mem_map.2 (cover i inside)
  have numbered : i ∈ List.range o.slots.length :=
    List.mem_range.2 (inside.trans_eq h.complete.symm)
  exact iff_of_true covered numbered

end SceneObject

/-! ### The objects of a program -/

namespace Program

variable {p : Program} {o o' : SceneObject} {i : Nat} {v : Value}

/-- The slot of the object holds the value, and so says whatever it is read by. -/
structure ReadsEverywhere (p : Program) (o : SceneObject) (i : Nat) (v : Value) : Prop where
  /-- The number of the slot. -/
  byNumber : o.valueAt? i = some v
  /-- Each key of the slot that the program has, or can get. -/
  byKey (k : AnyKey) : p.Issued k → k.key.owner = o.sceneClass.id → k.key.index = i →
    ∃ d, o.get k.key = .ok d ∧ v = ⟨k.type, d⟩
  /-- Under each name and alias of the attribute there is a key that reads the value. -/
  byName (a : Attribute) (n : String) : o.sceneClass.attributes[i]? = some a →
    n = a.name ∨ n ∈ a.aliases →
    ∃ k : Key v.type, o.sceneClass.key n v.type = .ok k ∧ k.index = i ∧ o.get k = .ok v.data

/-- An issued key is one of the class that it names. -/
theorem Sound.issued (h : p.Sound) (seen : o.sceneClass ∈ p.classes) {k : AnyKey}
    (issued : p.Issued k) (own : k.key.owner = o.sceneClass.id) : o.sceneClass.Issued k.key :=
  ⟨own, h.vouches_of_issued issued seen own⟩

/-- There is a key for each slot. -/
theorem Sound.exists_key (h : p.Sound) (seen : o.sceneClass ∈ p.classes)
    (inside : i < o.sceneClass.count) :
    ∃ k, p.Issued k ∧ k.key.owner = o.sceneClass.id ∧ k.key.index = i := by
  have row : o.sceneClass.attributes[i]? = some o.sceneClass.attributes[i] :=
    List.getElem?_eq_getElem inside
  have issued : o.sceneClass.Issued
      (⟨⟨o.sceneClass.id, i⟩⟩ : Key o.sceneClass.attributes[i].type) :=
    ⟨rfl, SceneClass.types_getElem?_eq_some_iff.2 ⟨_, row, rfl⟩⟩
  obtain ⟨a, -, names⟩ := (h.classes _ seen).key_of_issued issued
  exact ⟨⟨_, _⟩, .inr ⟨_, seen, a.name, names a.name List.mem_cons_self⟩, rfl, rfl⟩

/-- What is in a slot is read in every way. -/
theorem Sound.readsEverywhere (h : p.Sound) (seen : o.sceneClass ∈ p.classes)
    (typed : o.WellTyped) (value : o.valueAt? i = some v) : p.ReadsEverywhere o i v := by
  have type : o.sceneClass.types[i]? = some v.type := by
    obtain ⟨s, there, rfl⟩ := SceneObject.valueAt?_eq_some_iff.1 value
    exact typed.types_getElem? there
  refine ⟨value, ?_, ?_⟩
  · intro k issued own here
    obtain ⟨d, read⟩ := (typed.accepts (h.issued seen issued own)).get
    have there := (typed.get_eq_ok_iff (h.issued seen issued own)).1 read
    rw [here, value] at there
    exact ⟨d, read, Option.some.inj there⟩
  · intro a n row named
    have issued : o.sceneClass.Issued (⟨⟨o.sceneClass.id, i⟩⟩ : Key v.type) := ⟨rfl, type⟩
    obtain ⟨b, row', names⟩ := (h.classes _ seen).key_of_issued issued
    obtain rfl := Option.some.inj (row.symm.trans row')
    exact ⟨_, names n (List.mem_cons.2 named), rfl, (typed.get_eq_ok_iff issued).2 value⟩

/-- **Access by key and access by number agree.** Take an object that a program holds, after
whatever it has done. Through each key that the class of the object has issued, writing, reading and
asking for the mark do what they do by number. A write that succeeds, through a key or by number,
changes the value and the mark of that slot and nothing else, and the value is then read back bit
for bit in every way there is. There is a key for each slot, and to go back to the defaults under
keys that cover the slots, in whatever order, is to go back to all of them at once. -/
theorem access_agrees (ops : List Operation) {o : SceneObject}
    (held : o ∈ (run {} ops).objects) :
    (∀ k, (run {} ops).Issued k → k.key.owner = o.sceneClass.id → o.AgreesOn k.key) ∧
    (∀ i v o', o.setValueAt i v = .ok o' →
      o.Wrote o' i v ∧ (run {} ops).ReadsEverywhere o' i v) ∧
    (∀ i < o.sceneClass.count, ∃ k, (run {} ops).Issued k ∧ k.key.owner = o.sceneClass.id ∧
      k.key.index = i) ∧
    ∀ ks : List AnyKey, (∀ k ∈ ks, (run {} ops).Issued k ∧ k.key.owner = o.sceneClass.id) →
      (∀ i < o.sceneClass.count, ∃ k ∈ ks, k.key.index = i) →
      o.resetKeys ks = .ok o.resetAll := by
  have sound := sound_run ops
  obtain ⟨seen, typed⟩ := sound.objects o held
  refine ⟨?_, ?_, ?_, ?_⟩
  · intro k issued own
    exact typed.agreesOn (sound.issued seen issued own)
  · intro i v o' run
    have wrote := typed.wrote_of_setValueAt run
    have seen' : o'.sceneClass ∈ (Program.run {} ops).classes := by
      rw [wrote.frame]
      exact seen
    have value : o'.valueAt? i = some v := by
      rw [SceneObject.valueAt?, wrote.written]
      rfl
    exact ⟨wrote, sound.readsEverywhere seen' (typed.setValueAt run) value⟩
  · intro i inside
    exact sound.exists_key seen inside
  · intro ks issued cover
    apply typed.resetKeys_eq_resetAll _ cover
    intro k there
    exact sound.issued seen (issued k there).1 (issued k there).2

/-- A class with a zero and a NaN for defaults, the second attribute with an alias, and an object of
it whose zero is written with a sign. -/
def dimming : List Operation :=
  [.newClass "Dimmer", .edit ⟨1⟩ (.declare "offset" ⟨.scalar .float, Single.zero⟩ .empty),
    .edit ⟨1⟩ (.declare "limit" ⟨.scalar .float, Single.quietNaN⟩ .empty),
    .edit ⟨1⟩ (.addAlias ⟨⟨1⟩, 1⟩ "max"), .edit ⟨1⟩ .finalize, .newObject ⟨1⟩ "left",
    .call 0 (.setValueAt 0 ⟨.scalar .float, Single.negativeZero⟩)]

/-- The class in the end. -/
def dimmerClass : SceneClass :=
  (SceneClass.new ⟨1⟩ "Dimmer").edits [
    .declare "offset" ⟨.scalar .float, Single.zero⟩ .empty,
    .declare "limit" ⟨.scalar .float, Single.quietNaN⟩ .empty,
    .addAlias ⟨⟨1⟩, 1⟩ "max", .finalize]

/-- The object in the end. -/
def dimmer : SceneObject :=
  (SceneObject.new dimmerClass "left").write 0 ⟨.scalar .float, Single.negativeZero⟩

/-- The keys that the declarations issued, the later one first. -/
def dimmerKeys : List AnyKey := [⟨.scalar .float, ⟨⟨1⟩, 1⟩⟩, ⟨.scalar .float, ⟨⟨1⟩, 0⟩⟩]

/-- The statement at this object: the signed zero is written to the second slot too, which its alias
then reads, and the slots go back under the keys from the last to the first. -/
theorem access_agrees_dimmer :
    dimmer ∈ (run {} dimming).objects ∧ (∀ k ∈ dimmerKeys, dimmer.AgreesOn k.key) ∧
    (∃ o' k, dimmer.setValueAt 1 ⟨.scalar .float, Single.negativeZero⟩ = .ok o' ∧
      o'.slots[0]? = dimmer.slots[0]? ∧ dimmerClass.key "max" (.scalar .float) = .ok k ∧
      o'.get k = .ok Single.negativeZero) ∧
    dimmer.resetKeys dimmerKeys = .ok dimmer.resetAll := by
  have held : dimmer ∈ (run {} dimming).objects := by decide +kernel
  have keys : ∀ k ∈ dimmerKeys, k ∈ (run {} dimming).keys ∧ k.key.owner = dimmer.sceneClass.id := by
    decide +kernel
  have cover : ∀ i < dimmer.sceneClass.count, ∃ k ∈ dimmerKeys, k.key.index = i := by
    decide +kernel
  obtain ⟨agree, writes, -, back⟩ := access_agrees dimming held
  refine ⟨held, ?_, ?_, ?_⟩
  · intro k there
    exact agree k (.inl (keys k there).1) (keys k there).2
  · have run : dimmer.setValueAt 1 ⟨.scalar .float, Single.negativeZero⟩ =
        .ok (dimmer.write 1 ⟨.scalar .float, Single.negativeZero⟩) := by decide +kernel
    obtain ⟨wrote, reads⟩ := writes _ _ _ run
    obtain ⟨k, named, -, read⟩ := reads.byName _ "max" (by rfl) (.inr (by decide +kernel))
    exact ⟨_, k, run, wrote.others 0 (by decide), named, read⟩
  · apply back dimmerKeys _ cover
    intro k there
    exact ⟨.inl (keys k there).1, (keys k there).2⟩

end Program

end SceneSchema
