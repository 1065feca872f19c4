import SceneSchema.Proofs.Object.CallsInPlace
import SceneSchema.Proofs.Schema.Growth

/-!
# Which keys an object takes

An object takes the keys that its class has issued, and refuses all others. `SceneObject.Accepts`
and `SceneObject.Refuses` say this of all four operations that are given a key: reading, writing,
asking for the mark, and going back to the default.

* `WellTyped.accepts` — **an object takes every key that its class has issued**.
* `refuses_of_owner_ne` — it refuses the keys of another class as foreign, whatever row they name.
  In place, this leaves its columns as they were.
* `WellTyped.afterAll`, `sceneClass_afterAll` — this does not depend on what was called before.
-/

namespace SceneSchema

namespace SceneObject

variable {o : SceneObject} {t : ValueType} {k : Key t}

/-- All that can be done with the key succeeds. -/
structure Accepts (o : SceneObject) {t : ValueType} (k : Key t) : Prop where
  /-- The key can be read through, -/
  get : ∃ d, o.get k = .ok d
  /-- written through, -/
  set (d : t.Data) : ∃ o', o.set k d = .ok o'
  /-- asked for the mark, -/
  isDirty : ∃ b, o.isDirty k = .ok b
  /-- and used to go back to the default. -/
  reset : ∃ o', o.reset k = .ok o'

/-- The error of a key that is foreign to the object. -/
def foreign (o : SceneObject) : Error := .foreignKey o.sceneClass.name o.name

/-- All that can be done with the key fails, since it is foreign; and in place, each of these leaves
the object's columns as they were. -/
structure Refuses (o : SceneObject) {t : ValueType} (k : Key t) : Prop where
  /-- Nothing can be read through the key, -/
  get : o.get k = .error o.foreign ∧ (Columns.getInPlace k).FailsAt o.columns o.foreign
  /-- nor written, -/
  set (d : t.Data) : o.set k d = .error o.foreign ∧
    (Call.set k d).inPlace.FailsAt o.columns o.foreign
  /-- no mark can be asked for, -/
  isDirty : o.isDirty k = .error o.foreign ∧ (Columns.isDirtyInPlace k).FailsAt o.columns o.foreign
  /-- and there is no default to go back to. -/
  reset : o.reset k = .error o.foreign ∧ (Call.reset k).inPlace.FailsAt o.columns o.foreign

/-- The slot of a key of another class is not looked for. -/
theorem slot_of_owner_ne {k : SlotKey} (other : k.owner ≠ o.sceneClass.id) :
    o.slot k = .error o.foreign := if_neg other

/-- In place, the check of the key is the first thing that is done with it. -/
theorem failsAt_of_owner_ne {β : Type} {k : SlotKey} (other : k.owner ≠ o.sceneClass.id)
    (f : Nat → InPlace Columns β) :
    (InPlace.check (·.checkIndex k) >>= f).FailsAt o.columns o.foreign := by
  rw [InPlace.FailsAt, Columns.checkIndex_bind, if_neg fun own => other own.1]
  rfl

/-- A key of another class is refused, whatever row it names. -/
theorem refuses_of_owner_ne (other : k.owner ≠ o.sceneClass.id) : o.Refuses k := by
  have missing := slot_of_owner_ne other
  constructor
  · exact ⟨get_of_owner_ne other, failsAt_of_owner_ne other _⟩
  · intro d
    rw [SceneObject.set, missing]
    exact ⟨rfl, failsAt_of_owner_ne other _⟩
  · rw [SceneObject.isDirty, missing]
    exact ⟨rfl, failsAt_of_owner_ne other _⟩
  · rw [SceneObject.reset, missing]
    exact ⟨rfl, failsAt_of_owner_ne other _⟩

/-- The slot of a key that the class has issued is there. -/
theorem WellTyped.slot_of_issued (h : o.WellTyped) (issued : o.sceneClass.Issued k) :
    ∃ s, o.slot k.toSlotKey = .ok s := by
  obtain ⟨d, -, value⟩ := h.get_of_vouches (fun _ => issued.2) issued.1
  rw [values, List.getElem?_map, Option.map_eq_some_iff] at value
  obtain ⟨s, there, -⟩ := value
  exact ⟨s, by rw [slot, if_pos issued.1, there]⟩

/-- **An object takes every key that its class has issued.** -/
theorem WellTyped.accepts (h : o.WellTyped) (issued : o.sceneClass.Issued k) : o.Accepts k := by
  obtain ⟨d, read, -⟩ := h.get_of_vouches (fun _ => issued.2) issued.1
  obtain ⟨s, there⟩ := h.slot_of_issued issued
  refine ⟨⟨d, read⟩, fun d => ?_, ?_, ?_⟩
  · rw [SceneObject.set, there]
    exact ⟨_, rfl⟩
  · rw [SceneObject.isDirty, there]
    exact ⟨_, rfl⟩
  · rw [SceneObject.reset, there]
    exact ⟨_, rfl⟩

/-! ### After many calls -/

/-- The object after some calls, one after the other. -/
def afterAll (o : SceneObject) (calls : List Call) : SceneObject :=
  calls.foldl (fun o k => o.afterwards (k.run o)) o

/-- It is of the same class. -/
theorem sceneClass_afterAll (o : SceneObject) (calls : List Call) :
    (o.afterAll calls).sceneClass = o.sceneClass := by
  induction calls generalizing o with
  | nil => rfl
  | cons k rest ih => exact (ih _).trans (o.sceneClass_afterwards k)

/-- And it is well-typed, if the keys that were written through keep their promise. -/
theorem WellTyped.afterAll (h : o.WellTyped) {calls : List Call}
    (honest : ∀ k ∈ calls, k.Honest o.sceneClass) : (o.afterAll calls).WellTyped := by
  induction calls generalizing o with
  | nil => exact h
  | cons k rest ih =>
    refine ih (h.afterwards (honest k List.mem_cons_self)) fun k' there => ?_
    rw [o.sceneClass_afterwards k]
    exact honest k' (List.mem_cons_of_mem k there)

/-- An object goes on to take the keys of its class. -/
theorem WellTyped.accepts_afterAll (h : o.WellTyped) (issued : o.sceneClass.Issued k)
    {calls : List Call} (honest : ∀ k ∈ calls, k.Honest o.sceneClass) :
    (o.afterAll calls).Accepts k :=
  (h.afterAll honest).accepts ((o.sceneClass_afterAll calls).symm ▸ issued)

end SceneObject

end SceneSchema
