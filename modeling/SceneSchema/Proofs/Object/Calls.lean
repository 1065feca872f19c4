import SceneSchema.Proofs.Snapshot.Restore

/-!
# Calls on objects

`Call` has one constructor for each operation that may change an object. A caller holds the object
that the call gives, or the one that was there if the call failed (`SceneObject.afterwards`), and
either is **well-typed again** (`WellTyped.afterwards`) and of the same class
(`sceneClass_afterwards`), whatever values, keys and buffers the call was given.

One condition is left, on the typed keys (`Call.Honest`): a key of the object's class has to name a
row of its type. That is for the class to guarantee, which issues the keys;
`Proofs.Program.Invariant` says that it does.
-/

namespace SceneSchema

open Wire

/-- A call that may change an object, with what it is given. -/
inductive Call where
  | set {t : ValueType} (key : Key t) (d : t.Data)
  | setValueAt (index : Nat) (v : Value)
  | reset {t : ValueType} (key : Key t)
  | resetAll
  | clearDirty
  | restore (data : Bytes)
  /-- Restore from a buffer that is open already, with the reader anywhere in it. -/
  | restoreFrom (r : Reader)

namespace Call

/-- What the call gives for an object. -/
def run (o : SceneObject) : Call → Except Error SceneObject
  | set key d => o.set key d
  | setValueAt index v => o.setValueAt index v
  | reset key => o.reset key
  | resetAll => .ok o.resetAll
  | clearDirty => .ok o.clearDirty
  | restore data => o.restore data
  | restoreFrom r => (o.restoreFrom r).1

/-- A key that the call writes through keeps its promise. -/
def Honest (c : SceneClass) : Call → Prop
  | set key _ => c.Vouches key
  | _ => True

end Call

namespace SceneObject

variable {o o' : SceneObject}

/-- An object that is restored from a reader is well typed again. -/
theorem WellTyped.restoreFrom (h : o.WellTyped) {r : Reader}
    (run : (o.restoreFrom r).1 = .ok o') : o'.WellTyped := by
  obtain ⟨vs, reads, rfl⟩ := restoreFrom_eq_ok_iff.1 (Prod.ext run rfl)
  obtain ⟨bytes, -, record, -⟩ := (recognizes_readValues _).sound reads
  exact h.replaceValues record.types_eq

/-- One call keeps an object well-typed. -/
theorem WellTyped.call (h : o.WellTyped) {k : Call} (honest : k.Honest o.sceneClass)
    (run : k.run o = .ok o') : o'.WellTyped := by
  cases k with
  | set key d => exact h.set honest run
  | setValueAt index v => exact h.setValueAt run
  | reset key => exact h.reset run
  | resetAll =>
    obtain rfl := Except.ok.inj run
    exact h.resetAll
  | clearDirty =>
    obtain rfl := Except.ok.inj run
    exact h.clearDirty
  | restore data => exact h.restore run
  | restoreFrom r => exact h.restoreFrom run

/-- A failed call leaves the object that was there, so every call keeps an object well-typed. -/
theorem WellTyped.afterwards (h : o.WellTyped) {k : Call} (honest : k.Honest o.sceneClass) :
    (o.afterwards (k.run o)).WellTyped := by
  rcases run : k.run o with e | o'
  · exact h
  · exact h.call honest run

/-! ### Calls keep the class -/

/-- Going back to a default keeps the class. -/
@[simp] theorem sceneClass_resetAt (o : SceneObject) (i : Nat) :
    (o.resetAt i).sceneClass = o.sceneClass := by
  unfold resetAt
  split <;> rfl

/-- Going back to all defaults keeps the class. -/
@[simp] theorem sceneClass_resetAll (o : SceneObject) : o.resetAll.sceneClass = o.sceneClass := by
  unfold resetAll
  generalize List.range o.slots.length = indices
  induction indices generalizing o with
  | nil => rfl
  | cons i rest ih => simp [ih]

/-- No call changes the class of an object. -/
theorem sceneClass_call {k : Call} (run : k.run o = .ok o') : o'.sceneClass = o.sceneClass := by
  cases k with
  | set key d =>
    obtain ⟨s, -, run⟩ := bind_eq_ok_iff.1 run
    cases run
    rfl
  | setValueAt index v =>
    rw [Call.run, SceneObject.setValueAt] at run
    split at run
    · cases run
    · split at run <;> cases run
      rfl
  | reset key =>
    obtain ⟨s, -, run⟩ := bind_eq_ok_iff.1 run
    cases run
    exact sceneClass_resetAt o key.index
  | resetAll =>
    obtain rfl := Except.ok.inj run
    exact sceneClass_resetAll o
  | clearDirty =>
    obtain rfl := Except.ok.inj run
    rfl
  | restore data => exact sceneClass_of_restore run
  | restoreFrom r =>
    obtain ⟨vs, -, rfl⟩ := restoreFrom_eq_ok_iff.1 (Prod.ext run rfl)
    rfl

/-- The class is the same after a call, whether or not it succeeded. -/
theorem sceneClass_afterwards (o : SceneObject) (k : Call) :
    (o.afterwards (k.run o)).sceneClass = o.sceneClass := by
  rcases run : k.run o with e | o'
  · rfl
  · exact sceneClass_call run

end SceneObject

end SceneSchema
