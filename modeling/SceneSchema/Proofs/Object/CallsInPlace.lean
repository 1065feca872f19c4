import SceneSchema.Proofs.InPlace
import SceneSchema.Proofs.Object.Columns

/-!
# Calls that are made in place

An object in two columns is written one place at a time: a value, and then its mark. A call in place
(`Call.inPlace`) makes its checks, decodes what it is given, and only then starts to write. Looking
something up (`Columns.getInPlace`, `Columns.isDirtyInPlace`) writes nothing.

* `putInPlace_eq`, `resetAtInPlace_eq`, `resetAllInPlace_eq`, `replaceInPlace_eq` — writes that come
  one after the other are one change of the columns.
* `Call.inPlace_apply` — a call in place does what the call does to the columns, and leaves them as
  they were if it fails.
* `WellTyped.inPlace_eq` — so in place a call on a well-typed object does what it does to the
  object.
* `restore_failsAt` — a buffer that is refused is not written at all, whatever the object holds.
-/

namespace SceneSchema

open Wire InPlace

namespace Columns

/-! ### Calls in place -/

/-- The number under a key; fails if the class did not issue it, or if there is no such value. -/
def checkIndex (c : Columns) (k : SlotKey) : Except Error Nat :=
  if k.owner = c.sceneClass.id ∧ k.index < c.values.length then .ok k.index
  else .error (.foreignKey c.sceneClass.name c.name)

/-- Write a value, and then its mark. -/
def putInPlace (i : Nat) (v : Value) : InPlace Columns Unit := do
  write fun c => (store? c.values i v).map ({ c with values := · })
  write fun c => (store? c.marks i true).map ({ c with marks := · })

/-- Look up the value under a key; fails if it has another type. -/
def getInPlace {t : ValueType} (k : Key t) : InPlace Columns t.Data := do
  let i ← check (·.checkIndex k.toSlotKey)
  consult fun c => do
    let v ← c.values[i]?
    match v.get? t with
    | some d => some (.ok d)
    | none =>
        let name := ((c.sceneClass.attributes[i]?).map (·.name)).getD ""
        some (.error (.typeMismatch name v.type t))

/-- Look up the mark under a key. -/
def isDirtyInPlace {t : ValueType} (k : Key t) : InPlace Columns Bool := do
  let i ← check (·.checkIndex k.toSlotKey)
  consult fun c => do some (.ok (← c.marks[i]?))

/-- Write a value under a key. -/
def setInPlace {t : ValueType} (k : Key t) (d : t.Data) : InPlace Columns Unit := do
  let i ← check (·.checkIndex k.toSlotKey)
  putInPlace i ⟨t, d⟩

/-- Write a value by number, if there is an attribute of the number that has the value's type. -/
def setValueAtInPlace (i : Nat) (v : Value) : InPlace Columns Unit := do
  check fun c =>
    match c.sceneClass.attributes[i]? with
    | none => .error (.unknownAttribute c.sceneClass.name ("#" ++ toString i))
    | some a => if a.type = v.type then .ok () else .error (.typeMismatch a.name a.type v.type)
  putInPlace i v

/-- Put a value back to its default, if it differs. -/
def resetAtInPlace (i : Nat) : InPlace Columns Unit := do
  match ← check fun c => .ok c.sceneClass.attributes[i]? with
  | none => pure ()
  | some a =>
      let same ← consult fun c => (c.values[i]?).map (.ok <| ·.same a.default)
      if same then pure () else putInPlace i a.default

/-- Put the value under a key back to its default. -/
def resetInPlace {t : ValueType} (k : Key t) : InPlace Columns Unit := do
  let i ← check (·.checkIndex k.toSlotKey)
  resetAtInPlace i

/-- Put one value after the other back to its default. -/
def resetAllInPlace : InPlace Columns Unit := do
  let n ← check fun c => .ok c.values.length
  forM (List.range n) resetAtInPlace

/-- Replace all values, by as many as there are: first mark what differs, then change the column. -/
def replaceInPlace (vs : List Value) : InPlace Columns Unit := do
  consult fun c => if vs.length = c.values.length then some (.ok ()) else none
  write fun c => (markFrom 0 c.values vs c.marks).map ({ c with marks := · })
  write fun c => some { c with values := vs }

/-- Replace the values by the next record, once all of it has been read. -/
def restoreFromInPlace (r : Reader) : InPlace Columns Unit := do
  let vs ← check fun c => (readValues c.sceneClass.types r).1
  replaceInPlace vs

/-- Replace the values by the one record of a buffer, once all of the buffer has been read. -/
def restoreInPlace (data : Bytes) : InPlace Columns Unit := do
  let r ← check fun _ => Reader.openChecked data
  let vs ← check fun c =>
    match readValues c.sceneClass.types r with
    | (.error e, _) => .error e
    | (.ok vs, r') =>
        if r'.isDone then .ok vs
        else .error (.invalidData (.trailing r'.remaining vs.length c.sceneClass.name))
  replaceInPlace vs

end Columns

/-- Make the call in place. -/
def Call.inPlace : Call → InPlace Columns Unit
  | .set key d => Columns.setInPlace key d
  | .setValueAt index v => Columns.setValueAtInPlace index v
  | .reset key => Columns.resetInPlace key
  | .resetAll => Columns.resetAllInPlace
  | .clearDirty => write fun c => some { c with marks := c.marks.map fun _ => false }
  | .restore data => Columns.restoreInPlace data
  | .restoreFrom r => Columns.restoreFromInPlace r

namespace Columns

variable {β : Type}

/-- What is done through a key is done if the key is accepted. -/
theorem checkIndex_bind (c : Columns) (k : SlotKey) (f : Nat → InPlace Columns β) :
    (check (·.checkIndex k) >>= f) c =
      if k.owner = c.sceneClass.id ∧ k.index < c.values.length then f k.index c
      else some (.error (.foreignKey c.sceneClass.name c.name), c) := by
  rw [check_bind, checkIndex]
  by_cases own : k.owner = c.sceneClass.id ∧ k.index < c.values.length
  · rw [if_pos own, if_pos own]
  · rw [if_neg own, if_neg own]

/-- Looking at the place under a key is what `Columns.atKey` gives, and leaves the columns. -/
theorem consult_atKey (c : Columns) (k : SlotKey) (f : Nat → Columns → Option (Except Error β)) :
    (check (·.checkIndex k) >>= fun i => consult (f i)) c =
      (c.atKey k fun i => f i c).map (·, c) := by
  rw [checkIndex_bind, atKey]
  split <;> rfl

/-- Writing to the place under a key is done, or the key is refused and nothing is written. -/
theorem write_atKey (c : Columns) (k : SlotKey) (f : Nat → Columns → Option Columns) :
    (check (·.checkIndex k) >>= fun i => write (f i)) c =
      (c.atKey k fun i => (f i c).map .ok).map (outcome c) := by
  rw [checkIndex_bind, atKey]
  split
  · exact write_outcome
  · rfl

/-- Looking up a value gives what the columns give, and leaves them. -/
theorem getInPlace_apply {t : ValueType} (c : Columns) (k : Key t) :
    getInPlace k c = (c.get k).map (·, c) := consult_atKey c _ _

/-- And so does looking up a mark. -/
theorem isDirtyInPlace_apply {t : ValueType} (c : Columns) (k : Key t) :
    isDirtyInPlace k c = (c.isDirty k).map (·, c) := consult_atKey c _ _

/-- The two writes of a value and its mark are one change. -/
theorem putInPlace_eq (i : Nat) (v : Value) : putInPlace i v = write (·.put i v) := by
  funext c
  rw [putInPlace, write_bind, write_apply, put]
  rcases store? c.values i v with _ | values
  · rfl
  dsimp only [Option.map_some]
  rw [write_apply]
  rcases store? c.marks i true with _ | marks <;> rfl

/-- Going back to a default is one change, or none. -/
theorem resetAtInPlace_eq (i : Nat) : resetAtInPlace i = write (·.resetAt i) := by
  funext c
  rw [resetAtInPlace, check_bind, write_apply, resetAt]
  dsimp only
  rcases c.sceneClass.attributes[i]? with _ | a
  · rfl
  dsimp only
  rw [consult_bind]
  rcases c.values[i]? with _ | v
  · rfl
  dsimp only [Option.map_some, Option.bind_eq_bind, Option.bind_some]
  by_cases same : v.same a.default = true
  · rw [if_pos same, if_pos same]
    rfl
  · rw [if_neg same, if_neg same, putInPlace_eq, write_apply]

/-- Going back to all defaults is a change made of these. -/
theorem resetAllInPlace_eq : resetAllInPlace = write resetAll := by
  funext c
  rw [resetAllInPlace, check_bind, write_apply, resetAll]
  dsimp only
  generalize List.range c.values.length = indices
  induction indices generalizing c with
  | nil => rfl
  | cons i rest ih =>
    rw [List.forM_cons, List.foldlM_cons, resetAtInPlace_eq, write_bind]
    rcases c.resetAt i with _ | c'
    · rfl
    · exact ih c'

/-- Replacing all values is one change. -/
theorem replaceInPlace_eq (vs : List Value) : replaceInPlace vs = write (·.replaceValues vs) := by
  funext c
  rw [replaceInPlace, consult_bind, write_apply, replaceValues]
  by_cases length : vs.length = c.values.length
  · rw [if_pos length, if_pos length]
    dsimp only
    rw [write_bind]
    rcases markFrom 0 c.values vs c.marks with _ | marks <;> rfl
  · rw [if_neg length, if_neg length]
    rfl

end Columns

/-- **A call in place does what the call does**, and leaves the columns alone if it fails. -/
theorem Call.inPlace_apply (k : Call) (c : Columns) :
    k.inPlace c = (c.run k).map (outcome c) := by
  cases k with
  | set key d =>
    rw [Call.inPlace, Columns.setInPlace]
    simp only [Columns.putInPlace_eq]
    exact Columns.write_atKey c _ _
  | setValueAt index v =>
    rw [Call.inPlace, Columns.setValueAtInPlace, check_bind, Columns.run, Columns.setValueAt]
    rcases c.sceneClass.attributes[index]? with _ | a
    · rfl
    dsimp only
    by_cases type : a.type = v.type
    · rw [if_pos type, if_pos type]
      dsimp only
      rw [Columns.putInPlace_eq]
      exact write_outcome
    · rw [if_neg type, if_neg type]
      rfl
  | reset key =>
    rw [Call.inPlace, Columns.resetInPlace]
    simp only [Columns.resetAtInPlace_eq]
    exact Columns.write_atKey c _ _
  | resetAll =>
    rw [Call.inPlace, Columns.resetAllInPlace_eq]
    exact write_outcome
  | clearDirty => rfl
  | restore data =>
    rw [Call.inPlace, Columns.restoreInPlace, check_bind, Columns.run, Columns.restore]
    rcases Reader.openChecked data with e | r
    · rfl
    dsimp only
    rw [check_bind]
    rcases readValues c.sceneClass.types r with ⟨e | vs, r'⟩
    · rfl
    dsimp only
    by_cases done : r'.isDone = true
    · rw [if_pos done, if_pos done]
      dsimp only
      rw [Columns.replaceInPlace_eq]
      exact write_outcome
    · rw [if_neg done, if_neg done]
      rfl
  | restoreFrom r =>
    rw [Call.inPlace, Columns.restoreFromInPlace, check_bind, Columns.run, Columns.restoreFrom]
    rcases readValues c.sceneClass.types r with ⟨e | vs, r'⟩
    · rfl
    dsimp only
    rw [Columns.replaceInPlace_eq]
    exact write_outcome

namespace SceneObject

variable {o : SceneObject}

/-- **In place, a call on a well-typed object does what it does to the object**, and leaves the
object as it was if it fails. -/
theorem WellTyped.inPlace_eq (h : o.WellTyped) (k : Call) :
    k.inPlace o.columns = some (outcome o.columns ((k.run o).map columns)) := by
  rw [k.inPlace_apply, h.columns_run k]
  rfl

/-- **A buffer that is refused is not written.** All of it is read before the first write, so that
it does not matter what the object holds. -/
theorem restore_failsAt {data : Bytes} {e : Error} (failed : o.restore data = .error e) :
    (Call.restore data).inPlace.FailsAt o.columns e := by
  have refused : o.columns.run (.restore data) = some (.error e) := columns_restore_of_error failed
  rw [FailsAt, Call.inPlace_apply, refused]
  rfl

end SceneObject

end SceneSchema
