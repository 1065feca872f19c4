import SceneSchema.Error

/-!
# Work that is done in place

Where the rest of the library makes a new state of an old one, the same can be done in place, by
writes that come one after the other. Then an operation that fails leaves its state as the writes
before have made it, and one that reaches for a place that is not there breaks down. `InPlace` are
such operations, put together from two kinds of steps: `InPlace.consult` looks at the state, and may
fail, and `InPlace.write` changes it, and cannot fail.

An operation has no other effect than that of a function into `Except` if it gives the `outcome` of
the function at every state: it never breaks down, and if it fails, it leaves the state as it was
(`InPlace.FailsAt`).
-/

namespace SceneSchema

/-- An operation on a state in place: it fails or gives a result, and leaves some state either way,
or it breaks down (`none`). -/
abbrev InPlace (σ α : Type) := ExceptT Error (StateT σ Option) α

/-- After a success, what is left is the rest. -/
theorem ok_bind {α β : Type} (a : α) (f : α → Except Error β) : (Except.ok a >>= f) = f a := rfl

namespace InPlace

variable {σ α β : Type}

/-- Look at the state, which stays as it is. -/
def consult (f : σ → Option (Except Error α)) : InPlace σ α := fun s => (f s).map (·, s)

/-- Look at the state in a way that is always possible. -/
def check (f : σ → Except Error α) : InPlace σ α := consult fun s => some (f s)

/-- Change the state. -/
def write (f : σ → Option σ) : InPlace σ Unit := fun s => (f s).map (.ok (), ·)

/-- What an operation gives and leaves that does, or fails to do, what the result says. -/
def outcome (s : σ) : Except Error σ → Except Error Unit × σ
  | .ok s' => (.ok (), s')
  | .error e => (.error e, s)

/-- At the state, the operation fails with the error and leaves the state as it was. -/
def FailsAt (x : InPlace σ α) (s : σ) (e : Error) : Prop := x s = some (.error e, s)

/-- What comes next goes on from the state that was left, unless the first operation fails. -/
theorem bind_apply (x : InPlace σ α) (f : α → InPlace σ β) (s : σ) :
    (x >>= f) s = match x s with
      | none => none
      | some (.ok a, s') => f a s'
      | some (.error e, s') => some (.error e, s') := by
  show Option.bind (x s) _ = _
  rcases x s with _ | ⟨_ | _, s'⟩ <;> rfl

/-- After a look, the state is the same. -/
theorem consult_bind (f : σ → Option (Except Error α)) (g : α → InPlace σ β) (s : σ) :
    (consult f >>= g) s = match f s with
      | none => none
      | some (.ok a) => g a s
      | some (.error e) => some (.error e, s) := by
  rw [bind_apply, consult]
  rcases f s with _ | _ | _ <;> rfl

/-- After a check, the state is the same. -/
theorem check_bind (f : σ → Except Error α) (g : α → InPlace σ β) (s : σ) :
    (check f >>= g) s = match f s with
      | .ok a => g a s
      | .error e => some (.error e, s) := by
  rw [check, consult_bind]
  rcases f s with _ | _ <;> rfl

/-- A write leaves the new state. -/
theorem write_apply (f : σ → Option σ) (s : σ) : write f s = (f s).map (.ok (), ·) := rfl

/-- A change of the state does what it does, and cannot fail. -/
theorem write_outcome {f : σ → Option σ} {s : σ} :
    write f s = ((f s).map Except.ok).map (outcome s) := by
  rw [write_apply, Option.map_map]
  rfl

/-- After a write, what comes next goes on from the new state. -/
theorem write_bind (f : σ → Option σ) (g : Unit → InPlace σ β) (s : σ) :
    (write f >>= g) s = match f s with
      | none => none
      | some s' => g () s' := by
  rw [bind_apply, write]
  rcases f s with _ | _ <;> rfl

end InPlace

end SceneSchema
