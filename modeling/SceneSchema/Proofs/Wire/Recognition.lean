import SceneSchema.Proofs.Wire.Sentence

/-!
# What it means that a step of reading accepts a format

A step of reading *recognizes* a format (`Recognizes`) if it is sound and complete for it.

* **Sound**: if it gives a result, the bytes that it moved past are a sentence that denotes the
  result.
* **Complete**: if a sentence of fewer than `2 ^ 64` bytes is ahead, *whatever follows it*, the
  step gives what the sentence denotes and stops right behind it.

Recognition composes: `Recognizes.bind` for one step after another, `Recognizes.look`,
`Recognizes.fail` and `Recognizes.done` for the rest of the program text. A format that some step
recognizes is free of ambiguity: no sentence is a proper front of another (`Recognizes.unique`).

The bound of `2 ^ 64` bytes is that of a buffer on a machine with 64-bit lengths. It is needed: the
reader of counts also refuses a count if the bytes it asks for overflow a 64-bit number.
-/

namespace SceneSchema

open Wire

namespace Wire

variable {α β : Type}

/-! ### Moving on -/

namespace Reader

/-- Moving over bytes drops them from what is ahead. -/
@[simp] theorem rest_advance (r : Reader) (n : Nat) : (r.advance n).rest = r.rest.drop n := rfl

/-- Moving over bytes adds them to the position. -/
@[simp] theorem position_advance (r : Reader) (n : Nat) :
    (r.advance n).position = r.position + n := rfl

/-- Moving twice is moving over the bytes of both. -/
theorem advance_advance (r : Reader) (m n : Nat) :
    (r.advance m).advance n = r.advance (m + n) := by
  simp [advance, Nat.add_assoc]

/-- A reader tells how far it has been moved. -/
theorem advance_inj {r : Reader} {m n : Nat} : r.advance m = r.advance n ↔ m = n := by
  constructor
  · intro same
    have positions := congrArg position same
    rw [position_advance, position_advance] at positions
    omega
  · intro same
    rw [same]

end Reader

/-- A text of two parts is ahead if the first part is and the second is behind it. -/
theorem append_prefix_iff {p q l : Bytes} : p ++ q <+: l ↔ p <+: l ∧ q <+: l.drop p.length := by
  constructor
  · intro both
    obtain ⟨more, rfl⟩ := both
    refine ⟨⟨q ++ more, by rw [List.append_assoc]⟩, more, ?_⟩
    rw [List.append_assoc, List.drop_left]
  · intro each
    obtain ⟨⟨more, rfl⟩, second⟩ := each
    rw [List.drop_left] at second
    exact (List.prefix_append_right_inj p).2 second

/-- If the first step succeeds, the second goes on from where it left the reader. -/
theorem Read.bind_of_ok {x : Read α} {f : α → Read β} {r s : Reader} {a : α}
    (first : x r = (.ok a, s)) : (x >>= f) r = f a s := by
  rw [Read.bind_apply, first]

/-- If the first step fails, the second does not come to pass. -/
theorem Read.bind_of_error {x : Read α} {f : α → Read β} {r s : Reader} {e : Error}
    (first : x r = (.error e, s)) : (x >>= f) r = (.error e, s) := by
  rw [Read.bind_apply, first]

/-- What is made of a result does not matter if there is none. -/
theorem Read.bind_pure_eq_error_iff {x : Read α} {g : α → β} {r s : Reader} {e : Error} :
    (x >>= fun a => pure (g a)) r = (.error e, s) ↔ x r = (.error e, s) := by
  rcases run : x r with ⟨e' | a, r'⟩
  · rw [Read.bind_of_error run, Prod.mk.injEq, Prod.mk.injEq, Except.error.injEq,
      Except.error.injEq]
  · rw [Read.bind_of_ok run]
    constructor
    · intro failed
      cases failed
    · intro failed
      cases failed

/-- A step followed by another succeeds if both do. -/
theorem Read.bind_eq_ok_iff {x : Read α} {f : α → Read β} {r r' : Reader} {b : β} :
    (x >>= f) r = (.ok b, r') ↔ ∃ a r₁, x r = (.ok a, r₁) ∧ f a r₁ = (.ok b, r') := by
  rw [Read.bind_apply]
  rcases x r with ⟨e | a, r₁⟩
  · constructor
    · intro failed
      cases failed
    · intro both
      obtain ⟨_, _, failed, -⟩ := both
      cases failed
  · constructor
    · intro second
      exact ⟨a, r₁, rfl, second⟩
    · intro both
      obtain ⟨_, _, first, second⟩ := both
      cases first
      exact second

/-! ### Recognition -/

/-- A step of reading accepts exactly the sentences of a format, whatever follows them. -/
structure Recognizes (x : Read α) (format : Bytes → α → Prop) : Prop where
  /-- What the step moves past is a sentence for its result. -/
  sound : ∀ {r r' : Reader} {a : α}, x r = (.ok a, r') →
    ∃ bytes, bytes <+: r.rest ∧ format bytes a ∧ r' = r.advance bytes.length
  /-- A sentence that is ahead is read, and nothing behind it. -/
  complete : ∀ {r : Reader} {bytes : Bytes} {a : α}, bytes <+: r.rest → bytes.length < 2 ^ 64 →
    format bytes a → x r = (.ok a, r.advance bytes.length)

/-- A format followed by one that depends on what the first denotes. -/
def Chain (P : Bytes → α → Prop) (Q : α → Bytes → β → Prop) (bytes : Bytes) (b : β) : Prop :=
  ∃ p q a, bytes = p ++ q ∧ P p a ∧ Q a q b

namespace Recognizes

variable {x : Read α} {f : α → Read β} {P P' : Bytes → α → Prop} {Q : α → Bytes → β → Prop}

/-- Only which bytes denote what matters of a format. -/
theorem congr (h : Recognizes x P) (same : ∀ bytes a, P bytes a ↔ P' bytes a) :
    Recognizes x P' where
  sound run := by
    obtain ⟨bytes, ahead, sentence, moved⟩ := h.sound run
    exact ⟨bytes, ahead, (same bytes _).1 sentence, moved⟩
  complete ahead short sentence := h.complete ahead short ((same _ _).2 sentence)

/-- One step after another recognizes one format after another. -/
theorem bind (hx : Recognizes x P) (hf : ∀ a, Recognizes (f a) (Q a)) :
    Recognizes (x >>= f) (Chain P Q) where
  sound run := by
    obtain ⟨a, r₁, first, second⟩ := Read.bind_eq_ok_iff.1 run
    obtain ⟨p, hp, sentence₁, rfl⟩ := hx.sound first
    obtain ⟨q, hq, sentence₂, rfl⟩ := (hf a).sound second
    refine ⟨p ++ q, append_prefix_iff.2 ⟨hp, hq⟩, ⟨p, q, a, rfl, sentence₁, sentence₂⟩, ?_⟩
    rw [Reader.advance_advance, List.length_append]
  complete {r bytes b} ahead short sentence := by
    obtain ⟨p, q, a, rfl, sentence₁, sentence₂⟩ := sentence
    rw [List.length_append] at short
    obtain ⟨hp, hq⟩ := append_prefix_iff.1 ahead
    have first := hx.complete hp (by omega) sentence₁
    have second := (hf a).complete (r := r.advance p.length) hq (by omega) sentence₂
    rw [Reader.advance_advance, ← List.length_append] at second
    exact Read.bind_eq_ok_iff.2 ⟨a, _, first, second⟩

/-- Looking at the reader changes nothing. -/
theorem look {g : Reader → Read α} (h : ∀ r, Recognizes (g r) P) :
    Recognizes (Read.look >>= g) P where
  sound {r} _ _ run := (h r).sound (r := r) run
  complete {r} _ _ ahead short sentence := (h r).complete (r := r) ahead short sentence

/-- A step that always fails recognizes a format without sentences. -/
theorem fail {e : Error} (none : ∀ bytes a, ¬ P bytes a) : Recognizes (Read.fail e) P where
  sound run := by cases run
  complete _ _ sentence := absurd sentence (none _ _)

/-- A step that is done recognizes a format whose only sentence is empty. -/
theorem done {a : α} (only : ∀ bytes b, P bytes b ↔ bytes = [] ∧ b = a) :
    Recognizes (pure a) P where
  sound {r r' b} run := by
    cases run
    exact ⟨[], List.nil_prefix, (only [] a).2 ⟨rfl, rfl⟩, rfl⟩
  complete {r bytes b} _ _ sentence := by
    obtain ⟨rfl, rfl⟩ := (only bytes b).1 sentence
    rfl

/-- A result made into another. -/
theorem map (h : Recognizes x P) (g : α → β) :
    Recognizes (x >>= fun a => pure (g a)) (fun bytes b => ∃ a, P bytes a ∧ b = g a) := by
  have chain : Recognizes (x >>= fun a => pure (g a))
      (Chain P fun a bytes b => bytes = [] ∧ b = g a) := h.bind fun a => done fun _ _ => Iff.rfl
  apply chain.congr
  intro bytes b
  constructor
  · intro parts
    obtain ⟨p, _, a, rfl, sentence, rfl, rfl⟩ := parts
    exact ⟨a, by rwa [List.append_nil], rfl⟩
  · intro made
    obtain ⟨a, sentence, rfl⟩ := made
    exact ⟨bytes, [], a, (List.append_nil bytes).symm, sentence, rfl, rfl⟩

/-- **No sentence is a proper front of another**: of two sentences that begin at one place both
denote the same and are the same. -/
theorem unique (h : Recognizes x P) {l bytes₁ bytes₂ : Bytes} {a₁ a₂ : α} (first : bytes₁ <+: l)
    (second : bytes₂ <+: l) (short : l.length < 2 ^ 64) (sentence₁ : P bytes₁ a₁)
    (sentence₂ : P bytes₂ a₂) : bytes₁ = bytes₂ ∧ a₁ = a₂ := by
  have run₁ := h.complete (r := ⟨0, 0, l, false⟩) first (first.length_le.trans_lt short) sentence₁
  have run₂ := h.complete (r := ⟨0, 0, l, false⟩) second (second.length_le.trans_lt short) sentence₂
  rw [run₁, Prod.mk.injEq, Except.ok.injEq, Reader.advance_inj] at run₂
  obtain ⟨sameResult, sameLength⟩ := run₂
  refine ⟨?_, sameResult⟩
  rw [List.prefix_iff_eq_take.1 first, List.prefix_iff_eq_take.1 second, sameLength]

end Recognizes

end Wire

end SceneSchema
