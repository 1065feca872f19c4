import SceneSchema.Proofs.Wire.Buffer
import SceneSchema.Proofs.Wire.Recognition

/-!
# A reader never leaves its buffer

Whatever bytes a buffer holds and whatever is asked of its reader, the reader stands behind the
header and not behind the end (`Reader.Within`), it only moves forward (`Reader.Reaches`), and if it
fails for lack of data, the error describes the place where the reader is left
(`BoundedAt.truncated`).

* `BoundedAt` — what one step of reading does to a reader. It is shown for `take` and passed on by
  sequencing, so each reader gets its lemma `bounded_…` from its own text.
* `TakesAtOnce` — a step that takes a number of bytes whatever they are: it moves past them, even if
  it then finds fault with them, or it fails for lack of data and does not move (`AllOrNothing`). So
  do the readers of fixed width, each with the size that its type comes with.
* `ReadCall` — the calls that a program can make of a reader, and `Reader.after`, the reader after
  any number of them, whether they succeeded or failed.

Main statement: `ReadCall.stays_within`, **for all buffers and all sequences of calls**.
-/

namespace SceneSchema

open Wire

namespace Wire

variable {α β : Type}

/-! ### Places in a buffer -/

namespace Reader

/-- The reader stands in the buffer: behind the header and not behind the end, with the bytes of the
buffer ahead that come from there on. -/
structure Within (r : Reader) (data : Bytes) : Prop where
  /-- The reader is behind the header, -/
  header_le : headerSize ≤ r.position
  /-- not behind the end, -/
  le_length : r.position ≤ data.length
  /-- and has ahead what comes from its position on. -/
  rest_eq : r.rest = data.drop r.position

/-- Moving over bytes that are there leads from the first reader to the second. -/
def Reaches (r s : Reader) : Prop := ∃ n ≤ r.remaining, s = r.advance n

variable {r s t : Reader} {data : Bytes}

/-- A reader that does not move reaches itself, over no bytes. -/
@[refl] theorem Reaches.refl (r : Reader) : r.Reaches r := ⟨0, Nat.zero_le _, rfl⟩

/-- One move after another is a move over the bytes of both. -/
@[trans] theorem Reaches.trans (first : r.Reaches s) (second : s.Reaches t) : r.Reaches t := by
  obtain ⟨m, hm, rfl⟩ := first
  obtain ⟨n, hn, rfl⟩ := second
  rw [remaining_advance] at hn
  exact ⟨m + n, by omega, advance_advance r m n⟩

/-- A reader never moves back. -/
theorem Reaches.position_le (h : r.Reaches s) : r.position ≤ s.position := by
  obtain ⟨n, -, rfl⟩ := h
  exact Nat.le_add_right _ n

/-- In its buffer, a reader has ahead what the buffer holds from its position on. -/
theorem Within.remaining_eq (h : r.Within data) : r.remaining = data.length - r.position := by
  rw [remaining, h.rest_eq, List.length_drop]

/-- A reader knows the length of the buffer that it stands in. -/
theorem Within.size_eq (h : r.Within data) : r.size = data.length := by
  have := h.le_length
  rw [size, h.remaining_eq]
  omega

/-- Whoever moves over bytes that are there stays in the buffer. -/
theorem Within.reaches (h : r.Within data) (moves : r.Reaches s) : s.Within data := by
  obtain ⟨n, enough, rfl⟩ := moves
  have := h.header_le
  have := h.le_length
  rw [h.remaining_eq] at enough
  refine ⟨?_, ?_, ?_⟩
  · rw [position_advance]
    omega
  · rw [position_advance]
    omega
  · rw [rest_advance, position_advance, h.rest_eq, List.drop_drop]

/-- Behind the header of a buffer that has room for one, a reader stands in the buffer. -/
theorem within_behindHeader (checked : Bool) (large : headerSize ≤ data.length) :
    (behindHeader data checked).Within data :=
  ⟨Nat.le_refl _, large, rfl⟩

/-- A reader that was just opened stands in its buffer, whichever way it was opened. -/
theorem within_of_open (opens : openChecked data = .ok r ∨ openUnchecked data = .ok r) :
    r.Within data := by
  rcases opens with checked | unchecked
  · obtain ⟨accepted, rfl⟩ := openChecked_eq_ok_iff.1 checked
    exact within_behindHeader true accepted.1
  · obtain ⟨large, rfl⟩ := openUnchecked_eq_ok_iff.1 unchecked
    exact within_behindHeader false large

end Reader

/-! ### What a step may do -/

/-- From the given reader the step moves over bytes that are there. If data is lacking, the error
says where the reader is left, how much is left ahead of it, and a need that this does not meet. -/
structure BoundedAt (x : Read α) (r : Reader) : Prop where
  /-- The reader moves over bytes that are there. -/
  reaches : r.Reaches (x r).2
  /-- An error for lack of data describes the place where the reader is left. -/
  truncated : ∀ {need offset available : Nat},
    (x r).1 = .error (.truncated need offset available) →
      offset = (x r).2.position ∧ available = (x r).2.remaining ∧ available < need

namespace BoundedAt

variable {r : Reader} {x : Read α} {f : α → Read β} {e : Error}

/-- A step that only gives a result does not move. -/
theorem done (a : α) : BoundedAt (pure a : Read α) r :=
  ⟨.refl r, fun short => (by cases short)⟩

/-- A step may complain about data that is there. -/
theorem fail (other : ∀ need offset available, e ≠ .truncated need offset available) :
    BoundedAt (Read.fail e : Read α) r :=
  ⟨.refl r, fun short => absurd (Except.error.inj short) (other _ _ _)⟩

/-- A step may ask for more than there is, where it stands. -/
theorem lacking {need : Nat} (short : r.remaining < need) :
    BoundedAt (Read.fail (.truncated need r.position r.remaining) : Read α) r := by
  refine ⟨.refl r, fun same => ?_⟩
  cases same
  exact ⟨rfl, rfl, short⟩

/-- A step that looks at the reader first is as bounded as what it does then. -/
theorem look {g : Reader → Read α} (h : BoundedAt (g r) r) : BoundedAt (Read.look >>= g) r :=
  ⟨h.reaches, h.truncated⟩

/-- One step after another; if the first fails, the second does not come to pass. -/
theorem bind (hx : BoundedAt x r) (hf : ∀ a s, BoundedAt (f a) s) : BoundedAt (x >>= f) r := by
  rcases first : x r with ⟨e | a, s⟩
  · obtain ⟨reaches, truncated⟩ := hx
    rw [first] at reaches truncated
    refine ⟨?_, fun short => ?_⟩
    · rw [Read.bind_of_error first]
      exact reaches
    · rw [Read.bind_of_error first] at short ⊢
      exact truncated (congrArg Except.error (Except.error.inj short))
  · have reaches := hx.reaches
    rw [first] at reaches
    constructor
    · rw [Read.bind_of_ok first]
      exact reaches.trans (hf a s).reaches
    · rw [Read.bind_of_ok first]
      exact (hf a s).truncated

/-- Taking bytes moves over them if they are there, and asks for more than there is otherwise. -/
theorem take (n : Nat) (r : Reader) : BoundedAt (take n) r := by
  by_cases enough : n ≤ r.remaining
  · have run := take_apply n r
    rw [if_pos enough] at run
    exact ⟨⟨n, enough, by rw [run]⟩, fun short => by rw [run] at short; cases short⟩
  · have run : Wire.take n r = Read.fail (.truncated n r.position r.remaining) r := by
      rw [take_apply, if_neg enough, Read.fail_apply]
    have short : BoundedAt (Read.fail (.truncated n r.position r.remaining) : Read Bytes) r :=
      lacking (Nat.lt_of_not_le enough)
    refine ⟨?_, ?_⟩
    · rw [run]
      exact short.reaches
    · rw [run]
      exact short.truncated

end BoundedAt

/-! ### The readers -/

/-- Reading a byte is bounded. -/
theorem bounded_readByte (r : Reader) : BoundedAt readByte r := by
  refine (BoundedAt.take 1 r).bind fun bytes s => ?_
  rcases bytes with _ | ⟨b, rest⟩
  · exact .done 0
  · exact .done b

/-- Reading a word is bounded. -/
theorem bounded_readFixed (width : Nat) (r : Reader) : BoundedAt (readFixed width) r :=
  (BoundedAt.take width r).bind fun _ _ => .done _

/-- Reading a truth value is bounded; the complaint about another byte comes after the move. -/
theorem bounded_readBool (r : Reader) : BoundedAt readBool r := by
  refine .look ((bounded_readByte r).bind fun b s => ?_)
  by_cases zero : b = 0
  · rw [if_pos zero]
    exact .done false
  rw [if_neg zero]
  by_cases one : b = 1
  · rw [if_pos one]
    exact .done true
  · rw [if_neg one]
    exact .fail (by simp)

/-- Reading groups is bounded, by induction on how many groups are still allowed: each is one
byte. -/
theorem bounded_readGroups (start left weight sum : Nat) (r : Reader) :
    BoundedAt (readGroups start left weight sum) r := by
  induction left generalizing weight sum r with
  | zero => exact .fail (by simp)
  | succ left ih =>
    refine (bounded_readByte r).bind fun b s => ?_
    dsimp only
    split_ifs
    · exact .fail (by simp)
    · exact .done _
    · exact ih _ _ s

/-- Reading a number of variable width is bounded. -/
theorem bounded_readVarUInt (r : Reader) : BoundedAt readVarUInt r :=
  .look (bounded_readGroups r.position maxGroups 1 0 r)

/-- The guard of a count asks for more than there is only if there is less. -/
theorem bounded_readCount (least : Nat) (r : Reader) : BoundedAt (readCount least) r := by
  refine (bounded_readVarUInt r).bind fun count s => .look ?_
  split_ifs with huge enough
  · exact .fail (by simp)
  · exact .done count
  · rw [Reader.has_iff] at enough
    exact .lacking (Nat.lt_of_not_le enough)

/-- Reading a text is bounded: its length is guarded, and its bytes are taken at once. -/
theorem bounded_readText (r : Reader) : BoundedAt readText r := by
  refine (bounded_readCount 1 r).bind fun length s => .look ((BoundedAt.take length s).bind ?_)
  intro bytes t
  rcases textOfUtf8? bytes with _ | text
  · exact .fail (by simp)
  · exact .done text

/-- Reading a number of items is bounded if reading each of them is. -/
theorem bounded_readTimes {item : Read α} (h : ∀ r, BoundedAt item r) (n : Nat) (r : Reader) :
    BoundedAt (readTimes item n) r := by
  induction n generalizing r with
  | zero => exact .done []
  | succ n ih => exact (h r).bind fun a s => (ih s).bind fun rest t => .done (a :: rest)

/-- Reading a list is bounded if reading its items is. -/
theorem bounded_readList {item : Read α} (h : ∀ r, BoundedAt item r) (least : Nat) (r : Reader) :
    BoundedAt (readList least item) r :=
  (bounded_readCount least r).bind fun count s => bounded_readTimes h count s

/-- Reading a reference is bounded. -/
theorem bounded_readRef (r : Reader) : BoundedAt ObjectRef.read r :=
  (bounded_readText r).bind fun className s =>
    (bounded_readText s).bind fun name _ => .done (ObjectRef.mk className name)

/-- Reading a float tuple is bounded. -/
theorem bounded_readFloats (n : Nat) (r : Reader) : BoundedAt (Floats.read n) r :=
  (BoundedAt.take (4 * n) r).bind fun _ _ => .done _

/-- Reading data of each kind is bounded. -/
theorem bounded_readScalar (k : Scalar) (r : Reader) : BoundedAt k.read r := by
  cases k with
  | bool => exact bounded_readBool r
  | int | float => exact (bounded_readFixed 4 r).bind fun _ _ => .done _
  | long | double => exact (bounded_readFixed 8 r).bind fun _ _ => .done _
  | string => exact bounded_readText r
  | rgb | vec3f => exact bounded_readFloats 3 r
  | rgba | vec4f => exact bounded_readFloats 4 r
  | vec2f => exact bounded_readFloats 2 r

/-- Reading data of each type is bounded. -/
theorem bounded_readType (t : ValueType) (r : Reader) : BoundedAt t.read r := by
  cases t with
  | scalar k => exact bounded_readScalar k r
  | object =>
    refine (bounded_readBool r).bind fun present s => ?_
    cases present with
    | false => exact .done none
    | true => exact (bounded_readRef s).bind fun reference _ => .done (some reference)
  | vector k => exact bounded_readList (bounded_readScalar k) k.leastSize r
  | objects => exact bounded_readList bounded_readRef ObjectRef.leastSize r

/-- Reading a value is bounded. -/
theorem bounded_readValue (t : ValueType) (r : Reader) : BoundedAt (readValue t) r :=
  (bounded_readType t r).bind fun d _ => .done (Value.mk t d)

/-! ### Data of fixed width -/

/-- The step never fails for lack of data. -/
def NeverShort (x : Read α) : Prop :=
  ∀ r need offset available, (x r).1 ≠ .error (.truncated need offset available)

/-- The step takes all that it needs at once: if data is lacking, the reader has not moved. -/
def AllOrNothing (x : Read α) : Prop :=
  ∀ r need offset available, (x r).1 = .error (.truncated need offset available) → (x r).2 = r

/-- The step stays where it is, and needs no data there. -/
structure Settled (x : Read α) : Prop where
  /-- The reader is where it was. -/
  unmoved (r : Reader) : (x r).2 = r
  /-- No data is found lacking. -/
  neverShort : NeverShort x

/-- The step takes so many bytes whatever they are. -/
structure TakesAtOnce (x : Read α) (n : Nat) : Prop where
  /-- If there are fewer it asks for all of them, and does not move. -/
  lacking (r : Reader) :
    r.remaining < n → x r = (.error (.truncated n r.position r.remaining), r)
  /-- If there are enough it moves past them, whether or not it finds fault with them, -/
  moves (r : Reader) : n ≤ r.remaining → (x r).2 = r.advance n
  /-- and does not ask for more. -/
  found (r : Reader) : n ≤ r.remaining → ∀ need offset available,
    (x r).1 ≠ .error (.truncated need offset available)

/-- A step that only gives a result is settled. -/
theorem Settled.done (a : α) : Settled (pure a : Read α) where
  unmoved _ := rfl
  neverShort r need offset available short := by cases short

/-- A step that complains about data that is there is settled. -/
theorem Settled.fail (what : BadData) : Settled (Read.fail (.invalidData what) : Read α) where
  unmoved _ := rfl
  neverShort r need offset available short := by cases short

namespace TakesAtOnce

variable {x : Read α} {f : α → Read β} {n : Nat}

/-- Taking bytes takes them at once. -/
theorem take (n : Nat) : TakesAtOnce (take n) n where
  lacking r short := by rw [take_apply, if_neg (Nat.not_le_of_lt short)]
  moves r enough := by rw [take_apply, if_pos enough]
  found r enough need offset available short := by
    rw [take_apply, if_pos enough] at short
    cases short

/-- What is done with the data once it is there does not matter. -/
theorem bind (hx : TakesAtOnce x n) (hf : ∀ a, Settled (f a)) : TakesAtOnce (x >>= f) n where
  lacking r short := Read.bind_of_error (hx.lacking r short)
  moves r enough := by
    have moved := hx.moves r enough
    rcases first : x r with ⟨e | a, s⟩
    · rw [Read.bind_of_error first]
      rwa [first] at moved
    · rw [Read.bind_of_ok first, (hf a).unmoved s]
      rwa [first] at moved
  found r enough need offset available short := by
    have found := hx.found r enough need offset available
    rcases first : x r with ⟨e | a, s⟩
    · rw [Read.bind_of_error first] at short
      rw [first] at found
      exact found (congrArg Except.error (Except.error.inj short))
    · rw [Read.bind_of_ok first] at short
      exact (hf a).neverShort s need offset available short

/-- A step that looks at the reader first takes at once what it takes then, if that is the same
everywhere. -/
theorem look {g : Reader → Read α} (h : ∀ r, TakesAtOnce (g r) n) :
    TakesAtOnce (Read.look >>= g) n :=
  ⟨fun r => (h r).lacking r, fun r => (h r).moves r, fun r => (h r).found r⟩

/-- The step fails for lack of data exactly if there are fewer bytes, -/
theorem truncated_iff (h : TakesAtOnce x n) (r : Reader) :
    (∃ need offset available, (x r).1 = .error (.truncated need offset available)) ↔
      r.remaining < n := by
  constructor
  · rintro ⟨need, offset, available, short⟩
    by_contra enough
    exact h.found r (Nat.le_of_not_lt enough) need offset available short
  · intro short
    exact ⟨_, _, _, congrArg Prod.fst (h.lacking r short)⟩

/-- and has not moved then. -/
theorem allOrNothing (h : TakesAtOnce x n) : AllOrNothing x := by
  intro r need offset available short
  have fewer := (h.truncated_iff r).1 ⟨need, offset, available, short⟩
  rw [h.lacking r fewer]

end TakesAtOnce

/-- A byte is taken at once. -/
theorem takesAtOnce_readByte : TakesAtOnce readByte 1 := by
  apply (TakesAtOnce.take 1).bind
  intro bytes
  rcases bytes with _ | ⟨b, rest⟩
  · exact .done 0
  · exact .done b

/-- A truth value is taken at once, even if its byte is then found to be neither. -/
theorem takesAtOnce_readBool : TakesAtOnce readBool 1 := by
  apply TakesAtOnce.look
  intro r
  apply takesAtOnce_readByte.bind
  intro b
  split_ifs
  · exact .done false
  · exact .done true
  · exact .fail _

/-- A word is taken at once. -/
theorem takesAtOnce_readFixed (width : Nat) : TakesAtOnce (readFixed width) width :=
  (TakesAtOnce.take width).bind fun _ => .done _

/-- A float tuple is taken at once, all its components together. -/
theorem takesAtOnce_readFloats (n : Nat) : TakesAtOnce (Floats.read n) (4 * n) :=
  (TakesAtOnce.take (4 * n)).bind fun _ => .done _

/-- The reader agrees with the size of a kind, if it has one. -/
theorem takesAtOnce_readScalar {k : Scalar} {n : Nat} (size : k.encodedSize = some n) :
    TakesAtOnce k.read n := by
  cases k with
  | string => cases size
  | bool =>
    cases size
    exact takesAtOnce_readBool
  | int | float =>
    cases size
    exact (takesAtOnce_readFixed 4).bind fun _ => .done _
  | long | double =>
    cases size
    exact (takesAtOnce_readFixed 8).bind fun _ => .done _
  | rgb | vec3f =>
    cases size
    exact takesAtOnce_readFloats 3
  | rgba | vec4f =>
    cases size
    exact takesAtOnce_readFloats 4
  | vec2f =>
    cases size
    exact takesAtOnce_readFloats 2

/-- The reader agrees with the size of a type, if it has one. -/
theorem takesAtOnce_readType {t : ValueType} {n : Nat} (size : t.encodedSize = some n) :
    TakesAtOnce t.read n := by
  cases t with
  | scalar k => exact takesAtOnce_readScalar size
  | object | vector | objects => cases size

/-- **The reader of a type of fixed size takes the size of the type at once.** -/
theorem takesAtOnce_readValue {t : ValueType} {n : Nat} (size : t.encodedSize = some n) :
    TakesAtOnce (readValue t) n :=
  (takesAtOnce_readType size).bind fun _ => .done _

/-- Bytes that are skipped are taken at once. -/
theorem takesAtOnce_skip (n : Nat) : TakesAtOnce (skip n) n :=
  (TakesAtOnce.take n).bind fun _ => .done ()

end Wire

/-! ### Calls, one after the other -/

/-- What a program can ask of a reader. -/
inductive ReadCall where
  /-- Data of a type, as it is. -/
  | datum (t : ValueType)
  /-- A value of a type. -/
  | value (t : ValueType)
  /-- A number of variable width. -/
  | number
  /-- To move past so many bytes. -/
  | skip (n : Nat)

namespace ReadCall

/-- What the call does; what it reads is of no concern here. -/
def run : ReadCall → Read Unit
  | datum t => do
      let _ ← t.read
      pure ()
  | value t => do
      let _ ← readValue t
      pure ()
  | number => do
      let _ ← readVarUInt
      pure ()
  | skip n => Wire.skip n

/-- The call takes the same number of bytes whatever they are. -/
def isFixed : ReadCall → Bool
  | datum t => t.encodedSize.isSome
  | value t => t.encodedSize.isSome
  | number => false
  | skip _ => true

/-- Every call is bounded, from wherever it is made. -/
theorem bounded_run (call : ReadCall) (r : Reader) : BoundedAt call.run r := by
  cases call with
  | datum t => exact (bounded_readType t r).bind fun _ _ => .done ()
  | value t => exact (bounded_readValue t r).bind fun _ _ => .done ()
  | number => exact (bounded_readVarUInt r).bind fun _ _ => .done ()
  | skip n => exact (BoundedAt.take n r).bind fun _ _ => .done ()

/-- A call for data of fixed width does not move if data is lacking. -/
theorem allOrNothing_run {call : ReadCall} (fixed : call.isFixed = true) :
    AllOrNothing call.run := by
  cases call with
  | datum t =>
    obtain ⟨n, size⟩ := Option.isSome_iff_exists.1 fixed
    exact ((takesAtOnce_readType size).bind fun _ => .done ()).allOrNothing
  | value t =>
    obtain ⟨n, size⟩ := Option.isSome_iff_exists.1 fixed
    exact ((takesAtOnce_readValue size).bind fun _ => .done ()).allOrNothing
  | number => cases fixed
  | skip n => exact (takesAtOnce_skip n).allOrNothing

end ReadCall

/-- The reader after calls, each of which succeeded or failed. -/
def Wire.Reader.after (r : Reader) (calls : List ReadCall) : Reader :=
  calls.foldl (fun r call => (call.run r).2) r

/-- Calls one after the other move forward over bytes that are there, by induction on the calls.
-/
theorem Wire.Reader.reaches_after (r : Reader) (calls : List ReadCall) :
    r.Reaches (r.after calls) := by
  induction calls generalizing r with
  | nil => exact .refl r
  | cons call calls ih => exact (call.bounded_run r).reaches.trans (ih _)

/-- **A reader never leaves its buffer.** After any calls on the reader of any buffer, and after one
more, the reader stands between the header and the end, the bytes ahead of it are those of the
buffer, and the last call has not moved it back. If the last call failed for lack of data, the error
gives a place between where the call began and the end, all that is left from there, and a need
that is larger; and if the call was one of fixed width, the reader stands where it stood. -/
theorem ReadCall.stays_within (data : Bytes) (start : Reader)
    (opens : Reader.openChecked data = .ok start ∨ Reader.openUnchecked data = .ok start)
    (calls : List ReadCall) (call : ReadCall) :
    (start.after calls).Within data ∧
    (call.run (start.after calls)).2.Within data ∧
    (call.run (start.after calls)).2.size = data.length ∧
    (start.after calls).position ≤ (call.run (start.after calls)).2.position ∧
    ∀ need offset available,
      (call.run (start.after calls)).1 = .error (.truncated need offset available) →
        available = data.length - offset ∧ available < need ∧
        (start.after calls).position ≤ offset ∧ offset ≤ data.length ∧
        (call.isFixed = true → (call.run (start.after calls)).2 = start.after calls) := by
  have before := (Reader.within_of_open opens).reaches (start.reaches_after calls)
  have bounded := call.bounded_run (start.after calls)
  have behind := before.reaches bounded.reaches
  refine ⟨before, behind, behind.size_eq, bounded.reaches.position_le, ?_⟩
  intro need offset available short
  obtain ⟨place, left, lacks⟩ := bounded.truncated short
  refine ⟨?_, lacks, ?_, ?_, fun fixed => ?_⟩
  · rw [left, place, behind.remaining_eq]
  · rw [place]
    exact bounded.reaches.position_le
  · rw [place]
    exact behind.le_length
  · exact allOrNothing_run fixed _ _ _ _ short

/-- A buffer with a list of two truth values, the second of which is neither true nor false, and one
byte behind it. -/
def spoiledList : Bytes := [0, 0, 0, 0, 0, 0, 0, 0, 2, 1, 7, 0xff]

/-- The statement after the spoiled list was asked for, when as many bytes are to be skipped as 64
bits can count: the reader stands before the last byte, and stays there. -/
theorem ReadCall.stays_within_spoiledList :
    ∃ start, Reader.openChecked spoiledList = .ok start ∧
      (start.after [.value (.vector .bool)]).position = 11 ∧
      ((skip (2 ^ 64 - 1)).run (start.after [.value (.vector .bool)])).1 =
        .error (.truncated (2 ^ 64 - 1) 11 1) ∧
      ((skip (2 ^ 64 - 1)).run (start.after [.value (.vector .bool)])).2 =
        start.after [.value (.vector .bool)] ∧
      (start.after [.value (.vector .bool)]).Within spoiledList := by
  have opens : Reader.openChecked spoiledList = .ok (Reader.behindHeader spoiledList true) := rfl
  have place : (Reader.behindHeader spoiledList true).after [.value (.vector .bool)] =
      ⟨0, 11, [0xff], true⟩ := by rfl
  obtain ⟨within, -, -, -, short⟩ :=
    stays_within spoiledList _ (.inl opens) [.value (.vector .bool)] (skip (2 ^ 64 - 1))
  rw [place] at within short
  refine ⟨_, opens, ?_⟩
  rw [place]
  have lacks : ((skip (2 ^ 64 - 1)).run ⟨0, 11, [0xff], true⟩).1 =
      .error (.truncated (2 ^ 64 - 1) 11 1) := by rfl
  obtain ⟨-, -, -, -, unmoved⟩ := short _ _ _ lacks
  exact ⟨rfl, lacks, unmoved rfl, within⟩

end SceneSchema
