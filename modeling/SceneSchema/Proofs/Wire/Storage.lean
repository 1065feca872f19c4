import SceneSchema.Proofs.Wire.Words

/-!
# Lists on a machine with 64-bit words

The reader of lists is defined by natural numbers and lists that come from nowhere. A machine
multiplies words, where a product that is too large wraps, and it makes room for a list before it
reads the first element. This module writes the reader down as such a machine runs it, as
`SceneSchema.Proofs.Wire.Words` does for the numbers.

* `checkedMul` — a product of words that is missing if it would wrap, by `checkedMul_eq_some_iff`.
  `readCountWord` is the guard of a count that asks for its product in this way, and
  `readCount_eq` says that it is `readCount`.
* `reserve` — the room for a list, made when its count has passed the guard. `fill` reads the
  elements into it, and `readStored` is both.

**Main statements**: `readList_eq_stored` — the list that comes to be in the storage is the list
that `readList` reads; and `capacity_of_fill` — the storage never grows.
-/

namespace SceneSchema.Wire

variable {α : Type}

/-! ### Products of words -/

/-- The product of two words, if it is one. A division tells before anything is multiplied. -/
def checkedMul (a b : UInt64) : Option UInt64 :=
  if b = 0 then some 0
  else if a ≤ 0xffffffffffffffff / b then some (a * b)
  else none

section products

variable {a b c : UInt64}

/-- What the division tells. -/
theorem le_largest_div_iff (positive : b ≠ 0) :
    a ≤ 0xffffffffffffffff / b ↔ a.toNat * b.toNat < 2 ^ 64 := by
  have divisor : 0 < b.toNat := by
    apply Nat.pos_of_ne_zero
    intro zero
    exact positive (UInt64.toNat_inj.1 zero)
  have largest : (0xffffffffffffffff : UInt64).toNat = 2 ^ 64 - 1 := rfl
  rw [UInt64.le_iff_toNat_le, UInt64.toNat_div, Nat.le_div_iff_mul_le divisor, largest]
  omega

/-- A product that a word can hold is the product. -/
theorem checkedMul_of_lt (small : a.toNat * b.toNat < 2 ^ 64) : checkedMul a b = some (a * b) := by
  unfold checkedMul
  by_cases zero : b = 0
  · rw [if_pos zero, zero, UInt64.mul_zero]
  · rw [if_neg zero, if_pos ((le_largest_div_iff zero).2 small)]

/-- A product that a word cannot hold is none. -/
theorem checkedMul_of_le (large : 2 ^ 64 ≤ a.toNat * b.toNat) : checkedMul a b = none := by
  unfold checkedMul
  have positive : b ≠ 0 := by
    intro zero
    rw [zero, UInt64.toNat_zero, Nat.mul_zero] at large
    omega
  rw [if_neg positive, if_neg]
  intro room
  have small := (le_largest_div_iff positive).1 room
  omega

/-- **A checked product does not wrap**, -/
theorem checkedMul_eq_some_iff : checkedMul a b = some c ↔ c.toNat = a.toNat * b.toNat := by
  have word := c.toNat_lt
  rcases Nat.lt_or_ge (a.toNat * b.toNat) (2 ^ 64) with small | large
  · rw [checkedMul_of_lt small, Option.some.injEq, ← UInt64.toNat_inj, UInt64.toNat_mul,
      Nat.mod_eq_of_lt small, eq_comm]
  · rw [checkedMul_of_le large]
    constructor
    · intro missing
      cases missing
    · intro product
      omega

/-- and only one that would is missing. -/
theorem checkedMul_eq_none_iff : checkedMul a b = none ↔ 2 ^ 64 ≤ a.toNat * b.toNat := by
  rcases Nat.lt_or_ge (a.toNat * b.toNat) (2 ^ 64) with small | large
  · rw [checkedMul_of_lt small]
    constructor
    · intro missing
      cases missing
    · intro large
      omega
  · simp only [checkedMul_of_le large, large]

end products

/-! ### The guard of a count -/

/-- A number of variable width is the value of a word. -/
theorem readVarUInt_eq_ok_iff_word {n : Nat} {r s : Reader} :
    readVarUInt r = (.ok n, s) ↔ ∃ v, readWord r = (.ok v, s) ∧ v.toNat = n := by
  rw [readVarUInt_eq, Read.bind_eq_ok_iff]
  constructor
  · intro read
    obtain ⟨v, s', word, done⟩ := read
    cases done
    exact ⟨v, word, rfl⟩
  · intro read
    obtain ⟨v, word, rfl⟩ := read
    exact ⟨v, s, word, rfl⟩

/-- The guard on words. -/
def readCountWord (least : UInt64) : Read UInt64 := do
  let count ← readWord
  let r ← Read.look
  match checkedMul count least with
  | some need =>
      if need.toNat ≤ r.remaining then pure count
      else Read.fail (.truncated need.toNat r.position r.remaining)
  | none => Read.fail (.invalidData (.countTooLarge count.toNat r.position))

/-- **The guard on words is the guard.** -/
theorem readCount_eq (least : UInt64) :
    readCount least.toNat = readCountWord least >>= fun count => pure count.toNat := by
  unfold readCount readCountWord
  rw [readVarUInt_eq, bind_assoc, bind_assoc]
  apply bind_congr
  intro count
  rw [pure_bind, bind_assoc]
  apply bind_congr
  intro r
  rcases product : checkedMul count least with _ | need
  · have large : Nat.pow 2 64 ≤ count.toNat * least.toNat := checkedMul_eq_none_iff.1 product
    rw [if_pos large]
    rfl
  · have same := checkedMul_eq_some_iff.1 product
    have word := need.toNat_lt
    rw [← same, if_neg (Nat.not_le_of_lt word)]
    by_cases enough : need.toNat ≤ r.remaining
    · rw [if_pos (Reader.has_iff.2 enough)]
      dsimp only
      rw [if_pos enough, pure_bind]
    · rw [if_neg (mt Reader.has_iff.1 enough)]
      dsimp only
      rw [if_neg enough]
      rfl

/-! ### Lists in storage -/

/-- A list that is being read: its elements so far, in storage that has room for so many. -/
structure Storage (α : Type) where
  /-- How many items there is room for. -/
  capacity : Nat
  /-- The items so far. -/
  items : List α

/-- One more element. If there is no room for it the storage grows, by a rule of its own. -/
def Storage.push (grow : Nat → Nat) (s : Storage α) (a : α) : Storage α :=
  ⟨if s.items.length < s.capacity then s.capacity else grow s.capacity, s.items ++ [a]⟩

/-- Room for the elements of a list, before the first of them is read. -/
def reserve (least : UInt64) : Read (Storage α) := do
  let count ← readCountWord least
  pure ⟨count.toNat, []⟩

/-- So many elements, read one by one. -/
def fill (grow : Nat → Nat) (item : Read α) : Nat → Storage α → Read (Storage α)
  | 0, s => pure s
  | n + 1, s => do
      let a ← item
      fill grow item n (s.push grow a)

/-- A list, as a machine reads it. -/
def readStored (grow : Nat → Nat) (least : UInt64) (item : Read α) : Read (Storage α) := do
  let s ← reserve least
  fill grow item s.capacity s

/-- The room is for as many elements as the count says. -/
theorem reserve_eq (least : UInt64) :
    (reserve least : Read (Storage α)) = readCount least.toNat >>= fun n => pure ⟨n, []⟩ := by
  unfold reserve
  rw [readCount_eq, bind_assoc]
  apply bind_congr
  intro count
  rw [pure_bind]

/-- What is read is put behind what is there. -/
theorem fill_items (grow : Nat → Nat) (item : Read α) (n : Nat) (s : Storage α) :
    (fill grow item n s >>= fun t => pure t.items) =
      readTimes item n >>= fun items => pure (s.items ++ items) := by
  induction n generalizing s with
  | zero => rw [fill, readTimes, pure_bind, pure_bind, List.append_nil]
  | succ n ih =>
    rw [fill, readTimes, bind_assoc, bind_assoc]
    apply bind_congr
    intro a
    rw [ih, bind_assoc]
    apply bind_congr
    intro items
    rw [pure_bind, Storage.push, List.append_assoc]
    rfl

/-- **Room for all elements is room enough**, however storage grows. The induction is on the
elements still to be read; what carries it is that there is room for all of them. -/
theorem capacity_of_fill {grow : Nat → Nat} {item : Read α} {n : Nat} {s t : Storage α}
    {r r' : Reader} (run : fill grow item n s r = (.ok t, r'))
    (room : s.items.length + n ≤ s.capacity) :
    t.capacity = s.capacity ∧ t.items.length = s.items.length + n := by
  induction n generalizing s r with
  | zero =>
    cases run
    exact ⟨rfl, rfl⟩
  | succ n ih =>
    obtain ⟨a, r₁, -, rest⟩ := Read.bind_eq_ok_iff.1 run
    have pushed : s.push grow a = ⟨s.capacity, s.items ++ [a]⟩ := by
      rw [Storage.push, if_pos (by omega)]
    have length : (s.items ++ [a]).length = s.items.length + 1 := List.length_append
    have left : (s.items ++ [a]).length + n ≤ s.capacity := by omega
    rw [pushed] at rest
    obtain ⟨same, all⟩ := ih rest left
    refine ⟨same, ?_⟩
    rw [all, length]
    omega

/-- **The list in storage is the list.** -/
theorem readList_eq_stored (grow : Nat → Nat) (least : UInt64) (item : Read α) :
    readList least.toNat item = readStored grow least item >>= fun s => pure s.items := by
  unfold readList readStored
  rw [reserve_eq, bind_assoc, bind_assoc]
  apply bind_congr
  intro n
  rw [pure_bind, fill_items]
  exact (bind_pure _).symm

end SceneSchema.Wire
