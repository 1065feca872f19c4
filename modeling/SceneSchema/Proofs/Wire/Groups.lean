import Mathlib.Data.Nat.Digits.Lemmas
import SceneSchema.Proofs.Wire.Bounds
import SceneSchema.Proofs.Wire.Shortest
import SceneSchema.Proofs.Wire.Words

/-!
# All ways to write a number, and all ways to fail to read one

A number of variable width has `groupCount` groups of seven bits, and it may be padded with groups
of zeros (`padded`).

* `isVarUInt_iff` — with ten groups at most that leaves **one spelling of each length**, from the
  number of groups to ten. `varUInt_eq_padded` — the writer takes the shortest.
* `readVarUInt_eq_ok_iff`, `readsAs_iff` — a reader reads a number exactly from its spellings.
* `readVarUInt_eq_error_iff` — it fails in two ways (`FailsAs`): the data ends too early
  (`EndsWithin`), or the tenth byte is too large (`OverflowsAt`). The induction is on the groups
  that may follow; the last of them, where the test for a large group and the end of the loop meet,
  is `readGroups_last`.

`varUInt_exact` puts these together with the loops of a machine.
-/

namespace SceneSchema.Wire

variable {n len : Nat} {bytes : Bytes} {gs : List Nat}

/-! ### Groups -/

/-- How many groups of seven bits a number has, at least one. -/
def groupCount (n : Nat) : Nat := max 1 (Nat.digits 128 n).length

/-- Groups as bytes: all but the last carry the flag. -/
def flagGroups : List Nat → Bytes
  | [] => []
  | [g] => [UInt8.ofNat g]
  | g :: h :: rest => UInt8.ofNat (g + 128) :: flagGroups (h :: rest)

/-- The number in so many groups, padded with groups of zeros. -/
def padded (n len : Nat) : Bytes := flagGroups (Nat.digitsAppend 128 len n)

/-- A number fits in so many groups if it is below the power of 128. -/
theorem groupCount_le_iff : groupCount n ≤ len ↔ 1 ≤ len ∧ n < 128 ^ len := by
  rw [groupCount, max_le_iff, Nat.digits_length_le_iff (by decide)]

/-- Each group is one byte. -/
theorem length_flagGroups (gs : List Nat) : (flagGroups gs).length = gs.length := by
  fun_induction flagGroups gs with
  | case1 => rfl
  | case2 g => rfl
  | case3 g h rest ih =>
    rw [List.length_cons, ih]
    rfl

/-- Groups that were flagged are told apart again. -/
theorem isGrouped_flagGroups (some : gs ≠ []) (small : ∀ g ∈ gs, g < 128) :
    IsGrouped (flagGroups gs) ∧ (flagGroups gs).map (fun b => b.toNat % 128) = gs := by
  fun_induction flagGroups gs with
  | case1 => exact absurd rfl some
  | case2 g =>
    have plain : g < 128 := small g List.mem_cons_self
    refine ⟨.last ?_, ?_⟩
    · rwa [toNat_plain plain]
    · simp [toNat_plain plain, Nat.mod_eq_of_lt plain]
  | case3 g h rest ih =>
    obtain ⟨grouped, groups⟩ := ih (by simp) fun g' there => small g' (List.mem_cons_of_mem g there)
    have plain : g < 128 := small g List.mem_cons_self
    have byte : (UInt8.ofNat (g + 128)).toNat = g + 128 := by
      rw [UInt8.toNat_ofNat']
      omega
    refine ⟨.more (by omega) grouped, ?_⟩
    rw [List.map_cons, groups, byte]
    simp [Nat.mod_eq_of_lt plain]

/-- Bytes that are grouped are their groups, flagged. -/
theorem flagGroups_of_isGrouped (h : IsGrouped bytes) :
    flagGroups (bytes.map fun b => b.toNat % 128) = bytes := by
  induction h with
  | @last b plain => simp [flagGroups, Nat.mod_eq_of_lt plain]
  | @more b rest flagged groups ih =>
    obtain ⟨c, rest, rfl⟩ := List.exists_cons_of_length_pos groups.length_pos
    have byte := b.toNat_lt
    have high : b.toNat % 128 + 128 = b.toNat := by omega
    rw [List.map_cons, List.map_cons, flagGroups, high, UInt8.ofNat_toNat]
    rw [List.map_cons] at ih
    rw [ih]

/-! ### All spellings -/

/-- A padded number has the groups that were asked for, if they are enough for it. -/
theorem length_padded (enough : groupCount n ≤ len) : (padded n len).length = len := by
  rw [padded, length_flagGroups]
  exact Nat.length_digitsAppend (by decide) len (groupCount_le_iff.1 enough).2

/-- Padding is grouped, and does not change the value. -/
theorem isGrouped_padded (enough : groupCount n ≤ len) :
    IsGrouped (padded n len) ∧ groupValue (padded n len) = n := by
  obtain ⟨one, room⟩ := groupCount_le_iff.1 enough
  have small : ∀ g ∈ Nat.digitsAppend 128 len n, g < 128 := by
    intro g there
    exact Nat.lt_of_mem_digitsAppend (by decide) len g there
  have some : Nat.digitsAppend 128 len n ≠ [] := by
    apply List.ne_nil_of_length_pos
    rwa [Nat.length_digitsAppend (by decide) len room]
  obtain ⟨grouped, groups⟩ := isGrouped_flagGroups some small
  refine ⟨grouped, ?_⟩
  rw [groupValue, padded, groups]
  exact (Nat.setInvOn_digitsAppend_ofDigits (by decide) len).2 room

/-- Groups of a value are the value, padded to their number. -/
theorem IsGrouped.eq_padded (h : IsGrouped bytes) :
    groupCount (groupValue bytes) ≤ bytes.length ∧
      bytes = padded (groupValue bytes) bytes.length := by
  have groups : (bytes.map fun b => b.toNat % 128).length = bytes.length ∧
      ∀ g ∈ bytes.map (fun b => b.toNat % 128), g < 128 := by
    refine ⟨List.length_map _, ?_⟩
    intro g there
    obtain ⟨b, -, rfl⟩ := List.mem_map.1 there
    exact Nat.mod_lt _ (by decide)
  constructor
  · apply groupCount_le_iff.2
    exact ⟨h.length_pos, Nat.mapsTo_ofDigits (by decide) _ groups⟩
  · have back := (Nat.setInvOn_digitsAppend_ofDigits (by decide) bytes.length).1 groups
    rw [padded, groupValue, back]
    exact (flagGroups_of_isGrouped h).symm

/-- **The spellings of a number**, one for each length from the number of its groups to ten. -/
theorem isVarUInt_iff (h : n < 2 ^ 64) : IsVarUInt bytes n ↔
    ∃ len, groupCount n ≤ len ∧ len ≤ 10 ∧ bytes = padded n len := by
  constructor
  · intro number
    obtain ⟨enough, same⟩ := number.grouped.eq_padded
    rw [number.value] at enough same
    exact ⟨bytes.length, enough, number.length_le, same⟩
  · intro spelling
    obtain ⟨len, enough, few, rfl⟩ := spelling
    obtain ⟨grouped, value⟩ := isGrouped_padded enough
    exact ⟨grouped, (length_padded enough).trans_le few, value, h⟩

/-- The writer writes no more groups than the number has. -/
theorem length_varUInt (n : Nat) : (varUInt n).length = groupCount n := by
  have least := (isGrouped_varUInt n).eq_padded.1
  rw [groupValue_varUInt] at least
  obtain ⟨one, room⟩ := groupCount_le_iff.1 (Nat.le_refl (groupCount n))
  obtain ⟨left, same⟩ := Nat.exists_eq_add_of_le' one
  have most : (varUInt n).length ≤ groupCount n := by
    rw [same] at room ⊢
    exact length_varUInt_le room
  exact Nat.le_antisymm most least

/-- **The writer pads nothing.** -/
theorem varUInt_eq_padded (n : Nat) : varUInt n = padded n (groupCount n) := by
  have same := (isGrouped_varUInt n).eq_padded.2
  rw [groupValue_varUInt, length_varUInt] at same
  exact same

/-- A number of 64 bits has ten groups at most. -/
theorem groupCount_le_ten (h : n < 2 ^ 64) : groupCount n ≤ 10 := by
  have room : n < 128 ^ 10 := h.trans (by norm_num)
  exact groupCount_le_iff.2 ⟨by decide, room⟩

/-- Wherever the bytes are ahead, a reader reads them as the number, and nothing behind them. -/
def ReadsAs (bytes : Bytes) (n : Nat) : Prop :=
  ∀ r : Reader, bytes <+: r.rest → readVarUInt r = (.ok n, r.advance bytes.length)

/-- What is read, and how far: a spelling of the number is ahead. -/
theorem readVarUInt_eq_ok_iff {r s : Reader} : readVarUInt r = (.ok n, s) ↔
    n < 2 ^ 64 ∧ ∃ len, groupCount n ≤ len ∧ len ≤ 10 ∧ padded n len <+: r.rest ∧
      s = r.advance len := by
  constructor
  · intro run
    obtain ⟨bytes, ahead, number, rfl⟩ := recognizes_readVarUInt.sound run
    obtain ⟨len, enough, few, rfl⟩ := (isVarUInt_iff number.lt).1 number
    refine ⟨number.lt, len, enough, few, ahead, ?_⟩
    rw [length_padded enough]
  · intro spelled
    obtain ⟨fits, len, enough, few, ahead, rfl⟩ := spelled
    have number : IsVarUInt (padded n len) n := (isVarUInt_iff fits).2 ⟨len, enough, few, rfl⟩
    have short : (padded n len).length < 2 ^ 64 := number.length_le.trans_lt (by norm_num)
    have run := recognizes_readVarUInt.complete ahead short number
    rwa [length_padded enough] at run

/-- The bytes that are read as the number are its spellings. -/
theorem readsAs_iff (fits : n < 2 ^ 64) : ReadsAs bytes n ↔
    ∃ len, groupCount n ≤ len ∧ len ≤ 10 ∧ bytes = padded n len := by
  constructor
  · intro reads
    -- a reader that has nothing else ahead
    have run := reads ⟨0, 0, bytes, false⟩ (List.prefix_refl bytes)
    obtain ⟨-, len, enough, few, ahead, place⟩ := readVarUInt_eq_ok_iff.1 run
    have same := Reader.advance_inj.1 place
    refine ⟨len, enough, few, ?_⟩
    apply (ahead.eq_of_length _).symm
    rw [length_padded enough, same]
  · intro spelling
    obtain ⟨len, enough, few, rfl⟩ := spelling
    intro r ahead
    rw [length_padded enough]
    exact readVarUInt_eq_ok_iff.2 ⟨fits, len, enough, few, ahead, rfl⟩

/-! ### Failures -/

/-- The data ends within so many bytes, before one without a flag. -/
def EndsWithin (left : Nat) (data : Bytes) : Prop :=
  data.length < left ∧ ∀ b ∈ data, 128 ≤ b.toNat

/-- So many flagged bytes, and behind them one that is greater than 1. -/
def OverflowsAt (flagged : Nat) (data : Bytes) : Prop :=
  ∃ front b rest, data = front ++ b :: rest ∧ front.length = flagged ∧
    (∀ x ∈ front, 128 ≤ x.toNat) ∧ 1 < b.toNat

section failures

variable {left : Nat} {b : UInt8} {data : Bytes}

/-- Data that goes on with a byte ends too early if the byte is flagged and the rest ends too
early. -/
theorem endsWithin_cons :
    EndsWithin (left + 1) (b :: data) ↔ 128 ≤ b.toNat ∧ EndsWithin left data := by
  simp only [EndsWithin, List.length_cons, List.forall_mem_cons, Nat.add_lt_add_iff_right]
  exact and_left_comm

/-- Nothing overflows where there is no byte. -/
theorem not_overflowsAt_nil : ¬ OverflowsAt left [] := by
  rintro ⟨front, b, rest, same, -⟩
  simp at same

/-- The last byte overflows if it is above 1. -/
theorem overflowsAt_zero_cons : OverflowsAt 0 (b :: data) ↔ 1 < b.toNat := by
  constructor
  · rintro ⟨front, b', rest, same, none, -, large⟩
    rw [List.length_eq_zero_iff.1 none, List.nil_append, List.cons.injEq] at same
    rwa [same.1]
  · intro large
    exact ⟨[], b, data, rfl, rfl, by simp, large⟩

/-- A later byte can overflow only if this one is flagged. -/
theorem overflowsAt_succ_cons :
    OverflowsAt (left + 1) (b :: data) ↔ 128 ≤ b.toNat ∧ OverflowsAt left data := by
  constructor
  · rintro ⟨front, b', rest, same, sized, flagged, large⟩
    obtain ⟨x, front, rfl⟩ := List.exists_cons_of_length_eq_add_one sized
    rw [List.cons_append, List.cons.injEq] at same
    obtain ⟨rfl, rfl⟩ := same
    obtain ⟨first, others⟩ := List.forall_mem_cons.1 flagged
    exact ⟨first, front, b', rest, rfl, Nat.succ.inj sized, others, large⟩
  · rintro ⟨first, front, b', rest, rfl, sized, flagged, large⟩
    refine ⟨b :: front, b', rest, rfl, congrArg Nat.succ sized, ?_, large⟩
    exact List.forall_mem_cons.2 ⟨first, flagged⟩

/-- At the end there is no byte to read. -/
theorem readByte_of_nil {r : Reader} (ahead : r.rest = []) :
    readByte r = (.error (.truncated 1 r.size 0), r) := by
  have none : r.remaining = 0 := congrArg List.length ahead
  have short : take 1 r = (.error (.truncated 1 r.size 0), r) := by
    rw [take_apply, if_neg (by omega), Reader.size, none, Nat.add_zero]
  exact Read.bind_of_error short

/-- Otherwise the next byte is read. -/
theorem readByte_of_cons {r : Reader} (ahead : r.rest = b :: data) :
    readByte r = (.ok b, r.advance 1) := by
  have run : take [b].length r =
      (.ok [b], { r with position := r.position + 1, rest := data }) := take_append ahead
  have moved : r.advance 1 = { r with position := r.position + 1, rest := data } := by
    rw [Reader.advance, ahead]
    rfl
  rw [moved]
  exact Read.bind_of_ok run

variable {start weight sum : Nat} {r s : Reader} {e : Error}

/-- At the end no group can be read either. -/
theorem readGroups_of_nil (ahead : r.rest = []) :
    readGroups start (left + 1) weight sum r = (.error (.truncated 1 r.size 0), r) :=
  Read.bind_of_error (readByte_of_nil ahead)

/-- What the loop does with the next byte: refuse it, end with it, or go on behind it. -/
theorem readGroups_of_cons (ahead : r.rest = b :: data) :
    readGroups start (left + 1) weight sum r =
      if left = 0 ∧ 1 < b.toNat % 128 then
        (.error (.invalidData (.numberTooLong start)), r.advance 1)
      else if b.toNat < 128 then (.ok (sum + b.toNat % 128 * weight), r.advance 1)
      else readGroups start left (weight * 128) (sum + b.toNat % 128 * weight) (r.advance 1) := by
  rw [readGroups, Read.bind_of_ok (readByte_of_cons ahead)]
  split_ifs
  · rfl
  · rfl
  · rfl

/-- With one group left its byte decides: it ends the number, or the number is too long. -/
theorem readGroups_last (ahead : r.rest = b :: data) :
    readGroups start (0 + 1) weight sum r =
      if 1 < b.toNat then (.error (.invalidData (.numberTooLong start)), r.advance 1)
      else (.ok (sum + b.toNat % 128 * weight), r.advance 1) := by
  rw [readGroups_of_cons ahead]
  by_cases large : 1 < b.toNat
  · rw [if_pos large]
    split_ifs
    · rfl
    · omega
    · rfl
  · rw [if_neg large, if_neg (by omega), if_pos (by omega)]

/-- What a failure of reading groups looks like, if `left + 1` more may follow. -/
def FailsAs (start left : Nat) (r : Reader) (e : Error) (s : Reader) : Prop :=
  (EndsWithin (left + 1) r.rest ∧ e = .truncated 1 r.size 0 ∧ s = r.advance r.remaining) ∨
  (OverflowsAt left r.rest ∧ e = .invalidData (.numberTooLong start) ∧ s = r.advance (left + 1))

/-- At the end there is one way to fail. -/
theorem failsAs_of_nil (ahead : r.rest = []) :
    FailsAs start left r e s ↔ e = .truncated 1 r.size 0 ∧ s = r := by
  have ends : EndsWithin (left + 1) r.rest := by
    rw [ahead]
    exact ⟨Nat.succ_pos left, by simp⟩
  have fits : ¬ OverflowsAt left r.rest := by
    rw [ahead]
    exact not_overflowsAt_nil
  have none : r.remaining = 0 := congrArg List.length ahead
  have unmoved : r.advance 0 = r := rfl
  simp [FailsAs, ends, fits, none, unmoved]

/-- At the last group the way to fail is that the byte is too large. -/
theorem failsAs_zero_of_cons (ahead : r.rest = b :: data) : FailsAs start 0 r e s ↔
    1 < b.toNat ∧ e = .invalidData (.numberTooLong start) ∧ s = r.advance 1 := by
  have goesOn : ¬ EndsWithin (0 + 1) (b :: data) := by
    intro ends
    exact absurd ends.1 (by simp)
  rw [FailsAs, ahead, overflowsAt_zero_cons]
  simp [goesOn]

/-- At an earlier group the failure comes later, behind a flagged byte. -/
theorem failsAs_succ_of_cons (ahead : r.rest = b :: data) :
    FailsAs start (left + 1) r e s ↔ 128 ≤ b.toNat ∧ FailsAs start left (r.advance 1) e s := by
  have behind : (r.advance 1).rest = data := by
    rw [Reader.rest_advance, ahead]
    rfl
  have length : r.remaining = data.length + 1 := congrArg List.length ahead
  have size : (r.advance 1).size = r.size := by
    simp only [Reader.size, Reader.position_advance, Reader.remaining_advance]
    omega
  unfold FailsAs
  rw [ahead, behind, size, endsWithin_cons, overflowsAt_succ_cons, Reader.advance_advance,
    Reader.advance_advance, Reader.remaining_advance, and_or_left, and_assoc, and_assoc,
    Nat.add_comm 1 (left + 1), length, Nat.add_sub_cancel, Nat.add_comm 1 data.length]

/-- **How reading groups fails.** The induction is on the groups that may follow. -/
theorem readGroups_eq_error_iff :
    readGroups start (left + 1) weight sum r = (.error e, s) ↔ FailsAs start left r e s := by
  induction left generalizing weight sum r with
  | zero =>
    rcases ahead : r.rest with _ | ⟨b, data⟩
    · rw [readGroups_of_nil ahead, failsAs_of_nil ahead, Prod.mk.injEq, Except.error.injEq,
        @eq_comm _ e, @eq_comm _ s]
    · rw [readGroups_last ahead, failsAs_zero_of_cons ahead]
      split_ifs with large
      · rw [Prod.mk.injEq, Except.error.injEq, @eq_comm _ e, @eq_comm _ s]
        simp [large]
      · constructor
        · intro done
          cases done
        · intro fails
          exact absurd fails.1 large
  | succ left ih =>
    rcases ahead : r.rest with _ | ⟨b, data⟩
    · rw [readGroups_of_nil ahead, failsAs_of_nil ahead, Prod.mk.injEq, Except.error.injEq,
        @eq_comm _ e, @eq_comm _ s]
    · have notLast : ¬ (left + 1 = 0 ∧ 1 < b.toNat % 128) := fun h => Nat.succ_ne_zero left h.1
      rw [readGroups_of_cons ahead, failsAs_succ_of_cons ahead, if_neg notLast]
      by_cases plain : b.toNat < 128
      · rw [if_pos plain]
        constructor
        · intro done
          cases done
        · intro flagged
          omega
      · rw [if_neg plain, ih]
        simp [Nat.le_of_not_lt plain]

/-- **How reading a number fails**: the data ends too early, or the tenth byte is too large. -/
theorem readVarUInt_eq_error_iff :
    readVarUInt r = (.error e, s) ↔ FailsAs r.position 9 r e s := by
  have run : readVarUInt r = readGroups r.position maxGroups 1 0 r :=
    Read.bind_of_ok (Read.look_apply r)
  have groups : maxGroups = 9 + 1 := rfl
  rw [run, groups]
  exact readGroups_eq_error_iff

/-- The machine's reading of a number, with its result as a natural number. -/
theorem readVarUInt_apply (r : Reader) :
    readVarUInt r = ((readWord r).1.map UInt64.toNat, (readWord r).2) := by
  rw [readVarUInt_eq, Read.bind_apply]
  rcases readWord r with ⟨e | v, s⟩
  · rfl
  · rfl

/-- Data is lacking exactly if it ends within the first ten groups. -/
theorem readVarUInt_truncated_iff : (∃ need offset available,
    (readVarUInt r).1 = .error (.truncated need offset available)) ↔ EndsWithin 10 r.rest := by
  constructor
  · rintro ⟨need, offset, available, fails⟩
    have run : readVarUInt r = (.error (.truncated need offset available), (readVarUInt r).2) :=
      Prod.ext fails rfl
    rcases readVarUInt_eq_error_iff.1 run with ⟨ends, -⟩ | ⟨-, other, -⟩
    · exact ends
    · cases other
  · intro ends
    have run := readVarUInt_eq_error_iff.2 (.inl ⟨ends, rfl, rfl⟩)
    exact ⟨_, _, _, congrArg Prod.fst run⟩

/-- The data is bad exactly if the tenth byte is too large. -/
theorem readVarUInt_invalidData_iff :
    (∃ what, (readVarUInt r).1 = .error (.invalidData what)) ↔ OverflowsAt 9 r.rest := by
  constructor
  · rintro ⟨what, fails⟩
    have run : readVarUInt r = (.error (.invalidData what), (readVarUInt r).2) :=
      Prod.ext fails rfl
    rcases readVarUInt_eq_error_iff.1 run with ⟨-, other, -⟩ | ⟨overflows, -⟩
    · cases other
    · exact overflows
  · intro overflows
    have run := readVarUInt_eq_error_iff.2 (.inr ⟨overflows, rfl, rfl⟩)
    exact ⟨_, congrArg Prod.fst run⟩

end failures

/-! ### All of it -/

/-- **Numbers of variable width.** Whatever the number of 64 bits, the loop that masks and shifts
its word ends and writes its groups, from one to ten and none of them padding. The bytes that are
read as the number are these and, for each greater length up to ten, the one form padded with zeros.

Whatever is ahead of a reader, the loop that joins words reads what is read here; what it reads as a
number is a spelling of the number. It fails for lack of data exactly if the data ends within ten
bytes before one without a flag, it complains about the data exactly if nine flagged bytes are
followed by one greater than 1, and it never fails otherwise. -/
theorem varUInt_exact :
    (∀ v : UInt64,
      writeWord v = varUInt v.toNat ∧
      (varUInt v.toNat).length = groupCount v.toNat ∧
      1 ≤ groupCount v.toNat ∧ groupCount v.toNat ≤ 10 ∧
      ReadsAs (varUInt v.toNat) v.toNat ∧
      (∀ bytes, ReadsAs bytes v.toNat → (varUInt v.toNat).length ≤ bytes.length) ∧
      ∀ bytes, ReadsAs bytes v.toNat ↔
        ∃ len, groupCount v.toNat ≤ len ∧ len ≤ 10 ∧ bytes = padded v.toNat len) ∧
    ∀ r : Reader,
      readVarUInt r = ((readWord r).1.map UInt64.toNat, (readWord r).2) ∧
      (∀ n s, readVarUInt r = (.ok n, s) ↔ n < 2 ^ 64 ∧
        ∃ len, groupCount n ≤ len ∧ len ≤ 10 ∧ padded n len <+: r.rest ∧ s = r.advance len) ∧
      ((∃ need offset available, (readVarUInt r).1 = .error (.truncated need offset available)) ↔
        EndsWithin 10 r.rest) ∧
      ((∃ what, (readVarUInt r).1 = .error (.invalidData what)) ↔ OverflowsAt 9 r.rest) ∧
      ∀ e s, readVarUInt r = (.error e, s) → FailsAs r.position 9 r e s := by
  constructor
  · intro v
    have fits : v.toNat < 2 ^ 64 := v.toNat_lt
    have least := groupCount_le_ten fits
    refine ⟨writeWord_eq v, length_varUInt _, le_max_left _ _, least, ?_, ?_, ?_⟩
    · exact (readsAs_iff fits).2 ⟨_, Nat.le_refl _, least, varUInt_eq_padded _⟩
    · intro bytes reads
      obtain ⟨len, enough, -, rfl⟩ := (readsAs_iff fits).1 reads
      rw [length_varUInt, length_padded enough]
      exact enough
    · intro bytes
      exact readsAs_iff fits
  · intro r
    refine ⟨readVarUInt_apply r, ?_, readVarUInt_truncated_iff,
      readVarUInt_invalidData_iff, ?_⟩
    · intro n s
      exact readVarUInt_eq_ok_iff
    · intro e s
      exact readVarUInt_eq_error_iff.1

/-- A reader with ten flagged groups ahead of it but for the last, which is 2. -/
def overflowing : Reader := ⟨0, headerSize, List.replicate 9 0xff ++ [2], true⟩

/-- The statement at 300, which is read from two bytes and from three, and at a number that needs
one bit more than there is. -/
theorem varUInt_exact_threeHundred :
    ReadsAs (varUInt 300) 300 ∧ ReadsAs [0xac, 0x82, 0] 300 ∧ (varUInt 300).length ≤ 3 ∧
    ∃ s, readVarUInt overflowing = (.error (.invalidData (.numberTooLong 8)), s) ∧
      FailsAs 8 9 overflowing (.invalidData (.numberTooLong 8)) s := by
  obtain ⟨writes, reads⟩ := varUInt_exact
  obtain ⟨-, -, -, -, written, shortest, spellings⟩ := writes 300
  have enough : groupCount 300 ≤ 3 := groupCount_le_iff.2 ⟨by decide, by decide⟩
  have longer : ReadsAs [0xac, 0x82, 0] 300 :=
    (spellings _).2 ⟨3, enough, by decide, by decide +kernel⟩
  obtain ⟨-, -, -, complains, fails⟩ := reads overflowing
  have flagged : ∀ b ∈ List.replicate 9 (0xff : UInt8), 128 ≤ b.toNat := by
    intro b there
    rw [List.eq_of_mem_replicate there]
    decide
  have tenth : OverflowsAt 9 overflowing.rest :=
    ⟨List.replicate 9 0xff, 2, [], rfl, List.length_replicate, flagged, by decide⟩
  obtain ⟨what, complaint⟩ := complains.2 tenth
  have run : readVarUInt overflowing = (.error (.invalidData what), (readVarUInt overflowing).2) :=
    Prod.ext complaint rfl
  rcases fails _ _ run with ⟨-, other, -⟩ | ⟨-, same, -⟩
  · cases other
  · cases same
    exact ⟨written, longer, shortest _ longer, _, run, fails _ _ run⟩

end SceneSchema.Wire
