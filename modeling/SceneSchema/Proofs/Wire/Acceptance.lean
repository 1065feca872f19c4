import Mathlib.Tactic.Ring
import SceneSchema.Proofs.Wire.Recognition

/-!
# Reading accepts exactly the sentences of the format

One lemma for each reader, `recognizes_…`, says which format it recognizes; none of them looks into
another reader. The last one, for values of any type, gives the main statement
`readValue_eq_ok_iff_spelledBy`: **a read succeeds exactly if a sentence is ahead, and nothing but
the bytes of that sentence decides it.**

The one step that recognizes no format is `readCount`: it refuses a number because of what is *not*
ahead. `Recognizes.counted` shows that this refusal is never felt: what the count announces
takes at least the bytes that the guard asks for, so if the guard refuses there is no sentence.
-/

namespace SceneSchema

open Wire

namespace Wire

variable {α β : Type}

/-! ### Bytes and words -/

/-- Taking bytes recognizes whatever is so long, and gives it as it is. -/
theorem recognizes_take (n : Nat) :
    Recognizes (take n) (fun bytes a => bytes.length = n ∧ a = bytes) where
  sound {r r' a} run := by
    rw [take_apply] at run
    by_cases enough : n ≤ r.remaining
    · rw [if_pos enough] at run
      cases run
      have taken : (r.rest.take n).length = n := List.length_take_of_le enough
      exact ⟨r.rest.take n, List.take_prefix n r.rest, ⟨taken, rfl⟩, by rw [taken]⟩
    · rw [if_neg enough] at run
      cases run
  complete {r bytes a} ahead _ sentence := by
    obtain ⟨rfl, rfl⟩ := sentence
    have enough : a.length ≤ r.remaining := ahead.length_le
    rw [take_apply, if_pos enough, ← List.prefix_iff_eq_take.1 ahead]

/-- A piece of known length, and a step that reads nothing more and only looks at the piece. -/
theorem Recognizes.take_bind {n : Nat} {f : Bytes → Read α} {P : Bytes → α → Prop}
    (h : ∀ piece, Recognizes (f piece) (fun rest a => rest = [] ∧ P piece a)) :
    Recognizes (take n >>= f) (fun bytes a => bytes.length = n ∧ P bytes a) := by
  apply ((recognizes_take n).bind h).congr
  intro bytes a
  constructor
  · intro chain
    obtain ⟨piece, _, _, rfl, ⟨sized, rfl⟩, rfl, denotes⟩ := chain
    rw [List.append_nil]
    exact ⟨sized, denotes⟩
  · intro sentence
    obtain ⟨sized, denotes⟩ := sentence
    exact ⟨bytes, [], bytes, (List.append_nil bytes).symm, ⟨sized, rfl⟩, rfl, denotes⟩

/-- Reading a byte recognizes the one byte. -/
theorem recognizes_readByte : Recognizes readByte (fun bytes b => bytes = [b]) := by
  have byte : Recognizes readByte (fun bytes b => bytes.length = 1 ∧ b = bytes.headD 0) := by
    unfold readByte
    apply Recognizes.take_bind
    intro piece
    rcases piece with _ | ⟨b, rest⟩
    · exact .done fun _ _ => Iff.rfl
    · exact .done fun _ _ => Iff.rfl
  apply byte.congr
  intro bytes b
  rw [List.length_eq_one_iff]
  constructor
  · intro sentence
    obtain ⟨⟨b, rfl⟩, rfl⟩ := sentence
    rfl
  · intro single
    subst single
    exact ⟨⟨b, rfl⟩, rfl⟩

/-- A step that starts with a byte recognizes a format without an empty sentence if, behind each
byte, it recognizes what is left of the sentences that start with it. -/
theorem Recognizes.readByte_bind {f : UInt8 → Read α} {P : Bytes → α → Prop}
    (empty : ∀ a, ¬ P [] a) (h : ∀ b, Recognizes (f b) (fun rest a => P (b :: rest) a)) :
    Recognizes (readByte >>= f) P := by
  apply (recognizes_readByte.bind h).congr
  intro bytes a
  constructor
  · intro chain
    obtain ⟨_, rest, b, rfl, rfl, sentence⟩ := chain
    exact sentence
  · intro sentence
    rcases bytes with _ | ⟨b, rest⟩
    · exact absurd sentence (empty a)
    · exact ⟨[b], rest, b, rfl, rfl, sentence⟩

/-- Reading a word recognizes the words of its width. -/
theorem recognizes_readFixed (width : Nat) : Recognizes (readFixed width) (IsWord width) := by
  have word : Recognizes (readFixed width)
      (fun bytes n => bytes.length = width ∧ n = ofLittleEndian bytes) := by
    unfold readFixed
    exact .take_bind fun piece => .done fun _ _ => Iff.rfl
  apply word.congr
  intro bytes n
  rw [isWord_iff, @eq_comm _ n]

/-- A word stands for a number that its width can hold. -/
theorem IsWord.lt {width n : Nat} {bytes : Bytes} (h : IsWord width bytes n) : n < 256 ^ width := by
  obtain ⟨rfl, rfl⟩ := isWord_iff.1 h
  exact ofLittleEndian_lt bytes

/-- Data that words of a width stand for one to one. -/
theorem recognizes_word {width : Nat} (ofWord : Nat → α) {toWord : α → Nat}
    (ofWord_toWord : ∀ a, ofWord (toWord a) = a)
    (toWord_ofWord : ∀ n, n < 256 ^ width → toWord (ofWord n) = n) :
    Recognizes (readFixed width >>= fun n => pure (ofWord n))
      (fun bytes a => IsWord width bytes (toWord a)) := by
  apply ((recognizes_readFixed width).map ofWord).congr
  intro bytes a
  constructor
  · intro sentence
    obtain ⟨n, word, rfl⟩ := sentence
    rwa [toWord_ofWord n word.lt]
  · intro word
    exact ⟨toWord a, word, (ofWord_toWord a).symm⟩

/-- A truth value is one byte, which is 0 or 1. -/
theorem isBool_cons_iff {b : UInt8} {rest : Bytes} {v : Bool} :
    IsBool (b :: rest) v ↔ rest = [] ∧ (b = 0 ∧ v = false ∨ b = 1 ∧ v = true) := by
  constructor
  · intro sentence
    cases sentence with
    | no => exact ⟨rfl, .inl ⟨rfl, rfl⟩⟩
    | yes => exact ⟨rfl, .inr ⟨rfl, rfl⟩⟩
  · rintro ⟨rfl, ⟨rfl, rfl⟩ | ⟨rfl, rfl⟩⟩
    · exact IsBool.no
    · exact IsBool.yes

/-- Reading a truth value recognizes the two bytes that stand for one. -/
theorem recognizes_readBool : Recognizes readBool IsBool := by
  unfold readBool
  apply Recognizes.look
  intro r
  apply Recognizes.readByte_bind
  · intro b none
    cases none
  intro b
  simp only [isBool_cons_iff]
  by_cases zero : b = 0
  · rw [if_pos zero]
    exact .done fun rest v => by simp [zero]
  rw [if_neg zero]
  by_cases one : b = 1
  · rw [if_pos one]
    exact .done fun rest v => by simp [one]
  · rw [if_neg one]
    exact .fail fun rest v => by simp [zero, one]

/-! ### Numbers of variable width -/

/-- What may follow when `left + 1` groups are left, the next of which counts `weight`, behind
groups that add up to `sum`. The value that these groups add is below `2 * 128 ^ left`: with ten
groups left this is `2 ^ 64`, and each group that is read divides it by 128, until the last group
may only be 0 or 1. -/
def IsGroupsLeft (left weight sum : Nat) (bytes : Bytes) (n : Nat) : Prop :=
  IsGrouped bytes ∧ bytes.length ≤ left + 1 ∧ groupValue bytes < 2 * 128 ^ left ∧
    n = sum + groupValue bytes * weight

section groups

variable {left weight sum n : Nat} {b : UInt8} {rest : Bytes}

/-- No groups end with no byte: the last group is still to come. -/
theorem not_isGroupsLeft_nil : ¬ IsGroupsLeft left weight sum [] n := by
  intro h
  exact absurd h.1.length_pos (Nat.lt_irrefl 0)

/-- A plain group is the last one. -/
theorem isGroupsLeft_cons_of_plain (plain : b.toNat < 128) (small : b.toNat < 2 * 128 ^ left) :
    IsGroupsLeft left weight sum (b :: rest) n ↔
      rest = [] ∧ n = sum + b.toNat % 128 * weight := by
  unfold IsGroupsLeft
  rw [isGrouped_cons_of_plain plain]
  constructor
  · intro h
    obtain ⟨rfl, -, -, rfl⟩ := h
    rw [groupValue_singleton]
    exact ⟨rfl, rfl⟩
  · rintro ⟨rfl, rfl⟩
    rw [groupValue_singleton, List.length_singleton]
    exact ⟨rfl, by omega, by omega, rfl⟩

/-- Behind a flagged group there is one group less left, and it counts 128 times as much. -/
theorem isGroupsLeft_cons_of_flagged (flagged : 128 ≤ b.toNat) :
    IsGroupsLeft (left + 1) weight sum (b :: rest) n ↔
      IsGroupsLeft left (weight * 128) (sum + b.toNat % 128 * weight) rest n := by
  unfold IsGroupsLeft
  have power : 128 ^ (left + 1) = 128 ^ left * 128 := pow_succ 128 left
  have total : sum + b.toNat % 128 * weight + groupValue rest * (weight * 128) =
      sum + (b.toNat % 128 + 128 * groupValue rest) * weight := by ring
  rw [isGrouped_cons_of_flagged flagged, groupValue_cons, total, List.length_cons]
  apply and_congr_right
  intro _
  apply and_congr
  · omega
  · apply and_congr_left'
    omega

/-- With one group left there is no room for a flagged group, nor for one above 1. -/
theorem not_isGroupsLeft_zero (large : 128 ≤ b.toNat ∨ 1 < b.toNat % 128) :
    ¬ IsGroupsLeft 0 weight sum (b :: rest) n := by
  intro h
  obtain ⟨grouped, few, small, -⟩ := h
  rw [List.length_cons] at few
  rw [groupValue_cons] at small
  rcases large with flagged | big
  · have more := ((isGrouped_cons_of_flagged flagged).1 grouped).length_pos
    omega
  · omega

end groups

/-- Reading groups recognizes what may follow, by induction on how many groups are left. -/
theorem recognizes_readGroups (start left weight sum : Nat) :
    Recognizes (readGroups start (left + 1) weight sum) (IsGroupsLeft left weight sum) := by
  induction left generalizing weight sum with
  | zero =>
    unfold readGroups
    apply Recognizes.readByte_bind (fun _ => not_isGroupsLeft_nil)
    intro b
    by_cases big : 1 < b.toNat % 128
    · rw [if_pos ⟨rfl, big⟩]
      exact .fail fun rest n => not_isGroupsLeft_zero (.inr big)
    rw [if_neg fun h => big h.2]
    by_cases plain : b.toNat < 128
    · rw [if_pos plain]
      exact .done fun rest n => isGroupsLeft_cons_of_plain plain (by omega)
    · -- a flagged tenth group asks for an eleventh
      rw [if_neg plain]
      exact .fail fun rest n => not_isGroupsLeft_zero (.inl (Nat.le_of_not_lt plain))
  | succ left ih =>
    unfold readGroups
    apply Recognizes.readByte_bind (fun _ => not_isGroupsLeft_nil)
    intro b
    rw [if_neg fun h => Nat.succ_ne_zero left h.1]
    by_cases plain : b.toNat < 128
    · rw [if_pos plain]
      apply Recognizes.done
      intro rest n
      have positive : 0 < 128 ^ left := Nat.pow_pos (by decide)
      exact isGroupsLeft_cons_of_plain plain (by rw [pow_succ]; omega)
    · rw [if_neg plain]
      apply (ih (weight * 128) (sum + b.toNat % 128 * weight)).congr
      intro rest n
      exact (isGroupsLeft_cons_of_flagged (Nat.le_of_not_lt plain)).symm

/-- Reading a number of variable width recognizes at most ten groups with a value below `2 ^ 64`.
-/
theorem recognizes_readVarUInt : Recognizes readVarUInt IsVarUInt := by
  unfold readVarUInt
  apply Recognizes.look
  intro r
  apply (recognizes_readGroups r.position 9 1 0).congr
  intro bytes n
  have bound : 2 * 128 ^ 9 = 2 ^ 64 := by norm_num
  unfold IsGroupsLeft
  rw [bound, Nat.zero_add, Nat.mul_one]
  constructor
  · intro h
    obtain ⟨grouped, few, small, rfl⟩ := h
    exact ⟨grouped, few, rfl, small⟩
  · intro number
    obtain ⟨grouped, few, rfl, small⟩ := number
    exact ⟨grouped, few, small, rfl⟩

/-! ### What a count announces -/

/-- What becomes of a number that is a count. -/
theorem readCount_of_number {least n : Nat} {r s : Reader} (number : readVarUInt r = (.ok n, s)) :
    readCount least r =
      if 2 ^ 64 ≤ n * least then (.error (.invalidData (.countTooLarge n s.position)), s)
      else if n * least ≤ s.remaining then (.ok n, s)
      else (.error (.truncated (n * least) s.position s.remaining), s) := by
  unfold readCount
  rw [Read.bind_of_ok number, Read.bind_of_ok (Read.look_apply s)]
  simp only [Reader.has_iff, Nat.pow_eq]
  split_ifs
  · rfl
  · rfl
  · rfl

/-- A count is a number for which enough bytes are ahead. -/
theorem readCount_eq_ok_iff {least n : Nat} {r r' : Reader} :
    readCount least r = (.ok n, r') ↔
      readVarUInt r = (.ok n, r') ∧ n * least < 2 ^ 64 ∧ n * least ≤ r'.remaining := by
  constructor
  · intro run
    obtain ⟨count, s, number, -⟩ := Read.bind_eq_ok_iff.1 run
    rw [readCount_of_number number] at run
    split_ifs at run with huge enough
    · cases run
    · cases run
      exact ⟨number, Nat.lt_of_not_le huge, enough⟩
    · cases run
  · intro h
    obtain ⟨number, small, enough⟩ := h
    rw [readCount_of_number number, if_neg (Nat.not_le_of_lt small), if_pos enough]

/-- **The guard of a count refuses no sentence.** The count gives the size of what follows it, and
if that takes at least `least` bytes for each unit of its size, a reader that refuses the count for
lack of bytes recognizes the same format as one that does not look. -/
theorem Recognizes.counted {least : Nat} {f : Nat → Read α} {size : Bytes → α → Nat}
    {content : Bytes → α → Prop}
    (h : ∀ n, Recognizes (f n) (fun body a => size body a = n ∧ content body a))
    (room : ∀ {body a}, content body a → size body a * least ≤ body.length) :
    Recognizes (readCount least >>= f) (fun bytes a => ∃ count body, bytes = count ++ body ∧
      IsVarUInt count (size body a) ∧ content body a) where
  sound run := by
    obtain ⟨n, r₁, counts, rest⟩ := Read.bind_eq_ok_iff.1 run
    have number := (readCount_eq_ok_iff.1 counts).1
    obtain ⟨bytes, ahead, chain, moved⟩ :=
      (recognizes_readVarUInt.bind h).sound (Read.bind_eq_ok_iff.2 ⟨n, r₁, number, rest⟩)
    obtain ⟨count, body, _, rfl, spells, rfl, denotes⟩ := chain
    exact ⟨count ++ body, ahead, ⟨count, body, rfl, spells, denotes⟩, moved⟩
  complete {r bytes a} ahead short sentence := by
    obtain ⟨count, body, rfl, spells, denotes⟩ := sentence
    rw [List.length_append] at short
    obtain ⟨first, second⟩ := append_prefix_iff.1 ahead
    have enough := room denotes
    have number := recognizes_readVarUInt.complete first (by omega) spells
    have counts : readCount least r = (.ok (size body a), r.advance count.length) :=
      readCount_eq_ok_iff.2 ⟨number, by omega, enough.trans second.length_le⟩
    have rest := (h (size body a)).complete (r := r.advance count.length) second (by omega)
      ⟨rfl, denotes⟩
    rw [Reader.advance_advance, ← List.length_append] at rest
    exact Read.bind_eq_ok_iff.2 ⟨size body a, _, counts, rest⟩

/-- Reading a text recognizes a length and so many bytes of UTF-8. -/
theorem recognizes_readText : Recognizes readText IsText := by
  unfold readText
  apply Recognizes.counted
  · intro n
    apply Recognizes.look
    intro r
    apply Recognizes.take_bind
    intro piece
    simp only [← textOfUtf8?_eq_some_iff]
    rcases textOfUtf8? piece with _ | text
    · exact .fail fun bytes s h => (by cases h.2)
    · refine .done fun bytes s => and_congr_right fun _ => ?_
      rw [Option.some.injEq, eq_comm]
  · intro body s content
    exact Nat.le_of_eq (Nat.mul_one _)

/-- Items in order, of a known number. -/
theorem recognizes_readTimes {item : Read α} {P : Bytes → α → Prop} (h : Recognizes item P)
    (n : Nat) : Recognizes (readTimes item n)
      (fun bytes items => items.length = n ∧ IsItems P bytes items) := by
  induction n with
  | zero =>
    apply Recognizes.done
    intro bytes items
    constructor
    · intro sentence
      obtain ⟨none, content⟩ := sentence
      obtain rfl := List.eq_nil_of_length_eq_zero none
      cases content
      exact ⟨rfl, rfl⟩
    · rintro ⟨rfl, rfl⟩
      exact ⟨rfl, IsItems.nil⟩
  | succ n ih =>
    apply (h.bind fun a => ih.map (a :: ·)).congr
    intro bytes items
    constructor
    · intro chain
      obtain ⟨p, q, a, rfl, head, as, ⟨rfl, tail⟩, rfl⟩ := chain
      exact ⟨rfl, IsItems.cons head tail⟩
    · intro sentence
      obtain ⟨some, content⟩ := sentence
      rcases content with _ | ⟨head, tail⟩
      · simp at some
      · exact ⟨_, _, _, rfl, head, _, ⟨Nat.succ.inj some, tail⟩, rfl⟩

/-- A list of items none of which is shorter than the guard of the count supposes. -/
theorem recognizes_readList {least : Nat} {item : Read α} {P : Bytes → α → Prop}
    (h : Recognizes item P) (room : ∀ {bytes a}, P bytes a → least ≤ bytes.length) :
    Recognizes (readList least item) (IsList P) := by
  unfold readList
  apply Recognizes.counted (recognizes_readTimes h)
  intro body items content
  exact content.mul_le_length room

/-! ### Components, read as one piece -/

/-- The first component of a tuple is its first word. -/
theorem componentAt_zero {first : Bytes} (sized : first.length = 4) (rest : Bytes) :
    componentAt (first ++ rest) 0 = ⟨UInt32.ofNat (ofLittleEndian first)⟩ := by
  rw [componentAt, List.drop_zero, List.take_left' sized]

/-- The others are the components of what stands behind the first word. -/
theorem componentAt_succ {first : Bytes} (sized : first.length = 4) (rest : Bytes) (i : Nat) :
    componentAt (first ++ rest) (4 * (i + 1)) = componentAt rest (4 * i) := by
  have split : 4 * (i + 1) = first.length + 4 * i := by rw [sized]; ring
  rw [componentAt, componentAt, split, ← List.drop_drop, List.drop_left]

/-- A component is the four bytes at four times its number. -/
theorem isItems_word_iff {bytes : Bytes} {cs : List Single} :
    IsItems (fun piece c => IsWord 4 piece (Single.bits c).toNat) bytes cs ↔
      bytes.length = 4 * cs.length ∧
        ∀ (i : Nat) (h : i < cs.length), cs[i] = componentAt bytes (4 * i) := by
  induction cs generalizing bytes with
  | nil =>
    constructor
    · intro items
      cases items
      exact ⟨rfl, fun i h => absurd h (Nat.not_lt_zero i)⟩
    · intro none
      rw [List.eq_nil_of_length_eq_zero none.1]
      exact IsItems.nil
  | cons c cs ih =>
    constructor
    · intro items
      obtain _ | ⟨head, tail⟩ := items
      rename_i first rest
      obtain ⟨sized, value⟩ := isWord_iff.1 head
      obtain ⟨length, components⟩ := ih.1 tail
      refine ⟨by rw [List.length_append, sized, length, List.length_cons]; ring, ?_⟩
      intro i h
      rcases i with _ | i
      · rw [List.getElem_cons_zero, Nat.mul_zero, componentAt_zero sized, value]
        simp
      · rw [List.getElem_cons_succ, componentAt_succ sized]
        exact components i (Nat.lt_of_succ_lt_succ h)
    · intro h
      obtain ⟨length, components⟩ := h
      obtain ⟨first, rest, rfl, sized⟩ : ∃ first rest, bytes = first ++ rest ∧ first.length = 4 :=
        ⟨bytes.take 4, bytes.drop 4, (List.take_append_drop 4 bytes).symm,
          List.length_take_of_le (by rw [length, List.length_cons]; omega)⟩
      rw [List.length_append, sized, List.length_cons] at length
      apply IsItems.cons
      · have here := components 0 (Nat.succ_pos _)
        have small := ofLittleEndian_lt first
        rw [List.getElem_cons_zero, Nat.mul_zero, componentAt_zero sized] at here
        rw [sized] at small
        rw [isWord_iff, here]
        exact ⟨sized, (UInt32.toNat_ofNat_of_lt' small).symm⟩
      · apply ih.2
        refine ⟨by omega, fun i h => ?_⟩
        have there := components (i + 1) (Nat.succ_lt_succ h)
        rwa [List.getElem_cons_succ, componentAt_succ sized] at there

/-- Words one after the other stand for the tuple whose components stand at multiples of four. -/
theorem isComponents_iff {n : Nat} {bytes : Bytes} {x : Floats n} :
    IsComponents bytes x ↔
      bytes.length = 4 * n ∧ x = Vector.ofFn fun i => componentAt bytes (4 * i) := by
  unfold IsComponents
  rw [isItems_word_iff]
  simp only [Vector.length_toList]
  apply and_congr_right
  intro sized
  constructor
  · intro components
    apply Vector.ext
    intro i h
    have here := components i h
    rw [Vector.getElem_toList] at here
    rw [here, Vector.getElem_ofFn]
  · intro same i h
    subst same
    rw [Vector.getElem_toList, Vector.getElem_ofFn]

/-- Reading a float tuple recognizes its components as words one after the other. -/
theorem recognizes_readFloats (n : Nat) : Recognizes (Floats.read n) IsComponents := by
  unfold Floats.read
  apply Recognizes.congr _ fun bytes x => isComponents_iff.symm
  exact .take_bind fun piece => .done fun _ _ => Iff.rfl

/-! ### Values -/

/-- Reading a reference recognizes two texts. -/
theorem recognizes_readRef : Recognizes ObjectRef.read IsRef := by
  unfold ObjectRef.read
  apply Recognizes.congr (recognizes_readText.bind fun className =>
    recognizes_readText.map fun name => (⟨className, name⟩ : ObjectRef))
  intro bytes r
  constructor
  · intro chain
    obtain ⟨first, second, className, rfl, head, name, tail, rfl⟩ := chain
    exact ⟨first, second, rfl, head, tail⟩
  · intro reference
    obtain ⟨first, second, rfl, head, tail⟩ := reference
    exact ⟨first, second, r.className, rfl, head, r.name, tail, rfl⟩

/-- Reading data of each kind recognizes the sentences of the kind. -/
theorem recognizes_readScalar (k : Scalar) : Recognizes k.read k.Sentence := by
  cases k with
  | bool => exact recognizes_readBool
  | int =>
    apply recognizes_word fun n => (UInt32.ofNat n).toInt32
    · intro n
      simp
    · intro n h
      simpa using h
  | long =>
    apply recognizes_word fun n => (UInt64.ofNat n).toInt64
    · intro n
      simp
    · intro n h
      simpa using h
  | float =>
    apply recognizes_word fun n => (⟨UInt32.ofNat n⟩ : Single)
    · intro x
      simp
    · intro n h
      simpa using h
  | double =>
    apply recognizes_word fun n => (⟨UInt64.ofNat n⟩ : Double)
    · intro x
      simp
    · intro n h
      simpa using h
  | string => exact recognizes_readText
  | rgb | vec3f => exact recognizes_readFloats 3
  | rgba | vec4f => exact recognizes_readFloats 4
  | vec2f => exact recognizes_readFloats 2

/-- A reference that may be missing. -/
theorem recognizes_readObject :
    Recognizes (ValueType.read .object) (ValueType.Sentence .object) := by
  have optional : Recognizes (ValueType.read .object) (Chain IsBool fun present bytes d =>
      if present then ∃ r, IsRef bytes r ∧ d = some r else bytes = [] ∧ d = none) := by
    unfold ValueType.read
    apply recognizes_readBool.bind
    intro present
    cases present with
    | false => exact .done fun bytes d => Iff.rfl
    | true => exact recognizes_readRef.map some
  apply optional.congr
  intro bytes d
  constructor
  · intro chain
    obtain ⟨presence, rest, present, rfl, flag, content⟩ := chain
    cases present with
    | false =>
      obtain ⟨rfl, rfl⟩ := content
      rw [List.append_nil]
      exact flag
    | true =>
      obtain ⟨r, reference, rfl⟩ := content
      exact ⟨presence, rest, rfl, flag, reference⟩
  · intro sentence
    rcases (d : Option ObjectRef) with _ | r
    · exact ⟨bytes, [], false, (List.append_nil bytes).symm, sentence, rfl, rfl⟩
    · obtain ⟨presence, rest, rfl, flag, reference⟩ := sentence
      exact ⟨presence, rest, true, rfl, flag, r, reference, rfl⟩

/-- Reading data of each type recognizes the sentences of the type. -/
theorem recognizes_readType (t : ValueType) : Recognizes t.read t.Sentence := by
  cases t with
  | scalar k => exact recognizes_readScalar k
  | object => exact recognizes_readObject
  | vector k => exact recognizes_readList (recognizes_readScalar k) Scalar.Sentence.leastSize_le
  | objects => exact recognizes_readList recognizes_readRef IsRef.leastSize_le

/-- Reading a value of a type recognizes what spells a value of that type. -/
theorem recognizes_readValue (t : ValueType) :
    Recognizes (readValue t) (fun bytes v => v.type = t ∧ v.SpelledBy bytes) := by
  unfold readValue
  apply ((recognizes_readType t).map fun d => (⟨t, d⟩ : Value)).congr
  intro bytes v
  constructor
  · intro h
    obtain ⟨d, sentence, rfl⟩ := h
    exact ⟨rfl, sentence⟩
  · intro h
    obtain ⟨rfl, sentence⟩ := h
    exact ⟨v.data, sentence, rfl⟩

/-- Reading values of several types recognizes the records of these types. -/
theorem recognizes_readValues (types : List ValueType) :
    Recognizes (readValues types) (Record types) := by
  induction types with
  | nil =>
    unfold readValues
    apply Recognizes.done
    intro bytes vs
    constructor
    · intro record
      cases record
      exact ⟨rfl, rfl⟩
    · rintro ⟨rfl, rfl⟩
      exact Record.nil
  | cons t types ih =>
    unfold readValues
    apply ((recognizes_readValue t).bind fun v => ih.map (v :: ·)).congr
    intro bytes vs
    constructor
    · intro chain
      obtain ⟨first, rest, v, rfl, ⟨rfl, head⟩, vs, tail, rfl⟩ := chain
      exact Record.cons head tail
    · intro record
      rcases record with _ | ⟨head, tail⟩
      exact ⟨_, _, _, rfl, ⟨rfl, head⟩, _, tail, rfl⟩

end Wire

/-! ### The main statement -/

/-- **Reading a value succeeds exactly on the sentences of its type.** From any place of any buffer,
the read gives `v` and moves on by `n` bytes if and only if these `n` bytes are there and spell `v`
as a value of the type; every successful read is of this kind; and a read that succeeded succeeds
with the same result from any other place, in any buffer, where the same `n` bytes are ahead. -/
theorem readValue_eq_ok_iff_spelledBy (t : ValueType) (v : Value) (r : Reader) (n : Nat)
    (fits : r.remaining < 2 ^ 64) :
    (readValue t r = (.ok v, r.advance n) ↔
      n ≤ r.remaining ∧ v.type = t ∧ v.SpelledBy (r.rest.take n)) ∧
    (∀ r', readValue t r = (.ok v, r') → ∃ m, m ≤ r.remaining ∧ r' = r.advance m) ∧
    (∀ s : Reader, readValue t r = (.ok v, r.advance n) → s.rest.take n = r.rest.take n →
      readValue t s = (.ok v, s.advance n)) := by
  have recognizes := recognizes_readValue t
  have spelled : readValue t r = (.ok v, r.advance n) →
      n ≤ r.remaining ∧ v.type = t ∧ v.SpelledBy (r.rest.take n) := by
    intro run
    obtain ⟨bytes, ahead, sentence, moved⟩ := recognizes.sound run
    obtain rfl := Reader.advance_inj.1 moved
    rw [← List.prefix_iff_eq_take.1 ahead]
    exact ⟨ahead.length_le, sentence⟩
  -- the same bytes ahead of another reader, which need not be at the end of its buffer either
  have elsewhere : ∀ s : Reader, n ≤ r.remaining → s.rest.take n = r.rest.take n →
      v.type = t ∧ v.SpelledBy (r.rest.take n) → readValue t s = (.ok v, s.advance n) := by
    intro s enough same sentence
    have sized : (r.rest.take n).length = n := List.length_take_of_le enough
    have ahead : r.rest.take n <+: s.rest := same ▸ List.take_prefix n s.rest
    have run := recognizes.complete ahead (by omega) sentence
    rwa [sized] at run
  refine ⟨⟨spelled, fun h => elsewhere r h.1 rfl h.2⟩, fun r' run => ?_, fun s run same => ?_⟩
  · obtain ⟨bytes, ahead, -, moved⟩ := recognizes.sound run
    exact ⟨bytes.length, ahead.length_le, moved⟩
  · obtain ⟨enough, sentence⟩ := spelled run
    exact elsewhere s enough same sentence

/-- The statement at a list of two truth values whose count is written with a group of zeros at the
end, and with two bytes behind the list: four bytes are a sentence, and they are read. -/
theorem readValue_padded_count :
    (⟨0, 8, [0x82, 0, 1, 0, 7, 7], true⟩ : Reader).remaining < 2 ^ 64 ∧
    (⟨.vector .bool, [true, false]⟩ : Value).SpelledBy [0x82, 0, 1, 0] ∧
    ∀ s : Reader, s.rest.take 4 = [0x82, 0, 1, 0] →
      readValue (.vector .bool) s = (.ok ⟨.vector .bool, [true, false]⟩, s.advance 4) := by
  have fits : (⟨0, 8, [0x82, 0, 1, 0, 7, 7], true⟩ : Reader).remaining < 2 ^ 64 := by decide
  obtain ⟨exact, -, anywhere⟩ :=
    readValue_eq_ok_iff_spelledBy (.vector .bool) ⟨.vector .bool, [true, false]⟩ _ 4 fits
  have run : readValue (.vector .bool) ⟨0, 8, [0x82, 0, 1, 0, 7, 7], true⟩ =
      (.ok ⟨.vector .bool, [true, false]⟩, ⟨0, 12, [7, 7], true⟩) := rfl
  exact ⟨fits, (exact.1 run).2.2, fun s same => anywhere s run same⟩

end SceneSchema
