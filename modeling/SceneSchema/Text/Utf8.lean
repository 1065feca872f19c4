/-!
# Where a byte string stops being UTF-8

`String.fromUTF8?` of the standard library says *whether* bytes are well-formed UTF-8. When they are
not, a report also says *where*: after which number of well-formed bytes, and whether the next
bytes are wrong (`Utf8Fault.invalid`, with the length of the longest prefix of a character they
hold) or only cut short by the end of the input (`Utf8Fault.incomplete`).

The lead byte of a character fixes how many continuation bytes follow and which range the first of
them lies in (`leadByte`); that range excludes overlong forms, surrogates and code points beyond
the last plane. `Utf8Fault.find` walks the characters.
-/

namespace SceneSchema

/-- Where and how bytes stop being UTF-8. -/
inductive Utf8Fault where
  /-- The `length` bytes from `index` on start no character. -/
  | invalid (length index : Nat)
  /-- The input ends inside the character that starts at `index`. -/
  | incomplete (index : Nat)
  deriving DecidableEq, Repr

namespace Utf8Fault

/-- The fault in words. -/
def message : Utf8Fault → String
  | .invalid length index =>
      "invalid utf-8 sequence of " ++ toString length ++ " bytes from index " ++ toString index
  | .incomplete index => "incomplete utf-8 byte sequence from index " ++ toString index

/-- The ranges of the continuation bytes that a lead byte of a longer character asks for. -/
def leadByte (b : UInt8) : Option (List (UInt8 × UInt8)) :=
  let any : UInt8 × UInt8 := (0x80, 0xbf)
  if b < 0xc2 then none
  else if b < 0xe0 then some [any]
  else if b = 0xe0 then some [(0xa0, 0xbf), any]
  else if b = 0xed then some [(0x80, 0x9f), any]
  else if b < 0xf0 then some [any, any]
  else if b = 0xf0 then some [(0x90, 0xbf), any, any]
  else if b < 0xf4 then some [any, any, any]
  else if b = 0xf4 then some [(0x80, 0x8f), any, any]
  else none

/-- How the bytes fail to match the ranges one by one: `none` if they match, `some none` if they
end too early, `some (some k)` if the byte after the first `k` is out of range. -/
def mismatch : List (UInt8 × UInt8) → List UInt8 → Option (Option Nat)
  | [], _ => none
  | _ :: _, [] => some none
  | (first, last) :: ranges, b :: rest =>
      if first ≤ b ∧ b ≤ last then (mismatch ranges rest).map (·.map (· + 1)) else some (some 0)

/-- The first fault in the bytes, counting from `index`. -/
def find (index : Nat) (bytes : List UInt8) : Option Utf8Fault :=
  match bytes with
  | [] => none
  | b :: rest =>
      if b < 0x80 then find (index + 1) rest
      else
        match leadByte b with
        | none => some (.invalid 1 index)
        | some ranges =>
            match mismatch ranges rest with
            | some none => some (.incomplete index)
            | some (some k) => some (.invalid (k + 1) index)
            | none => find (index + 1 + ranges.length) (rest.drop ranges.length)
termination_by bytes.length
decreasing_by all_goals simp only [List.length_cons, List.length_drop]; omega

/-- The fault of bytes that are not UTF-8. -/
def ofBytes (bytes : List UInt8) : Utf8Fault :=
  (find 0 bytes).getD (.incomplete bytes.length)

end Utf8Fault

/-- The bytes of a text in UTF-8. -/
def utf8Bytes (s : String) : List UInt8 := s.toByteArray.data.toList

/-- The text that the bytes encode in UTF-8, if they encode one. -/
def textOfUtf8? (bytes : List UInt8) : Option String := String.fromUTF8? ⟨bytes.toArray⟩

/-- The bytes of a text decode to it. -/
theorem textOfUtf8?_utf8Bytes (s : String) : textOfUtf8? (utf8Bytes s) = some s := by
  have whole : (⟨(utf8Bytes s).toArray⟩ : ByteArray) = s.toByteArray := by simp [utf8Bytes]
  rw [textOfUtf8?, whole, String.fromUTF8?, dif_pos s.isValidUTF8]
  rfl

/-- Bytes that decode are those of the text. -/
theorem utf8Bytes_of_textOfUtf8? {bytes : List UInt8} {s : String}
    (h : textOfUtf8? bytes = some s) : utf8Bytes s = bytes := by
  unfold textOfUtf8? String.fromUTF8? at h
  split at h
  · cases h; simp [utf8Bytes, String.fromUTF8]
  · cases h

end SceneSchema
