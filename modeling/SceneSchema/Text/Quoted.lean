import SceneSchema.Text.Unseen

/-!
# Quoted text

A text between double quotes, on one line, in which every character that cannot be seen on its own
is written out. NUL, tab, line feed and carriage return have short forms, the quote and the
backslash get a backslash, and a character of the table `unseenRanges` is written by its code point,
in hexadecimal between braces. The apostrophe stays as it is.
-/

namespace SceneSchema

/-- The lower-case hexadecimal digits of a number, without leading zeros. -/
def hexDigits (n : Nat) : String := String.ofList (Nat.toDigits 16 n)

/-- How a character is written inside quotes. -/
def escapeChar (c : Char) : String :=
  if c = '\x00' then "\\0"
  else if c = '\t' then "\\t"
  else if c = '\n' then "\\n"
  else if c = '\r' then "\\r"
  else if c = '"' then "\\\""
  else if c = '\\' then "\\\\"
  else if isUnseen c then "\\u\x7b" ++ hexDigits c.toNat ++ "\x7d"
  else String.singleton c

/-- The text between quotes, each character escaped as it needs. -/
def quoted (s : String) : String := "\"" ++ String.join (s.toList.map escapeChar) ++ "\""

/-- A list of texts, each already written, between brackets. -/
def bracketed (items : List String) : String := "[" ++ ", ".intercalate items ++ "]"

end SceneSchema
