import SceneSchema.Number.Notation
import SceneSchema.Schema.SceneClass

/-!
# The description of a class

One line for the class, and for each attribute one line with number, type, name and default,
followed by indented lines for aliases, heading, described values and annotations. Columns are
padded by characters. Lists are shown by their length, single numbers in exact notation, components
of colors and vectors in plain notation, and texts in quotes.
-/

namespace SceneSchema.Inspect

/-- The text with blanks behind it up to a width. -/
def padRight (width : Nat) (s : String) : String :=
  s ++ String.ofList (List.replicate (width - s.length) ' ')

/-- The text with blanks before it up to a width. -/
def padLeft (width : Nat) (s : String) : String :=
  String.ofList (List.replicate (width - s.length) ' ') ++ s

/-- Components between parentheses. -/
def describeFloats {n : Nat} (x : Floats n) : String :=
  "(" ++ ", ".intercalate (x.toList.map fun c => c.read.write .plain) ++ ")"

/-- A datum of one kind. -/
def describeScalar : (k : Scalar) → k.Data → String
  | .bool, b => cond b "true" "false"
  | .int, n => toString (Int32.toInt n)
  | .long, n => toString (Int64.toInt n)
  | .float, x => (Single.read x).write .exact
  | .double, x => (Double.read x).write .exact
  | .string, s => quoted s
  | .rgb, x => describeFloats x
  | .rgba, x => describeFloats x
  | .vec2f, x => describeFloats x
  | .vec3f, x => describeFloats x
  | .vec4f, x => describeFloats x

/-- A value in short. -/
def describeValue : Value → String
  | ⟨.scalar k, d⟩ => describeScalar k d
  | ⟨.object, d⟩ =>
      match (d : Option ObjectRef) with
      | some r => r.display
      | none => "null"
  | ⟨.vector _, items⟩ => "[" ++ toString (List.length items) ++ " elements]"
  | ⟨.objects, items⟩ => "[" ++ toString (List.length items) ++ " elements]"

/-- The blanks before a line that belongs to an attribute. -/
def detailIndent : String := String.ofList (List.replicate 16 ' ')

/-- The lines of an attribute. -/
def describeAttribute (a : Attribute) : List String :=
  let flags := a.flags.display
  let head := "           " ++ padLeft 3 (toString a.index) ++ "  " ++
    padRight 18 a.type.name ++ " " ++ padRight 20 a.name ++ " = " ++ describeValue a.default ++
    (if flags = "" then "" else "  [" ++ flags ++ "]")
  let aliases := if a.aliases = [] then [] else ["aliases: " ++ ", ".intercalate a.aliases]
  let group := a.group.toList.map ("group: " ++ ·)
  let texts := a.enumTexts.map fun (value, text) => toString value.toInt ++ " = " ++ text
  let notes := a.metadata.map fun (key, text) => key ++ ": " ++ text
  head :: (aliases ++ group ++ texts ++ notes).map (detailIndent ++ ·)

/-- The lines of a class. -/
def describeClass (c : SceneClass) : List String :=
  ("         " ++ c.name ++ " (" ++ c.interface.display ++ ") - " ++ toString c.count ++
    " attributes") :: c.attributes.flatMap describeAttribute

end SceneSchema.Inspect
