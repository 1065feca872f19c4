import SceneSchema.Schema.Script

/-!
# A class with an attribute of every type

The class declares twenty-five attributes: one of every type, and a second text, which names a file.
Its second attribute has an alias, two annotations and a heading, and its third has descriptions for
three values. It serves as the code of a module file and as a class built into a program.

Main statement: `types_declared`, the declaration succeeds on a fresh class and every type occurs in
the table it leaves.
-/

namespace SceneSchema.TestLight

/-- The number one. -/
def one : Single := Single.one

/-- The number minus one. -/
def minusOne : Single := ⟨0xbf800000⟩

/-- A step that declares an attribute. -/
def field (name : String) (default : Value) (flags : AttributeFlags) : Step :=
  { action := .declare name default flags none }

/-- A step that declares an attribute of zero default and no flags. -/
def plain (name : String) (t : ValueType) : Step := field name (.zero t) .empty

/-- A step that declares an attribute and keeps its key under the attribute's name. -/
def keyed (name : String) (default : Value) (flags : AttributeFlags) : Step :=
  { action := .declare name default flags (some name) }

/-- The declaration, step by step. -/
def steps : List Step :=
  [ field "on" ⟨.scalar .bool, true⟩ .empty,
    keyed "intensity" ⟨.scalar .float, one⟩ .blurrable,
    { action := .addAlias "intensity" "brightness" },
    { action := .setMetadata "intensity" "label" "intensity" },
    { action := .setMetadata "intensity" "comment" "light multiplier" },
    { action := .setGroup "intensity" "Properties" },
    keyed "mode" (.zero (.scalar .int)) .enumerable,
    { action := .setEnumText "mode" 0 "point" },
    { action := .setEnumText "mode" 1 "spot" },
    { action := .setEnumText "mode" 2 "area" },
    plain "seed" (.scalar .long),
    field "exposure" (.zero (.scalar .double)) .blurrable,
    plain "label" (.scalar .string),
    field "texture" (.zero (.scalar .string)) .filename,
    field "color" ⟨.scalar .rgb, (#v[one, one, one] : Floats 3)⟩ .blurrable,
    field "tint" ⟨.scalar .rgba, (#v[one, one, one, one] : Floats 4)⟩ .empty,
    plain "uv" (.scalar .vec2f),
    field "direction"
      ⟨.scalar .vec3f, (#v[Single.zero, Single.zero, minusOne] : Floats 3)⟩ .blurrable,
    plain "plane" (.scalar .vec4f),
    plain "geometry" .object,
    plain "mask" (.vector .bool),
    plain "ids" (.vector .int),
    plain "stamps" (.vector .long),
    plain "weights" (.vector .float),
    plain "samples" (.vector .double),
    plain "tags" (.vector .string),
    plain "palette" (.vector .rgb),
    plain "tints" (.vector .rgba),
    plain "uvs" (.vector .vec2f),
    plain "points" (.vector .vec3f),
    plain "planes" (.vector .vec4f),
    plain "light_set" .objects ]

/-- The class's code: its objects are lights and are made plainly. -/
def script : Script := { steps, interface := .light }

/-- The declaration succeeds on a fresh class, and every type occurs in the table it leaves. -/
theorem types_declared :
    (script.run (.new ⟨1⟩ "TestLight")).1 = .declared .light ∧
      ∀ t, t ∈ (script.run (.new ⟨1⟩ "TestLight")).2.types := by
  have done : (script.run (.new ⟨1⟩ "TestLight")).1 = .declared .light ∧
      ValueType.all.all (fun t => (script.run (.new ⟨1⟩ "TestLight")).2.types.contains t) := by
    decide +kernel
  exact ⟨done.1, fun t =>
    List.contains_iff_mem.1 (List.all_eq_true.1 done.2 t (ValueType.mem_all t))⟩

end SceneSchema.TestLight
