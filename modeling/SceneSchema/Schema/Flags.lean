/-!
# Flags of attributes and of objects

Two sets of flags, each the bits of a 32-bit word. `AttributeFlags` says how an attribute may be
used, `Interface` which roles an object can play. Bits without a meaning are kept. One set `has`
another if it has all its bits; so every set has the empty one.
-/

namespace SceneSchema

/-- How an attribute may be used. -/
structure AttributeFlags where
  bits : UInt32
  deriving DecidableEq, Inhabited, Repr

/-- The roles that an object can play. -/
structure Interface where
  bits : UInt32
  deriving DecidableEq, Inhabited, Repr

namespace AttributeFlags

/-- No flag. -/
def empty : AttributeFlags := ⟨0⟩

/-- The attribute may differ between the ends of a motion blur interval. -/
def blurrable : AttributeFlags := ⟨1⟩

/-- The attribute's values are listed with a description each. -/
def enumerable : AttributeFlags := ⟨2⟩

/-- The attribute's value is the name of a file. -/
def filename : AttributeFlags := ⟨4⟩

/-- A change of the attribute needs no reload of geometry. -/
def canSkipGeomReload : AttributeFlags := ⟨8⟩

/-- The flags with the word used for each in reports. -/
def named : List (AttributeFlags × String) :=
  [(blurrable, "blurrable"), (enumerable, "enumerable"), (filename, "filename"),
    (canSkipGeomReload, "can-skip-geom-reload")]

/-- The flags of both. -/
def union (a b : AttributeFlags) : AttributeFlags := ⟨a.bits ||| b.bits⟩

/-- Whether all flags of `b` are among those of `a`. -/
def has (a b : AttributeFlags) : Bool := a.bits &&& b.bits == b.bits

/-- Whether there is no flag. -/
def isEmpty (a : AttributeFlags) : Bool := a.bits == 0

/-- The words of the flags that are set, separated by commas. -/
def display (a : AttributeFlags) : String :=
  ", ".intercalate ((named.filter fun (f, _) => a.has f).map (·.2))

end AttributeFlags

namespace Interface

/-- No role. -/
def empty : Interface := ⟨0⟩

/-- An object of no particular role; every class starts with it. -/
def generic : Interface := ⟨1⟩

/-- The role of a light. -/
def light : Interface := ⟨16⟩

/-- The words for the bits, from the lowest. -/
def names : List String :=
  ["GENERIC", "GEOMETRY", "GEOMETRY_SET", "LAYER", "LIGHT", "LIGHT_SET", "LIGHT_FILTER",
    "MATERIAL", "MAP", "DISPLACEMENT", "VOLUME_SHADER", "CAMERA", "ENV_MAP", "RENDER_OUTPUT",
    "USER_DATA", "SCENE_VARIABLES"]

/-- The roles of both. -/
def union (a b : Interface) : Interface := ⟨a.bits ||| b.bits⟩

/-- Whether all roles of `b` are among those of `a`. -/
def has (a b : Interface) : Bool := a.bits &&& b.bits == b.bits

/-- Whether there is no role. -/
def isEmpty (a : Interface) : Bool := a.bits == 0

/-- The words of the roles, separated by bars, or `NONE`. -/
def display (a : Interface) : String :=
  match names.zipIdx.filter fun (_, i) => a.has ⟨1 <<< UInt32.ofNat i⟩ with
  | [] => "NONE"
  | found => " | ".intercalate (found.map (·.1))

end Interface

end SceneSchema
