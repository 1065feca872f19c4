import SceneSchema.Proofs.Program.Invariant
import SceneSchema.Proofs.Registry.Redeclaring
import SceneSchema.Proofs.Snapshot.Restore

/-!
# Classes that declare the same are interchangeable

Two classes are compared by their names, roles and rows. A client of a class sees none of these
first: it looks attributes up by name, in a table that is not compared and that has the aliases in
the order in which they were added, it asks for keys, and it exchanges snapshots, which know only
the types of slots. What ties all of it to the rows is the soundness of the class.

* `SceneClass.SameRows` — the rows are the same but for the signs of zeros in defaults. Unlike
  comparing equal, this is symmetric at first sight, and does not ask what the defaults hold.
* `SceneClass.ActsLike` — what a client of the one class can do it can do with the other, to the
  same slots and with the same errors.
* `SameRows.find?_eq_some` — a name leads to the same slot, whatever the tables of names are.

**Main statement** (`Program.actsLike_of_sameDeclaration`): classes that compare equal act like each
other, whatever was done to either of them.
-/

namespace SceneSchema

namespace SceneClass

/-- The rows of the classes are the same, but for the signs of zeros in defaults. -/
def SameRows (a b : SceneClass) : Prop := a.unsignedRows = b.unsignedRows

/-- The one class does for its clients what the other does. -/
structure ActsLike (a b : SceneClass) : Prop where
  /-- A name that leads to a slot leads to that slot in the other class, where the row is the same
  but for the signs of zeros, -/
  find?_some (n : String) (x : Attribute) : a.find? n = some x → a.attributes[x.index]? = some x ∧
    ∃ y, b.find? n = some y ∧ b.attributes[x.index]? = some y ∧ x.unsignedZeros = y.unsignedZeros
  /-- and one that leads nowhere leads nowhere there. -/
  find?_none (n : String) : a.find? n = none → b.find? n = none
  /-- A key that is issued under a name is issued there for the same slot, -/
  key_ok (n : String) (t : ValueType) (k : Key t) :
    a.key n t = .ok k → b.key n t = .ok ⟨⟨b.id, k.index⟩⟩
  /-- and one that is refused is refused there for the same reason. -/
  key_error (n : String) (t : ValueType) (e : Error) : a.key n t = .error e → b.key n t = .error e
  /-- Values for the slots of the one class are values for those of the other, -/
  types_eq : a.types = b.types
  /-- and the snapshot of an object that has them can be restored into any object there. -/
  restores (vs : List Value) (o target : SceneObject) : vs.map Value.type = a.types →
    o.sceneClass = a → o.values = vs → target.sceneClass = b → target.WellTyped →
      o.snapshot.length < 2 ^ 64 → ∃ result, target.restore o.snapshot = .ok result ∧
        result.values = vs ∧ result.sceneClass = b

/-! ### Rows that are the same but for signs -/

variable {a b : SceneClass}

/-- Having the same rows goes both ways. -/
theorem SameRows.symm (h : a.SameRows b) : b.SameRows a := Eq.symm h

/-- Classes that compare equal have one name and the same rows. -/
theorem sameRows_of_sameDeclaration (same : a.sameDeclaration b = true) :
    a.name = b.name ∧ a.SameRows b := by
  obtain ⟨name, -, -, rows⟩ := (sameDeclaration_iff a b).1 same
  exact ⟨name, rows⟩

/-- Each row has its counterpart in its place. -/
theorem SameRows.row (h : a.SameRows b) {i : Nat} {x : Attribute}
    (there : a.attributes[i]? = some x) :
    ∃ y, b.attributes[i]? = some y ∧ x.unsignedZeros = y.unsignedZeros := by
  have place := congrArg (·[i]?) h
  simp only [unsignedRows, List.getElem?_map, there, Option.map_some] at place
  obtain ⟨y, there', same⟩ := Option.map_eq_some_iff.1 place.symm
  exact ⟨y, there', same.symm⟩

end SceneClass

/-- What rows have in common that are the same but for signs: all of their names, their number, and
their type, since a zero keeps its type when it loses its sign. -/
theorem Attribute.common_of_unsignedZeros {x y : Attribute}
    (same : x.unsignedZeros = y.unsignedZeros) :
    x.name = y.name ∧ x.allNames = y.allNames ∧ x.index = y.index ∧ x.type = y.type :=
  have each {β : Type} (field : Attribute → β) : field x.unsignedZeros = field y.unsignedZeros :=
    congrArg field same
  ⟨each name, each allNames, each index, each type⟩

namespace SceneClass

variable {a b : SceneClass}

/-- Classes with the same rows have the same types: a sign of a zero changes none. -/
theorem SameRows.types_eq (h : a.SameRows b) : a.types = b.types := by
  have types (c : SceneClass) : c.types = c.unsignedRows.map Attribute.type := by
    rw [unsignedRows, List.map_map]
    rfl
  rw [types a, types b, h]

/-! ### What follows for clients -/

/-- **A name leads to the same slot**, in whatever order names were added. -/
theorem SameRows.find?_eq_some (h : a.SameRows b) (sound : a.Sound) (sound' : b.Sound) {n : String}
    {x : Attribute} (found : a.find? n = some x) :
    a.attributes[x.index]? = some x ∧ ∃ y, b.find? n = some y ∧
      b.attributes[x.index]? = some y ∧ x.unsignedZeros = y.unsignedZeros := by
  obtain ⟨there, named⟩ := sound.find?_eq_some_iff.1 found
  obtain ⟨i, place⟩ := List.mem_iff_getElem?.1 there
  obtain ⟨y, place', same⟩ := h.row place
  obtain ⟨-, names, -, -⟩ := Attribute.common_of_unsignedZeros same
  have named' : n ∈ y.allNames := names ▸ named
  rw [sound.index_eq i x place]
  exact ⟨place, y, sound'.find?_eq_some_iff.2 ⟨List.mem_of_getElem? place', named'⟩, place', same⟩

/-- A name that leads nowhere in the one class leads nowhere in the other. -/
theorem SameRows.find?_eq_none (h : a.SameRows b) (sound : a.Sound) (sound' : b.Sound) {n : String}
    (missing : a.find? n = none) : b.find? n = none := by
  rcases found : b.find? n with _ | y
  · rfl
  · obtain ⟨-, x, found', -⟩ := h.symm.find?_eq_some sound' sound found
    rw [missing] at found'
    cases found'

/-- A snapshot of the one class's objects is one of the other's, since only the types count. -/
theorem restore_of_types_eq (types : a.types = b.types) {o target : SceneObject}
    (ofA : o.sceneClass = a) (typed : o.WellTyped) (ofB : target.sceneClass = b)
    (typedTarget : target.WellTyped) (fits : o.snapshot.length < 2 ^ 64) :
    ∃ result, target.restore o.snapshot = .ok result ∧ result.values = o.values ∧
      result.sceneClass = b := by
  have isSnapshot : o.IsSnapshot o.snapshot := .inl rfl
  have sameTypes : o.sceneClass.types = target.sceneClass.types := by rw [ofA, ofB, types]
  have record := isSnapshot.record typed fits
  rw [sameTypes] at record
  have restored := SceneObject.restore_of_record (isSnapshot.headerAccepted fits) fits record
  exact ⟨_, restored, typedTarget.values_replaceValues record.types_eq,
    (SceneObject.sceneClass_of_restore restored).trans ofB⟩

/-- **Sound classes of the same name and rows act like each other.** -/
theorem SameRows.actsLike (h : a.SameRows b) (name : a.name = b.name) (sound : a.Sound)
    (sound' : b.Sound) : a.ActsLike b where
  find?_some n x found := h.find?_eq_some sound sound' found
  find?_none n missing := h.find?_eq_none sound sound' missing
  key_ok n t k issued := by
    obtain ⟨x, found, type, rfl⟩ := key_eq_ok_iff.1 issued
    obtain ⟨-, y, found', -, same⟩ := h.find?_eq_some sound sound' found
    obtain ⟨-, -, index, type'⟩ := Attribute.common_of_unsignedZeros same
    exact key_eq_ok_iff.2 ⟨y, found', type'.symm.trans type, by rw [index]⟩
  key_error n t e refused := by
    unfold key at refused ⊢
    rcases found : a.find? n with _ | x
    · rw [found, name] at refused
      rw [h.find?_eq_none sound sound' found]
      exact refused
    · obtain ⟨-, y, found', -, same⟩ := h.find?_eq_some sound sound' found
      obtain ⟨names, -, -, types⟩ := Attribute.common_of_unsignedZeros same
      by_cases type : x.type = t
      · simp only [found, if_pos type] at refused
        cases refused
      · simp only [found, if_neg type] at refused
        simp only [found', ← types, if_neg type, ← names]
        exact refused
  types_eq := h.types_eq
  restores vs o target valid ofA values ofB typedTarget fits := by
    have typed : o.WellTyped := ⟨by rw [values, valid, ofA], by rw [ofA]; exact sound.typed⟩
    rw [← values]
    exact restore_of_types_eq h.types_eq ofA typed ofB typedTarget fits

end SceneClass

namespace Program

/-- **Classes that compare equal act like each other.** Take two classes that programs have seen,
the same program or two, after whatever was done to them, with success or without. If they compare
equal, then under every name a client of the one finds the same slot as a client of the other, is
issued the key of the same slot, and is given the same errors; and whatever values an object of the
one has, its snapshot is restored into objects of the other with these values. -/
theorem actsLike_of_sameDeclaration (ops ops' : List Operation) {a b : SceneClass}
    (seen : a ∈ (run {} ops).classes) (seen' : b ∈ (run {} ops').classes)
    (same : a.sameDeclaration b = true) : a.ActsLike b ∧ b.ActsLike a := by
  have sound := (sound_run ops).classes a seen
  have sound' := (sound_run ops').classes b seen'
  obtain ⟨name, rows⟩ := SceneClass.sameRows_of_sameDeclaration same
  exact ⟨rows.actsLike name sound sound', rows.symm.actsLike name.symm sound' sound⟩

/-- Two classes of one name are declared with the same rows, but for the sign of a zero, and are
given the same aliases in different orders. -/
def twoGauges : List Operation :=
  [.newClass "Gauge", .newClass "Gauge",
    .edit ⟨1⟩ (.declare "level" ⟨.scalar .float, Single.zero⟩ .empty),
    .edit ⟨1⟩ (.declare "unit" ⟨.scalar .string, "K"⟩ .empty),
    .edit ⟨2⟩ (.declare "level" ⟨.scalar .float, Single.negativeZero⟩ .empty),
    .edit ⟨2⟩ (.declare "unit" ⟨.scalar .string, "K"⟩ .empty),
    .edit ⟨1⟩ (.addAlias ⟨⟨1⟩, 0⟩ "height"),
    .edit ⟨1⟩ (.addAlias ⟨⟨1⟩, 1⟩ "scale"),
    .edit ⟨2⟩ (.addAlias ⟨⟨2⟩, 1⟩ "scale"),
    .edit ⟨2⟩ (.addAlias ⟨⟨2⟩, 0⟩ "height")]

/-- One of them, with a sign and a table of names of its own. -/
def gaugeSchema (id : ClassId) (level : Single) (names : List (String × Nat)) : SceneClass :=
  { id
    name := "Gauge"
    attributes := [
      { Attribute.new "level" ⟨.scalar .float, level⟩ .empty 0 with aliases := ["height"] },
      { Attribute.new "unit" ⟨.scalar .string, "K"⟩ .empty 1 with aliases := ["scale"] }]
    names }

/-- The first of them. -/
def heightFirst : SceneClass :=
  gaugeSchema ⟨1⟩ .zero [("scale", 1), ("height", 0), ("unit", 1), ("level", 0)]

/-- The second of them. -/
def scaleFirst : SceneClass :=
  gaugeSchema ⟨2⟩ .negativeZero [("height", 0), ("scale", 1), ("unit", 1), ("level", 0)]

/-- The statement at the two: their tables of names differ, and an alias leads to the same slot. An
object of the one is restored from the snapshot of an object of the other. -/
theorem actsLike_of_sameDeclaration_twoGauges :
    heightFirst ∈ (run {} twoGauges).classes ∧ scaleFirst ∈ (run {} twoGauges).classes ∧
      heightFirst.sameDeclaration scaleFirst = true ∧ heightFirst.names ≠ scaleFirst.names ∧
      scaleFirst.key "height" (.scalar .float) = .ok ⟨⟨⟨2⟩, 0⟩⟩ ∧
      heightFirst.key "scale" (.scalar .float) =
        .error (.typeMismatch "unit" (.scalar .string) (.scalar .float)) ∧
      ∃ result, (SceneObject.new heightFirst "left").restore
          (SceneObject.new scaleFirst "right").snapshot = .ok result ∧
        result.values = scaleFirst.defaults := by
  have seen : heightFirst ∈ (run {} twoGauges).classes := by decide +kernel
  have seen' : scaleFirst ∈ (run {} twoGauges).classes := by decide +kernel
  have same : heightFirst.sameDeclaration scaleFirst = true := by decide +kernel
  obtain ⟨like, like'⟩ := actsLike_of_sameDeclaration twoGauges twoGauges seen seen' same
  obtain ⟨result, restored, values, -⟩ := like'.restores scaleFirst.defaults
    (.new scaleFirst "right") (.new heightFirst "left") rfl rfl (SceneObject.values_new _ _) rfl
    (SceneObject.wellTyped_new (by decide +kernel) "left") (by decide +kernel)
  exact ⟨seen, seen', same, by decide, like.key_ok "height" _ ⟨⟨⟨1⟩, 0⟩⟩ rfl,
    like'.key_error "scale" _ _ rfl, result, restored, values⟩

end Program

end SceneSchema
