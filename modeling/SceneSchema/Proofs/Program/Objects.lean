import SceneSchema.Proofs.Object.Columns
import SceneSchema.Proofs.Program.Invariant
import SceneSchema.Schema.TestLight

/-!
# The objects of a program

Reading an object by key trusts the type of the key, and writing does not even look at the type that
the place had before. `Program.Issued` are the keys that a program can come by, and the **main
statement** (`Program.object_as_declared`) is that this trust is well placed: every object that a
program holds has, for each attribute of its class, one mark and one value of the declared type;
issued keys of its class read such a value, other issued keys are refused as foreign, and no access
to the object's columns is out of range.

It holds of objects made in any of the ways there are, after any calls, and of keys issued at any
time.
-/

namespace SceneSchema

namespace Program

/-- The program has got the key from a class, or can get it by asking a class for it by name. -/
def Issued (p : Program) (k : AnyKey) : Prop :=
  k ∈ p.keys ∨ ∃ c ∈ p.classes, ∃ n, c.key n k.type = .ok k.key

variable {p : Program}

/-- Issued keys keep their promise to every class. -/
theorem Sound.vouches_of_issued (h : p.Sound) {k : AnyKey} (issued : p.Issued k) {c : SceneClass}
    (seen : c ∈ p.classes) : c.Vouches k.key := by
  rcases issued with there | ⟨d, seen', n, asked⟩
  · exact (h.keys k there).2 c seen
  · obtain ⟨own', type⟩ := (h.classes d seen').issued_of_key asked
    intro own
    obtain rfl := h.unique d seen' c seen (own'.symm.trans own)
    exact type

/-- **Every object is as its class declares.** Its two columns have a place for each attribute, with
a value of the declared type. Reading it with an issued key of its class succeeds, and gives the
value in the place; with an issued key of another class it fails, and not because of the type.
Whatever is called with whatever key, number, value or buffer, no access to the columns is out of
range, and what comes of it is what comes of the call on the object. -/
theorem object_as_declared (ops : List Operation) {o : SceneObject}
    (held : o ∈ (run {} ops).objects) :
    o.sceneClass ∈ (run {} ops).classes ∧
      o.columns.values.length = o.sceneClass.count ∧
      o.columns.marks.length = o.sceneClass.count ∧
      (∀ (i : Nat) (a : Attribute), o.sceneClass.attributes[i]? = some a →
        ∃ v, o.columns.values[i]? = some v ∧ v.type = a.type) ∧
      (∀ k, (run {} ops).Issued k → k.key.owner = o.sceneClass.id →
        ∃ d : k.type.Data,
          o.get k.key = .ok d ∧ o.columns.values[k.key.index]? = some ⟨k.type, d⟩) ∧
      (∀ k, (run {} ops).Issued k → ∀ name declared expected,
        o.get k.key ≠ .error (.typeMismatch name declared expected)) ∧
      (∀ (t : ValueType) (k : Key t),
        o.columns.get k = some (o.get k) ∧ o.columns.isDirty k = some (o.isDirty k)) ∧
      ∀ k : Call, o.columns.run k = some ((k.run o).map SceneObject.columns) := by
  have sound := sound_run ops
  obtain ⟨seen, typed⟩ := sound.objects o held
  have length : o.slots.length = o.sceneClass.count := by
    rw [typed.length_slots, SceneClass.types, List.length_map]
    rfl
  refine ⟨seen, o.length_values.trans length, o.length_marks.trans length, ?_, ?_, ?_, ?_, ?_⟩
  · intro i a row
    exact typed.exists_value (SceneClass.types_getElem?_eq_some_iff.2 ⟨a, row, rfl⟩)
  · intro k issued own
    exact typed.get_of_vouches (sound.vouches_of_issued issued seen) own
  · intro k issued name declared expected mismatch
    by_cases own : k.key.owner = o.sceneClass.id
    · obtain ⟨d, read, -⟩ := typed.get_of_vouches (sound.vouches_of_issued issued seen) own
      rw [read] at mismatch
      cases mismatch
    · rw [SceneObject.get_of_owner_ne own] at mismatch
      cases mismatch
  · exact fun t k => ⟨o.columns_get k, o.columns_isDirty k⟩
  · exact typed.columns_run

/-- A module that exports all its entry points, with the code of a class of every type. -/
def lightPlugin : Plugin :=
  { className := "TestLight", path := "./TestLight.so", proxy := false
    library := some ⟨.present, .present, .present, .fixed TestLight.script⟩ }

/-- Built-in code that declares one attribute, with an alias. -/
def switchCode : Code :=
  .fixed { steps := [TestLight.keyed "on" ⟨.scalar .bool, true⟩ .empty,
    { action := .addAlias "on" "lit" }] }

/-- A world without files and scripts. -/
def bareWorld : World := { files := ⟨[], [], [], []⟩, scripts := [], load := fun _ => none }

/-- A module and a registry make an object each, and keys are asked for, one of them with a type
that is not its attribute's. Then a copy of the one object is written to by key, and further calls
fail: since a key is of the other class, since a value has another type, and since a buffer is too
short. -/
def workshop : List Operation :=
  [.newClass "TestLight", .declareBy ⟨1⟩ lightPlugin [], .createBy ⟨1⟩ lightPlugin [] "fill",
    .newRegistry [] false, .addBuiltin 0 "Switch" switchCode,
    .createIn 0 bareWorld "Switch" "main",
    .ask ⟨2⟩ "lit" (.scalar .bool), .ask ⟨1⟩ "brightness" (.scalar .float),
    .ask ⟨1⟩ "seed" (.scalar .float), .copyObject 1,
    .call 2 (.set (t := .scalar .bool) ⟨⟨2⟩, 0⟩ false),
    .call 2 (.set (t := .scalar .float) ⟨⟨1⟩, 1⟩ Single.one),
    .call 2 (.setValueAt 0 ⟨.scalar .int, (3 : Int32)⟩), .call 2 (.restore [1, 2, 3])]

/-- The copy in the end. -/
def offSwitch : SceneObject :=
  { sceneClass :=
      { id := ⟨2⟩
        name := "Switch"
        attributes :=
          [{ Attribute.new "on" ⟨.scalar .bool, true⟩ .empty 0 with aliases := ["lit"] }]
        names := [("lit", 0), ("on", 0)]
        finalized := true }
    name := "main"
    interface := .generic
    slots := [⟨⟨.scalar .bool, false⟩, true⟩] }

/-- The statement at the copy: a key of its class, a key of the other class, and a buffer. -/
theorem object_as_declared_offSwitch :
    offSwitch ∈ (run {} workshop).objects ∧
      (∃ d : Bool, offSwitch.get (t := .scalar .bool) ⟨⟨2⟩, 0⟩ = .ok d ∧
        offSwitch.columns.values[0]? = some ⟨.scalar .bool, d⟩) ∧
      (∀ name declared expected, offSwitch.get (t := .scalar .float) ⟨⟨1⟩, 1⟩ ≠
        .error (.typeMismatch name declared expected)) ∧
      offSwitch.columns.run (.restore [1, 2, 3]) =
        some ((offSwitch.restore [1, 2, 3]).map SceneObject.columns) := by
  have held : offSwitch ∈ (run {} workshop).objects := by decide +kernel
  have own : ⟨.scalar .bool, ⟨⟨2⟩, 0⟩⟩ ∈ (run {} workshop).keys := by decide +kernel
  have foreign : ⟨.scalar .float, ⟨⟨1⟩, 1⟩⟩ ∈ (run {} workshop).keys := by decide +kernel
  obtain ⟨-, -, -, -, reads, mismatch, -, calls⟩ := object_as_declared workshop held
  exact ⟨held, reads _ (.inl own) rfl, mismatch _ (.inl foreign), calls (.restore [1, 2, 3])⟩

end Program

end SceneSchema
