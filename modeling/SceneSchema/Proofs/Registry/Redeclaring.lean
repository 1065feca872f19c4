import SceneSchema.Proofs.Registry.Lasting
import SceneSchema.Proofs.Registry.Twins
import SceneSchema.Proofs.Value.Comparison

/-!
# Declaring a class once more

Declaring a class that is kept runs its declaration anew and compares what comes of it with what is
kept. The rows of the two are compared as values are: with the defaults by `Value.same`, which sees
no sign of a zero and takes a value that holds a NaN for different from itself.

* `SceneClass.sameDeclaration_iff` — two classes compare equal exactly if they have the same name,
  roles and rows, but for the signs of zeros in defaults, and no default holds a NaN.
* `Registry.finished_of_declareFresh` — a declaration runs one script (`Registry.script?`), the one
  of the built-in code or of the module.

**Main statement** (`Session.declare_of_loaded`): what is answered when a class that was loaded is
declared once more, and when that is what its rows call for. The same script may be declared again
exactly if no default of the class holds a NaN.
-/

namespace SceneSchema

/-! ### Rows and classes that compare equal -/

/-- The row with a default that has zeros without their sign. -/
def Attribute.unsignedZeros (a : Attribute) : Attribute :=
  { a with default := a.default.unsignedZeros }

/-- Rows compare equal if the first has no NaN in its default and they are the same but for signs
of zeros. -/
theorem Attribute.same_iff (a b : Attribute) :
    a.same b = true ↔ a.default.holdsNaN = false ∧ a.unsignedZeros = b.unsignedZeros := by
  obtain ⟨name, type, default, flags, index, aliases, metadata, enumTexts, group⟩ := a
  obtain ⟨name', type', default', flags', index', aliases', metadata', enumTexts', group'⟩ := b
  simp only [same, Bool.and_eq_true, Value.same_iff, decide_eq_true_eq, unsignedZeros, mk.injEq,
    true_and]
  tauto

namespace SceneClass

/-- The rows, with zeros without their sign in the defaults. -/
def unsignedRows (c : SceneClass) : List Attribute := c.attributes.map Attribute.unsignedZeros

/-- Whether there is a NaN in any default. -/
def defaultsHoldNaN (c : SceneClass) : Bool := c.attributes.any (·.default.holdsNaN)

/-- **Classes compare equal** if they have the same name, roles and rows, but for the signs of
zeros, and there is no NaN in a default. -/
theorem sameDeclaration_iff (c d : SceneClass) : c.sameDeclaration d = true ↔
    c.name = d.name ∧ c.interface = d.interface ∧
      c.defaultsHoldNaN = false ∧ c.unsignedRows = d.unsignedRows := by
  rw [sameDeclaration, Bool.and_eq_true, Bool.and_eq_true, beq_iff_eq, beq_iff_eq, and_assoc,
    isEqv_iff Attribute.same_iff]
  rfl

/-- Classes with one list of attributes have the same rows. -/
theorem unsignedRows_eq_of_attributes_eq {c d : SceneClass} (same : c.attributes = d.attributes) :
    c.unsignedRows = d.unsignedRows := congrArg (List.map Attribute.unsignedZeros) same

end SceneClass

/-! ### What a declaration runs -/

/-- A module that declares a class with success has the code for it, and the class is what comes of
the code. -/
theorem Plugin.finished_of_declare {p p' : Plugin} {scripts : Scripts} {c c' : SceneClass}
    {i : Interface} (run : p.declare scripts c = (.ok i, c', p')) :
    ∃ code, (p.resolve .declare).1 = .ok code ∧
      (code.script scripts c.name).finished c = .ok c' := by
  rcases resolved : (p.resolve .declare).1 with e | code
  · unfold declare at run
    generalize p.resolve .declare = answer at resolved run
    obtain ⟨_, q⟩ := answer
    obtain rfl := resolved
    cases run
  · have finished := finished_of_resolve resolved scripts c
    rw [run] at finished
    exact ⟨code, rfl, finished.symm⟩

namespace Registry

variable {r : Registry} {w : World} {name : String} {ids : IdSource} {l : LoadedClass}

/-- The script that declares the class: that of the built-in code, or that of the module which is
found on the search path. -/
def script? (r : Registry) (w : World) (name : String) : Option Script :=
  match r.builtins.lookup name with
  | some code => some (code.script w.scripts name)
  | none => do
      let p ← (Plugin.acquire w name r.dirs r.proxy).toOption
      let code ← (p.resolve .declare).1.toOption
      some (code.script w.scripts name)

/-- A class that is declared is what comes of the script. -/
theorem finished_of_declareFresh (run : (r.declareFresh w name ids).1 = .ok l) :
    ∃ s, r.script? w name = some s ∧ s.finished (.new ids.fresh name) = .ok l.sceneClass := by
  cases declaredBy_of_declareFresh run with
  | @builtin code i c found ended =>
    refine ⟨code.script w.scripts name, by simp only [script?, found], ?_⟩
    rw [Script.finished, ended]
  | @plugin p q i c foreign acquired ended =>
    obtain ⟨code, resolved, finished⟩ := Plugin.finished_of_declare ended
    refine ⟨_, ?_, finished⟩
    simp [script?, foreign, acquired, Except.toOption, resolved, SceneClass.new]

/-- With the same script a class is declared alike, whatever its identity. -/
theorem withId_of_script? {r' : Registry} {w' : World} {ids' : IdSource} {l' : LoadedClass}
    (run : (r.declareFresh w name ids).1 = .ok l) (run' : (r'.declareFresh w' name ids').1 = .ok l')
    (same : r.script? w name = r'.script? w' name) :
    l'.sceneClass = l.sceneClass.withId ids'.fresh := by
  obtain ⟨s, script, finished⟩ := finished_of_declareFresh run
  obtain ⟨s', script', finished'⟩ := finished_of_declareFresh run'
  obtain rfl : s = s' := Option.some.inj (script.symm.trans (same.trans script'))
  have renamed := s.finished_withId (.new ids.fresh name) ids'.fresh
  rw [finished] at renamed
  exact Except.ok.inj (finished'.symm.trans renamed)

end Registry

/-! ### Redeclaring -/

namespace Session

variable {s : Session} {w w' : World} {name : String} {k k' : Nat} {c : SceneClass}
  {l : LoadedClass}

/-- What comes of running the declaration of a class in a turn. -/
def fresh (s : Session) (w : World) (k : Nat) (name : String) : Except Failure LoadedClass :=
  (s.registry.declareFresh w name (s.ids.skip k)).1

/-- The class given by a load that finds none is what its declaration gave, and is kept. -/
theorem fresh_of_load (new : s.registry.class? name = none)
    (loaded : s.answer ⟨.load name, w, k⟩ = .given (.ok c)) :
    ∃ l, s.fresh w k name = .ok l ∧ l.sceneClass = c := by
  simp only [answer, turn] at loaded
  rcases s.registry.load_cases w name (s.ids.skip k) with
    ⟨l, kept, -⟩ | ⟨-, ⟨e, -, run⟩ | ⟨l, made, run⟩⟩
  · rw [Registry.class?, kept] at new
    cases new
  all_goals rw [run] at loaded; cases loaded
  exact ⟨l, made, rfl⟩

/-- If a class is kept and its declaration succeeds once more, the two are compared. -/
theorem answer_declare_of_class? (kept : s.registry.class? name = some c)
    (declared : s.fresh w k name = .ok l) :
    s.answer ⟨.declare name, w, k⟩ = .given (if c.sameDeclaration l.sceneClass = true then .ok c
      else .error (.returned (.conflictingDeclaration name))) := by
  obtain ⟨old, there, rfl⟩ := Option.map_eq_some_iff.1 kept
  have run : s.registry.declareFresh w name (s.ids.skip k) =
      (.ok l, (s.ids.skip k).advance) := Prod.ext declared rfl
  simp only [answer, turn, Registry.declare, run, there]
  split <;> rfl

/-- The answer to a declaration of a class that is kept, from what its declaration gives by now. -/
theorem answer_declare_iff (h : s.Sound) (kept : s.registry.class? name = some c)
    (declared : s.fresh w k name = .ok l) :
    s.answer ⟨.declare name, w, k⟩ =
      .given (if c.interface = l.sceneClass.interface ∧ c.defaultsHoldNaN = false ∧
          c.unsignedRows = l.sceneClass.unsignedRows then .ok c
        else .error (.returned (.conflictingDeclaration name))) := by
  have named : c.name = l.sceneClass.name :=
    (standsBy_of_class? h kept).name_eq.trans (Registry.fits_of_declareFresh declared).name_eq.symm
  rw [answer_declare_of_class? kept declared]
  simp only [SceneClass.sameDeclaration_iff, named, true_and]

/-- Two verdicts on a class are the same answer exactly if they agree. -/
theorem given_ite_inj {p q : Prop} [Decidable p] [Decidable q] {e : Failure} :
    Answer.given (if p then .ok c else .error e) = .given (if q then .ok c else .error e) ↔
      (p ↔ q) := by
  by_cases hp : p <;> by_cases hq : q <;> simp [hp, hq]

/-- **What comes of declaring a loaded class once more.** Let a load have found no class of the name
and made one, and let the declaration of the class succeed again after any further turns. The class
that was loaded is given if the new one has the same roles and, but for the signs of zeros in
defaults, the same rows, and if no default holds a NaN; otherwise they conflict.

This is what the rows call for, to the bit, unless the new rows are the same and hold a NaN, or are
others that differ in signs of zeros alone. So a script that is run again is accepted exactly if it
declares no default that holds a NaN. -/
theorem declare_of_loaded (reached : s.Reached) (new : s.registry.class? name = none)
    (loaded : s.answer ⟨.load name, w, k⟩ = .given (.ok c)) (between : List Turn)
    (declared : ((s.next ⟨.load name, w, k⟩).run between).fresh w' k' name = .ok l) :
    let later := (s.next ⟨.load name, w, k⟩).run between
    let d := l.sceneClass
    let conflict : Except Failure SceneClass := .error (.returned (.conflictingDeclaration name))
    later.answer ⟨.declare name, w', k'⟩ =
        .given (if c.interface = d.interface ∧ c.defaultsHoldNaN = false ∧
          c.unsignedRows = d.unsignedRows then .ok c else conflict) ∧
      (later.answer ⟨.declare name, w', k'⟩ =
          .given (if c.interface = d.interface ∧ c.attributes = d.attributes then .ok c
            else conflict) ↔
        (c.interface = d.interface → c.unsignedRows = d.unsignedRows →
          (c.attributes = d.attributes ↔ c.defaultsHoldNaN = false))) ∧
      (s.registry.script? w name = later.registry.script? w' name →
        later.answer ⟨.declare name, w', k'⟩ =
          .given (if c.defaultsHoldNaN = false then .ok c else conflict)) := by
  intro later d conflict
  have kept : later.registry.class? name = some c := by
    have asked : Turn.AsksFor ⟨.load name, w, k⟩ name := .inl rfl
    have here := class?_of_answer asked (congrArg Answer.class? loaded)
    exact (keeps_run _ between).class?_eq name c here
  have verdict := answer_declare_iff ((reached.sound.next _).run between) kept declared
  refine ⟨verdict, ?_, fun same => ?_⟩
  · refine verdict ▸ given_ite_inj.trans ?_
    have rows : c.attributes = d.attributes → c.unsignedRows = d.unsignedRows :=
      SceneClass.unsignedRows_eq_of_attributes_eq
    tauto
  · obtain ⟨first, fresh, rfl⟩ := fresh_of_load new loaded
    have alike := Registry.withId_of_script? fresh declared same
    rw [verdict]
    simp only [alike, SceneClass.withId, SceneClass.unsignedRows, true_and, and_true]
    rfl

/-! ### A class with one number -/

/-- A world without files, in which a class has a number with the given default. -/
def gaugeWorld (default : Single) : World :=
  bareWorld [("Gauge", {
    steps := [{ action := .declare "level" ⟨.scalar .float, default⟩ .empty none }] })]

/-- A registry that has the class built in, and has not loaded it. -/
def gauges : Session := (opened [] false).run [⟨.addBuiltin "Gauge" .scripted, gaugeWorld .zero, 0⟩]

/-- The class with an identity and a default. -/
def gaugeClass (id : Nat) (default : Single) : SceneClass :=
  { id := ⟨id⟩
    name := "Gauge"
    attributes := [.new "level" ⟨.scalar .float, default⟩ .empty 0]
    names := [("level", 0)]
    finalized := true }

/-- The statement at a default that becomes a negative zero: the class that was loaded is given
again, though its rows are not the same to the bit. -/
theorem declare_of_loaded_gauge :
    gauges.answer ⟨.load "Gauge", gaugeWorld .zero, 0⟩ = .given (.ok (gaugeClass 1 .zero)) ∧
      (gauges.next ⟨.load "Gauge", gaugeWorld .zero, 0⟩).answer
          ⟨.declare "Gauge", gaugeWorld .negativeZero, 0⟩ = .given (.ok (gaugeClass 1 .zero)) ∧
      (gaugeClass 1 .zero).attributes ≠ (gaugeClass 2 .negativeZero).attributes := by
  have loaded : gauges.answer ⟨.load "Gauge", gaugeWorld .zero, 0⟩ =
      .given (.ok (gaugeClass 1 .zero)) := rfl
  have declared : (gauges.next ⟨.load "Gauge", gaugeWorld .zero, 0⟩).fresh
      (gaugeWorld .negativeZero) 0 "Gauge" =
        .ok ⟨gaugeClass 2 .negativeZero, .builtin .scripted⟩ := rfl
  obtain ⟨verdict, -⟩ := declare_of_loaded ⟨[], false, _, rfl⟩ rfl loaded [] declared
  have accepted : (gaugeClass 1 .zero).interface = (gaugeClass 2 .negativeZero).interface ∧
      (gaugeClass 1 .zero).defaultsHoldNaN = false ∧
      (gaugeClass 1 .zero).unsignedRows = (gaugeClass 2 .negativeZero).unsignedRows := by
    decide +kernel
  rw [if_pos accepted] at verdict
  exact ⟨loaded, verdict, by decide +kernel⟩

/-- A class whose one default is not a number conflicts with itself: the same script is run again,
in the same world, and the class that was loaded is not given. -/
theorem declare_again_conflicts :
    gauges.answer ⟨.load "Gauge", gaugeWorld .quietNaN, 0⟩ =
        .given (.ok (gaugeClass 1 .quietNaN)) ∧
      (gauges.next ⟨.load "Gauge", gaugeWorld .quietNaN, 0⟩).fresh (gaugeWorld .quietNaN) 0
          "Gauge" = .ok ⟨gaugeClass 2 .quietNaN, .builtin .scripted⟩ ∧
      (gaugeClass 1 .quietNaN).attributes = (gaugeClass 2 .quietNaN).attributes ∧
      (gauges.next ⟨.load "Gauge", gaugeWorld .quietNaN, 0⟩).answer
          ⟨.declare "Gauge", gaugeWorld .quietNaN, 0⟩ =
        .given (.error (.returned (.conflictingDeclaration "Gauge"))) :=
  ⟨rfl, rfl, rfl, rfl⟩

end Session

end SceneSchema
