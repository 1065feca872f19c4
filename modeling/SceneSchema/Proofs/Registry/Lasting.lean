import SceneSchema.Proofs.Registry.Sessions

/-!
# What a registry keeps, it keeps for good

`Session.StandsBy` says what it means for a registry to have a class under a name: loading the name
and asking for it give the class and do nothing else, and declaring it gives the class or fails.

* `Session.standsBy_of_class?` — a registry stands by every class that it keeps.
* `Session.class?_of_answer` — what a caller is given under a name is kept under it.
* `Session.registry_of_failed`, `Session.class?_create` — a load or declaration that fails leaves
  the registry as it was, and creating an object leaves what loading its class leaves.

**Main statement** (`Session.stands_by_run`): this holds at any time, of any registry, whoever asks
it for what, and however files and scripts change in between; and a class stays what it was when it
was first kept.
-/

namespace SceneSchema

/-- The turn asks for the class of a name. -/
def Turn.AsksFor (t : Turn) (name : String) : Prop :=
  t.request = .load name ∨ t.request = .declare name ∨ t.request = .get name

/-- The class that a caller is given, if it is given one. -/
def Answer.class? : Answer → Option SceneClass
  | .given (.ok c) => some c
  | .found kept => kept
  | _ => none

namespace Session

/-- Under the name there is the class to be had and nothing else. -/
structure StandsBy (s : Session) (name : String) (c : SceneClass) : Prop where
  /-- The class has the name, -/
  name_eq : c.name = name
  /-- and is closed. -/
  finalized : c.finalized = true
  /-- Loading gives the class, whatever files and scripts there are. It uses up no identity, so no
  declaration is run, and it asks nothing of a module. -/
  load (w : World) (elsewhere : Nat) :
    s.turn ⟨.load name, w, elsewhere⟩ = (.given (.ok c), s.skip elsewhere)
  /-- To ask for the class gives it, and changes nothing. -/
  get (w : World) (elsewhere : Nat) :
    s.turn ⟨.get name, w, elsewhere⟩ = (.found (some c), s.skip elsewhere)
  /-- Declaring runs a declaration and gives the class that is kept, if anything. -/
  declare (w : World) (elsewhere : Nat) (d : SceneClass) :
    s.answer ⟨.declare name, w, elsewhere⟩ = .given (.ok d) → d = c

variable {s : Session} {name : String} {c : SceneClass}

/-- **A registry stands by every class that it keeps.** -/
theorem standsBy_of_class? (h : s.Sound) (kept : s.registry.class? name = some c) :
    s.StandsBy name c := by
  obtain ⟨l, there, rfl⟩ := Option.map_eq_some_iff.1 kept
  have fits := h name l there
  refine ⟨fits.name_eq, fits.finalized, fun w elsewhere => ?_, fun w elsewhere => ?_,
    fun w elsewhere d given => ?_⟩
  · simp only [turn, Registry.load_of_get? there, Except.map]
    rfl
  · simp only [turn, kept]
    rfl
  · simp only [answer, turn] at given
    rcases s.registry.declare_cases w name (s.ids.skip elsewhere) with
      ⟨e, run⟩ | ⟨l', there', run⟩ | ⟨l', new, -, run⟩
    all_goals rw [run] at given
    · cases given
    · obtain rfl := Option.some.inj (there.symm.trans there')
      cases given
      rfl
    · rw [new] at there
      cases there

/-- What a caller is given under a name is kept under it from then on. -/
theorem class?_of_answer {t : Turn} (asked : t.AsksFor name)
    (given : (s.answer t).class? = some c) : (s.next t).registry.class? name = some c := by
  obtain ⟨request, w, elsewhere⟩ := t
  simp only [answer, next, turn] at given ⊢
  obtain rfl | rfl | rfl := asked
  · dsimp only at given ⊢
    rcases s.registry.load_cases w name (s.ids.skip elsewhere) with
      ⟨l, kept, run⟩ | ⟨-, ⟨e, -, run⟩ | ⟨l, -, run⟩⟩
    all_goals rw [run] at given ⊢; cases given
    · exact congrArg (Option.map LoadedClass.sceneClass) kept
    · exact Registry.class?_keep_self _ name l
  · dsimp only at given ⊢
    rcases s.registry.declare_cases w name (s.ids.skip elsewhere) with
      ⟨e, run⟩ | ⟨l, kept, run⟩ | ⟨l, -, -, run⟩
    all_goals rw [run] at given ⊢; cases given
    · exact congrArg (Option.map LoadedClass.sceneClass) kept
    · exact Registry.class?_keep_self _ name l
  · exact given

/-- A load or a declaration that fails leaves the registry as it was, whether it returns or not. -/
theorem registry_of_failed {t : Turn} {e : Failure} (failed : s.answer t = .given (.error e)) :
    (s.next t).registry = s.registry := by
  obtain ⟨request, w, elsewhere⟩ := t
  simp only [answer, next, turn] at failed ⊢
  cases request with
  | load name =>
    dsimp only at failed ⊢
    rcases s.registry.load_cases w name (s.ids.skip elsewhere) with
      ⟨l, -, run⟩ | ⟨-, ⟨e', -, run⟩ | ⟨l, -, run⟩⟩
    all_goals rw [run] at failed
    · cases failed
    · rw [run]
    · cases failed
  | declare name =>
    dsimp only at failed ⊢
    rcases s.registry.declare_cases w name (s.ids.skip elsewhere) with
      ⟨e', run⟩ | ⟨l, -, run⟩ | ⟨l, -, -, run⟩
    all_goals rw [run] at failed
    · rw [run]
    · cases failed
    · cases failed
  | get | create | make | addBuiltin => cases failed

/-- Making an object changes no class that is kept. -/
theorem class?_make (s : Session) (w : World) (elsewhere : Nat) (name object other : String) :
    (s.next ⟨.make name object, w, elsewhere⟩).registry.class? other = s.registry.class? other :=
  s.registry.class?_make w name object (s.ids.skip elsewhere) other

/-- Creating an object leaves the classes that were kept, or those and its own class, which could be
loaded. -/
theorem class?_create (s : Session) (w : World) (elsewhere : Nat) (name object : String) :
    (∀ other, (s.next ⟨.create name object, w, elsewhere⟩).registry.class? other =
        s.registry.class? other) ∨
      ∃ c, s.registry.class? name = none ∧
        s.answer ⟨.load name, w, elsewhere⟩ = .given (.ok c) ∧
        ∀ other, (s.next ⟨.create name object, w, elsewhere⟩).registry.class? other =
          if other = name then some c else s.registry.class? other := by
  have same : ∀ other, (s.next ⟨.create name object, w, elsewhere⟩).registry.class? other =
      (s.next ⟨.load name, w, elsewhere⟩).registry.class? other := by
    intro other
    rcases s.next_create w elsewhere name object with same | same
    all_goals rw [same]
    exact class?_make _ w 0 name object other
  simp only [same]
  simp only [answer, next, turn]
  rcases s.registry.load_cases w name (s.ids.skip elsewhere) with
    ⟨l, -, run⟩ | ⟨new, ⟨e, -, run⟩ | ⟨l, -, run⟩⟩
  all_goals rw [run]
  · exact .inl fun _ => rfl
  · exact .inl fun _ => rfl
  · refine .inr ⟨l.sceneClass, congrArg (Option.map LoadedClass.sceneClass) new, rfl, ?_⟩
    intro other
    split
    · rename_i here
      rw [here]
      exact s.registry.class?_keep_self name l
    · rename_i apart
      exact s.registry.class?_keep_of_ne apart l

/-- **What a registry keeps, it keeps for good.** It stands by each class that it keeps, and it
stands by the very same class after any further turns. What a caller is given under a name, it
keeps. A load or declaration that fails leaves it as it was, whether it returns an error or does not
return at all. Creating an object adds at most the
object's own class, if that could be loaded, and what is done about an object once its class is
loaded changes no class. -/
theorem stands_by_run (reached : s.Reached) (after : List Turn) :
    (∀ name c, s.registry.class? name = some c →
      s.StandsBy name c ∧ (s.run after).StandsBy name c) ∧
      (∀ t name c, t.AsksFor name → (s.answer t).class? = some c →
        (s.next t).registry.class? name = some c) ∧
      (∀ t e, s.answer t = .given (.error e) → (s.next t).registry = s.registry) ∧
      (∀ w elsewhere name object,
        (∀ other, (s.next ⟨.create name object, w, elsewhere⟩).registry.class? other =
          s.registry.class? other) ∨
        ∃ c, s.registry.class? name = none ∧
          s.answer ⟨.load name, w, elsewhere⟩ = .given (.ok c) ∧
          ∀ other, (s.next ⟨.create name object, w, elsewhere⟩).registry.class? other =
            if other = name then some c else s.registry.class? other) ∧
      ∀ w elsewhere name object other,
        (s.next ⟨.make name object, w, elsewhere⟩).registry.class? other =
          s.registry.class? other := by
  have sound := reached.sound
  refine ⟨fun name c kept => ⟨standsBy_of_class? sound kept, ?_⟩, ?_, ?_, ?_, ?_⟩
  · exact standsBy_of_class? (sound.run after) ((s.keeps_run after).class?_eq name c kept)
  · exact fun t name c asked given => class?_of_answer asked given
  · exact fun t e failed => registry_of_failed failed
  · exact fun w elsewhere name object => s.class?_create w elsewhere name object
  · exact fun w elsewhere name object other => s.class?_make w elsewhere name object other

/-! ### A registry whose scripts change -/

/-- A world without files, in which nothing can be loaded. -/
def bareWorld (scripts : Scripts) : World :=
  { files := { root := [], workDir := [], programDir := [] }, scripts, load := fun _ => none }

/-- Such a world in which one class declares a single attribute. -/
def lampWorld (row : String) : World :=
  bareWorld [("Lamp", {
    steps := [{ action := .declare row ⟨.scalar .bool, true⟩ .empty none }]
    creation := .foreign })]

/-- The class is built in and has been loaded; another class could not be. -/
def litSession : Session :=
  (opened [] false).run
    [⟨.addBuiltin "Lamp" .scripted, lampWorld "on", 0⟩, ⟨.load "Torch", lampWorld "on", 0⟩,
      ⟨.load "Lamp", lampWorld "on", 2⟩]

/-- The class as it was loaded. -/
def litClass : SceneClass :=
  { id := ⟨4⟩
    name := "Lamp"
    attributes := [.new "on" ⟨.scalar .bool, true⟩ .empty 0]
    names := [("on", 0)]
    finalized := true }

/-- The script of the class has changed, so that declaring it again fails. Then its code is
exchanged, and an object is asked for, which its code makes of another class. -/
def laterTurns : List Turn :=
  [⟨.declare "Lamp", lampWorld "lit", 0⟩,
    ⟨.addBuiltin "Lamp" (.fixed { interface := .empty }), lampWorld "lit", 1⟩,
    ⟨.declare "Lamp", lampWorld "lit", 0⟩, ⟨.create "Lamp" "key", lampWorld "lit", 0⟩]

/-- The registry stands by the class throughout, though no redeclaration succeeds. -/
theorem stands_by_run_litSession :
    litSession.Reached ∧ litSession.registry.class? "Lamp" = some litClass ∧
      litSession.answer ⟨.declare "Lamp", lampWorld "lit", 0⟩ =
        .given (.error (.returned (.conflictingDeclaration "Lamp"))) ∧
      litSession.StandsBy "Lamp" litClass ∧
      (litSession.run laterTurns).StandsBy "Lamp" litClass := by
  have reached : litSession.Reached := ⟨_, _, _, rfl⟩
  have kept : litSession.registry.class? "Lamp" = some litClass := by decide +kernel
  obtain ⟨stands, -⟩ := stands_by_run reached laterTurns
  exact ⟨reached, kept, rfl, stands _ _ kept⟩

end Session

end SceneSchema
