import SceneSchema.Proofs.Schema.Declaration

/-!
# What can still happen to a closed class

`finalize` closes a class. Each edit asks by itself whether the class is open, at another point and
with another error, and a module that declares a class goes on to give it roles after its own code
has run, without asking.

* `edit_of_finalized` — an edit of a closed class fails, or it closes the class once more.
* `Script.run_of_finalized` — so the code of a class leaves a closed class as it is, and its
  declaration succeeds exactly if every step closes the class or may fail (`Step.Passes`).
* `Plugin.declare_of_finalized` — but a module whose declaration succeeds gives the class the roles
  that it reports.

A `Treatment` is an edit or a declaration by a module, and `SceneClass.treatAll` makes many of them,
whether they succeed or fail. **Main statement** (`closed_stays_iff`): identity, name, attribute
table and lookup of a closed class stay whatever is done to it; its roles stay as well exactly if
each module that declares it with success reports the roles that the class has.
-/

namespace SceneSchema

variable {c c' : SceneClass}

namespace SceneClass

/-! ### Edits -/

/-- To close a closed class changes nothing. -/
theorem finalize_of_finalized (closed : c.finalized = true) : c.finalize = c := by
  cases c
  cases closed
  rfl

/-- A closed class is not open. -/
theorem checkOpen_of_finalized (closed : c.finalized = true) (name : String) :
    c.checkOpen name ≠ .ok () := by
  rw [ne_eq, checkOpen_eq_ok_iff, closed]
  exact Bool.noConfusion

/-- No annotation is accepted, whichever of key and class is asked first. -/
theorem annotation_of_finalized (closed : c.finalized = true) {k : SlotKey}
    {next : Attribute → Except Error SceneClass} :
    (do let a ← c.checkKey k; c.checkOpen a.name; next a) ≠ .ok c' := by
  intro run
  obtain ⟨a, -, run⟩ := bind_eq_ok_iff.1 run
  obtain ⟨⟨⟩, isOpen, -⟩ := bind_eq_ok_iff.1 run
  exact checkOpen_of_finalized closed a.name isOpen

/-- **An edit of a closed class fails**, or it closes the class once more. -/
theorem edit_of_finalized (closed : c.finalized = true) {e : Edit} (run : c.edit e = .ok c') :
    e = .finalize ∧ c' = c := by
  cases e with
  | declare name default flags =>
    obtain ⟨⟨⟩, isOpen, -⟩ := bind_eq_ok_iff.1 run
    exact absurd isOpen (checkOpen_of_finalized closed name)
  | addAlias k name =>
    obtain ⟨⟨⟩, isOpen, -⟩ := bind_eq_ok_iff.1 run
    exact absurd isOpen (checkOpen_of_finalized closed name)
  | setMetadata k entry text => exact absurd run (annotation_of_finalized closed)
  | setGroup k group => exact absurd run (annotation_of_finalized closed)
  | setEnumText k value text => exact absurd run (annotation_of_finalized closed)
  | finalize => exact ⟨rfl, (Except.ok.inj run).symm.trans (finalize_of_finalized closed)⟩

end SceneClass

/-! ### Declarations -/

/-- The step does not end the declaration of a closed class. -/
def Step.Passes (s : Step) : Prop :=
  s.action = .finalize ∨ (s.ignore = true ∧ s.action ≠ .panic)

namespace Script

variable {keys : KeyTable} {a : Action} {e : Edit}

/-- Only closing asks for a closing. -/
theorem eq_finalize_of_toEdit (asked : toEdit c keys a = .ok .finalize) : a = .finalize := by
  cases a with
  | finalize => rfl
  | setEnumText word value text =>
    obtain ⟨k, -, asked⟩ := bind_eq_ok_iff.1 asked
    split at asked <;> cases asked
  | addAlias | setMetadata | setGroup =>
    obtain ⟨k, -, asked⟩ := bind_eq_ok_iff.1 asked
    cases asked
  | declare | fail | notFound | panic => cases asked

/-- An action succeeds on a closed class exactly if it closes it. -/
theorem action_of_finalized (closed : c.finalized = true) :
    toEdit c keys a >>= c.edit = .ok c' ↔ a = .finalize ∧ c' = c := by
  constructor
  · intro run
    obtain ⟨e, asked, run⟩ := bind_eq_ok_iff.1 run
    obtain ⟨rfl, rfl⟩ := SceneClass.edit_of_finalized closed run
    exact ⟨eq_finalize_of_toEdit asked, rfl⟩
  · rintro ⟨rfl, rfl⟩
    exact congrArg Except.ok (SceneClass.finalize_of_finalized closed)

/-- Running steps leaves a closed class, and they are all run exactly if each of them passes. -/
theorem runSteps_of_finalized (closed : c.finalized = true) (result : Interface)
    (steps : List Step) :
    (runSteps result c keys steps).2 = c ∧ ∀ i, (runSteps result c keys steps).1 = .declared i ↔
      i = result ∧ ∀ s ∈ steps, s.Passes := by
  induction steps with
  | nil => simp [runSteps, eq_comm]
  | cons s rest ih =>
    unfold runSteps
    by_cases panics : s.action = .panic
    · simp [panics, Step.Passes]
    · rw [if_neg panics]
      rcases step : toEdit c keys s.action >>= c.edit with e | c'
      · have other : s.action ≠ .finalize := fun closes => by
          rw [(action_of_finalized closed).2 ⟨closes, rfl⟩] at step
          cases step
        by_cases ignored : s.ignore = true
        · simpa [ignored, Step.Passes, panics] using ih
        · simp [ignored, Step.Passes, other]
      · obtain ⟨closes, rfl⟩ := (action_of_finalized closed).1 step
        simpa [closes, bindKey, Step.Passes] using ih

/-- **The code of a class leaves a closed class as it is.** Its declaration succeeds exactly if
every step passes. -/
theorem run_of_finalized (closed : c.finalized = true) (s : Script) :
    (s.run c).2 = c ∧
      ∀ i, (s.run c).1 = .declared i ↔ i = s.interface ∧ ∀ t ∈ s.steps, t.Passes :=
  runSteps_of_finalized closed s.interface s.steps

end Script

namespace Plugin

/-- A module can declare a closed class if its code has only steps that pass. -/
theorem declare_eq_ok_iff (closed : c.finalized = true) (p : Plugin) (scripts : Scripts)
    {i : Interface} : (p.declare scripts c).1 = .ok i ↔ ∃ code,
      (p.resolve .declare).1 = .ok code ∧ i = (code.script scripts c.name).interface ∧
        ∀ s ∈ (code.script scripts c.name).steps, s.Passes := by
  unfold declare
  rcases p.resolve .declare with ⟨e | code, q⟩
  · simp
  · obtain ⟨-, declared⟩ := (code.script scripts c.name).run_of_finalized closed
    simp only [Except.ok.injEq, exists_eq_left', ← declared]
    rcases (code.script scripts c.name).run c with ⟨j | e | _, d⟩ <;> simp

/-- **A module that declares a closed class** leaves it, but for the roles if it succeeds. -/
theorem declare_of_finalized (closed : c.finalized = true) (p : Plugin) (scripts : Scripts) :
    (p.declare scripts c).2.1 =
      c.withInterface (((p.declare scripts c).1.toOption).getD c.interface) := by
  unfold declare
  rcases p.resolve .declare with ⟨e | code, q⟩
  · rfl
  · obtain ⟨leaves, -⟩ := (code.script scripts c.name).run_of_finalized closed
    rcases run : (code.script scripts c.name).run c with ⟨j | e | _, d⟩ <;>
      obtain rfl : d = c := by rw [run] at leaves; exact leaves
    all_goals simp only [run]
    · have closed' : (d.withInterface j).finalized = true := closed
      exact SceneClass.finalize_of_finalized closed'
    · rfl
    · rfl

end Plugin

/-! ### All that can be done -/

/-- Something that is done to a class. -/
inductive Treatment where
  | edit (e : Edit)
  | declareBy (p : Plugin) (scripts : Scripts)

/-- The roles that a module reports when it declares the class with success. -/
def Treatment.reported? (c : SceneClass) : Treatment → Option Interface
  | .edit _ => none
  | .declareBy p scripts => (p.declare scripts c).1.toOption

namespace SceneClass

open SceneObject (lampClass)

/-- The class after it was treated, with success or not. -/
def treat (c : SceneClass) : Treatment → SceneClass
  | .edit e => ((c.edit e).toOption).getD c
  | .declareBy p scripts => (p.declare scripts c).2.1

/-- The class after one treatment after the other. -/
def treatAll (c : SceneClass) (ts : List Treatment) : SceneClass := ts.foldl treat c

/-- One treatment of a closed class changes its roles at most. -/
theorem treat_of_finalized (closed : c.finalized = true) (t : Treatment) :
    c.treat t = c.withInterface ((t.reported? c).getD c.interface) := by
  cases t with
  | edit e =>
    show ((c.edit e).toOption).getD c = c
    rcases run : c.edit e with f | c'
    · rfl
    · exact (edit_of_finalized closed run).2
  | declareBy p scripts => exact p.declare_of_finalized closed scripts

/-- A result that is there is one that succeeded. -/
theorem toOption_eq_some_iff {α : Type} {x : Except Error α} {a : α} :
    x.toOption = some a ↔ x = .ok a := by
  cases x <;> simp [Except.toOption]

/-- What a module reports does not depend on the roles that a closed class has. -/
theorem reported?_withInterface (closed : c.finalized = true) (i : Interface) (t : Treatment) :
    t.reported? (c.withInterface i) = t.reported? c := by
  cases t with
  | edit e => rfl
  | declareBy p scripts =>
    refine Option.ext fun j => ?_
    have closed' : (c.withInterface i).finalized = true := closed
    simp only [Treatment.reported?, toOption_eq_some_iff, p.declare_eq_ok_iff closed,
      p.declare_eq_ok_iff closed']
    rfl

/-- **What becomes of a closed class**: it gets the roles reported last, and nothing else. -/
theorem treatAll_of_finalized (closed : c.finalized = true) (ts : List Treatment) :
    c.treatAll ts =
      c.withInterface (ts.foldl (fun i t => (t.reported? c).getD i) c.interface) := by
  induction ts generalizing c with
  | nil => rfl
  | cons t rest ih =>
    have step := treat_of_finalized closed t
    have closed' : (c.treat t).finalized = true := by
      rw [step]
      exact closed
    refine (ih closed').trans ?_
    rw [step]
    simp only [reported?_withInterface closed]
    rfl

/-- One more treatment comes after the others. -/
theorem treatAll_concat (c : SceneClass) (ts : List Treatment) (t : Treatment) :
    c.treatAll (ts ++ [t]) = (c.treatAll ts).treat t := List.foldl_concat ..

/-- A treatment leaves a closed class exactly if it reports no other roles than the class has. -/
theorem treat_eq_self_iff (closed : c.finalized = true) (t : Treatment) :
    c.treat t = c ↔ ∀ i, t.reported? c = some i → i = c.interface := by
  rw [treat_of_finalized closed]
  rcases t.reported? c with _ | i
  · simp [withInterface]
  · simp only [Option.getD_some, Option.some.injEq, forall_eq']
    constructor
    · exact fun same => congrArg interface same
    · rintro rfl
      rfl

/-- All the way through the treatments a class is the same if each of them leaves it. -/
theorem treatAll_eq_self_iff (c : SceneClass) (ts : List Treatment) :
    (∀ before, before <+: ts → c.treatAll before = c) ↔ ∀ t ∈ ts, c.treat t = c := by
  constructor
  · intro stays t there
    obtain ⟨before, after, rfl⟩ := List.append_of_mem there
    have reached := stays before (List.prefix_append ..)
    have next := stays (before ++ [t]) ⟨after, by simp⟩
    rwa [treatAll_concat, reached] at next
  · intro each before front
    have each' : ∀ t ∈ before, c.treat t = c := fun t there => each t (front.subset there)
    clear front
    induction before with
    | nil => rfl
    | cons t rest ih =>
      rw [treatAll, List.foldl_cons, each' t List.mem_cons_self]
      exact ih fun t' there => each' t' (List.mem_cons_of_mem t there)

/-- **What stays of a closed class, and when all of it does.** Whatever is done to it, with success
or not, identity, name, attribute table and lookup stay, and the class stays closed. All of it
stays, all the way through, exactly if each module that declares it with success reports the roles
that it has. That is up to the module: its code only has to get through its steps, of which each
closes the class or may fail. -/
theorem closed_stays_iff (closed : c.finalized = true) (ts : List Treatment) :
    ((c.treatAll ts).id = c.id ∧ (c.treatAll ts).name = c.name ∧
      (c.treatAll ts).attributes = c.attributes ∧ (c.treatAll ts).names = c.names ∧
      (∀ n, (c.treatAll ts).find? n = c.find? n) ∧ (c.treatAll ts).finalized = true) ∧
    ((∀ before, before <+: ts → c.treatAll before = c) ↔
      ∀ p scripts, .declareBy p scripts ∈ ts →
        ∀ i, (p.declare scripts c).1 = .ok i → i = c.interface) ∧
    ∀ (p : Plugin) scripts i, (p.declare scripts c).1 = .ok i ↔ ∃ code,
      (p.resolve .declare).1 = .ok code ∧ i = (code.script scripts c.name).interface ∧
        ∀ s ∈ (code.script scripts c.name).steps, s.Passes := by
  refine ⟨?_, ?_, fun p scripts i => p.declare_eq_ok_iff closed scripts⟩
  · rw [treatAll_of_finalized closed ts]
    exact ⟨rfl, rfl, rfl, rfl, fun n => rfl, closed⟩
  · rw [treatAll_eq_self_iff]
    simp only [treat_eq_self_iff closed]
    constructor
    · exact fun each p scripts there i reports =>
        each _ there i (toOption_eq_some_iff.2 reports)
    · intro each t there i reports
      cases t with
      | edit e => cases reports
      | declareBy p scripts => exact each p scripts there i (toOption_eq_some_iff.1 reports)

/-- A module whose code declares nothing, and reports that the objects are lights. -/
def idleLightPlugin : Plugin :=
  { className := "Lamp", path := "./Lamp.so", proxy := false
    library := some ⟨.present, .present, .present, .fixed { interface := .light }⟩ }

/-- The statement at a class that is closed: it refuses a further attribute and the code of a module
that declares one, and gets the roles that the module without code reports. -/
theorem closed_stays_iff_lampClass :
    lampClass.finalized = true ∧
    (lampClass.treatAll [.edit (.declare "off" ⟨.scalar .bool, false⟩ .empty),
      .declareBy idleLightPlugin [], .edit .finalize]).attributes = lampClass.attributes ∧
    ¬ ∀ before, before <+: [.declareBy idleLightPlugin []] →
      lampClass.treatAll before = lampClass := by
  have closed : lampClass.finalized = true := by decide +kernel
  obtain ⟨⟨-, -, table, -⟩, -⟩ :=
    closed_stays_iff closed [.edit (.declare "off" ⟨.scalar .bool, false⟩ .empty),
      .declareBy idleLightPlugin [], .edit .finalize]
  obtain ⟨-, stays, -⟩ := closed_stays_iff closed [.declareBy idleLightPlugin []]
  refine ⟨closed, table, fun same => ?_⟩
  have light := stays.1 same idleLightPlugin [] (List.mem_singleton.2 rfl) .light
    (by decide +kernel)
  exact absurd light (by decide +kernel)

/-- A class that is closed may get other roles. -/
theorem interface_of_closed_changes :
    lampClass.finalized = true ∧ lampClass.interface = .generic ∧
      (lampClass.treat (.declareBy idleLightPlugin [])).interface = .light := by
  decide +kernel

end SceneClass

end SceneSchema
