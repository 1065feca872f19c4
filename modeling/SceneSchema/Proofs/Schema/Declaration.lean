import SceneSchema.Proofs.Schema.NameTable
import SceneSchema.Plugin.Loaded

/-!
# Declaring a class by its own code

The code of a class declares it in steps that name keys by words, and it may fail after any step.
Main statement: `Script.becomes_run`, **whatever a declaration does and however it ends, the class
it leaves has become so by changes** and nothing else, so it is sound (`Sound.becomes`) and has all
the rows that were declared before (`Becomes.grows`).

What carries the induction is that each bound key keeps its promise, to the class as it is by then:
a step binds only the key of the row that it has just declared (`vouches_bindKey`).
-/

namespace SceneSchema

namespace Script

variable {c c' : SceneClass} {keys : KeyTable} {a : Action} {e : Edit}

/-- A word that is bound to a key is bound by the list. -/
theorem mem_of_boundKey {word : String} {k : AnyKey} (run : boundKey c keys word = .ok k) :
    (word, k) ∈ keys := by
  unfold boundKey at run
  split at run
  · rename_i found
    obtain rfl := Except.ok.inj run
    exact Table.mem_of_lookup found
  · cases run

/-- An edit that a step asks for is honest if the bound keys are. -/
theorem honest_of_toEdit (vouched : ∀ b ∈ keys, c.Vouches b.2.key)
    (asked : toEdit c keys a = .ok e) : e.Honest c := by
  cases a with
  | setEnumText word value text =>
    obtain ⟨⟨t, k⟩, bound, asked⟩ := bind_eq_ok_iff.1 asked
    split at asked
    · rename_i type
      obtain rfl := Except.ok.inj asked
      cases type
      exact vouched _ (mem_of_boundKey bound)
    · cases asked
  | addAlias | setMetadata | setGroup =>
    obtain ⟨k, -, asked⟩ := bind_eq_ok_iff.1 asked
    obtain rfl := Except.ok.inj asked
    trivial
  | declare | finalize =>
    obtain rfl := Except.ok.inj asked
    trivial
  | fail | notFound | panic => cases asked

/-- After a successful step, all bound keys keep their promise to the class that it left. -/
theorem vouches_bindKey (vouched : ∀ b ∈ keys, c.Vouches b.2.key)
    (asked : toEdit c keys a = .ok e) (run : c.edit e = .ok c') :
    ∀ b ∈ bindKey c' keys a, c'.Vouches b.2.key := by
  have grows := (SceneClass.becomes_of_edit (honest_of_toEdit vouched asked) run).grows
  have old : ∀ b ∈ keys, c'.Vouches b.2.key := fun b there => grows.vouches (vouched b there)
  unfold bindKey
  split
  · obtain rfl := Except.ok.inj asked
    rintro b (_ | ⟨_, there⟩)
    · exact fun _ => (SceneClass.issued_lastKey run).2
    · exact old b there
  · exact old

/-- The steps of a script only make changes, by induction on them, as long as its keys keep their
promises. -/
theorem becomes_runSteps (result : Interface) (steps : List Step)
    (vouched : ∀ b ∈ keys, c.Vouches b.2.key) :
    c.Becomes (runSteps result c keys steps).2 := by
  induction steps generalizing c keys with
  | nil => exact .refl
  | cons s rest ih =>
    unfold runSteps
    split
    · exact .refl
    · split
      · rename_i d step
        obtain ⟨e, asked, run⟩ := bind_eq_ok_iff.1 step
        have first := SceneClass.becomes_of_edit (honest_of_toEdit vouched asked) run
        exact first.trans (ih (vouches_bindKey vouched asked run))
      · -- a failed step leaves the class, and the run goes on or ends there
        split
        · exact ih vouched
        · exact .refl

/-- **A declaration leaves what the class has become by changes**, however it ends. -/
theorem becomes_run (s : Script) (c : SceneClass) : c.Becomes (s.run c).2 :=
  becomes_runSteps s.interface s.steps fun _ none => absurd none List.not_mem_nil

end Script

/-- A module leaves what the class has become, whether its declaration succeeds or not. -/
theorem Plugin.becomes_declare (p : Plugin) (scripts : Scripts) (c : SceneClass) :
    c.Becomes (p.declare scripts c).2.1 := by
  unfold Plugin.declare
  split
  · exact .refl
  · rename_i code _ _
    have run := (code.script scripts c.name).becomes_run c
    split <;> rename_i ended <;> rw [ended] at run
    · exact (run.change (.roles _)).change .close
    · exact run
    · exact run

end SceneSchema
