import SceneSchema.Proofs.InPlace
import SceneSchema.Proofs.Schema.Growth
import SceneSchema.Schema.Script

/-!
# Edits that fail

An edit writes to up to two structures of a class, the rows and the names, after checks that are
made in an order of their own. Done in place (`Edit.inPlace`), each edit is a sequence of checks and
of writes, and a row that is written must be there.

* `Edit.inPlace_apply` — an edit in place never breaks down, does what the edit does, and leaves the
  class as it was if it fails: every check stands before the first write.
* `Script.runInPlace_eq` — so a declaration may go on with the class that a failed step has left.
* `Script.pruned` is the script without the steps that fail and are ignored. A failed step binds no
  key, so the steps behind it are run as they would be without it (`runSteps_prune`).

**Main statement** (`Script.failures_leave_no_trace`): an edit that fails leaves the class as it
was, and a declaration without its ignored failures declares the same and ends in the same way.
-/

namespace SceneSchema

open InPlace

namespace SceneClass

/-! ### Edits in place -/

/-- The number under a key; fails if this class did not issue the key, or if it has no such row. -/
def checkIndex (c : SceneClass) (k : SlotKey) : Except Error Nat :=
  if k.owner = c.id ∧ k.index < c.count then .ok k.index else .error (.foreignKey c.name c.name)

/-- Change a row, which must be there. -/
def modifyRow? (c : SceneClass) (i : Nat) (f : Attribute → Attribute) : Option SceneClass :=
  if i < c.count then some (c.modifyRow i f) else none

/-- Append a row, and then its name; gives its number. -/
def declareInPlace (name : String) (default : Value) (flags : AttributeFlags) :
    InPlace SceneClass Nat := do
  check (·.checkOpen name)
  check (·.checkFree name)
  let index ← check fun c => .ok c.count
  write fun c => some { c with attributes := c.attributes ++ [.new name default flags index] }
  write fun c => some { c with names := (name, index) :: c.names }
  return index

/-- Enter a name, and then put it down in its row. -/
def addAliasInPlace (k : SlotKey) (name : String) : InPlace SceneClass Unit := do
  check (·.checkOpen name)
  let index ← check (·.checkIndex k)
  check (·.checkFree name)
  write fun c => some { c with names := (name, index) :: c.names }
  write (·.modifyRow? index fun a => { a with aliases := a.aliases ++ [name] })

/-- Annotate a row, in any way that is possible for every row. -/
def annotateInPlace (k : SlotKey) (f : Attribute → Attribute) : InPlace SceneClass Unit := do
  let index ← check (·.checkIndex k)
  let name ← consult fun c => (c.attributes[index]?).map (.ok ·.name)
  check (·.checkOpen name)
  write (·.modifyRow? index f)

/-- Describe a value of a row, if the row is enumerable. -/
def setEnumTextInPlace (k : SlotKey) (value : Int32) (text : String) : InPlace SceneClass Unit := do
  let index ← check (·.checkIndex k)
  let name ← consult fun c => (c.attributes[index]?).map (.ok ·.name)
  check (·.checkOpen name)
  consult fun c => (c.attributes[index]?).map fun a =>
    if a.isEnumerable then .ok ()
    else .error (.declarationFailed c.name ("attribute '" ++ name ++ "' is not ENUMERABLE"))
  write (·.modifyRow? index fun a => { a with enumTexts := a.enumTexts.put value text })

end SceneClass

/-- Do what the edit says in place. -/
def Edit.inPlace : Edit → InPlace SceneClass Unit
  | .declare name default flags => do let _ ← SceneClass.declareInPlace name default flags
  | .addAlias key name => SceneClass.addAliasInPlace key name
  | .setMetadata key entry text =>
      SceneClass.annotateInPlace key fun a =>
        { a with metadata := insertSorted entry text a.metadata }
  | .setGroup key group => SceneClass.annotateInPlace key fun a => { a with group := some group }
  | .setEnumText key value text => SceneClass.setEnumTextInPlace key.toSlotKey value text
  | .finalize => write fun c => some c.finalize

namespace SceneClass

variable {c : SceneClass} {k : SlotKey}

/-- A key is refused by both checks, or accepted by both, and then its row is there. -/
theorem checkIndex_cases (c : SceneClass) (k : SlotKey) :
    (∃ e, c.checkIndex k = .error e ∧ c.checkKey k = .error e) ∨
      ∃ a, c.checkIndex k = .ok k.index ∧ c.checkKey k = .ok a ∧
        c.attributes[k.index]? = some a := by
  unfold checkIndex checkKey row?
  by_cases own : k.owner = c.id
  · rcases row : c.attributes[k.index]? with _ | a
    · have out : ¬ k.index < c.count := Nat.not_lt.2 (List.getElem?_eq_none_iff.1 row)
      exact .inl ⟨_, if_neg fun both => out both.2, by rw [if_pos own]⟩
    · have inside : k.index < c.count := (List.getElem?_eq_some_iff.1 row).1
      exact .inr ⟨a, if_pos ⟨own, inside⟩, by rw [if_pos own], rfl⟩
  · exact .inl ⟨_, if_neg fun both => own both.1, by rw [if_neg own]⟩

/-- A row that a class has can be changed. -/
theorem modifyRow?_of_row {i : Nat} {a : Attribute} (row : c.attributes[i]? = some a)
    (f : Attribute → Attribute) : c.modifyRow? i f = some (c.modifyRow i f) :=
  if_pos (List.getElem?_eq_some_iff.1 row).1

/-- A declaration in place gives the place of the new row, or the error and the class as it was.
-/
theorem declareInPlace_apply (c : SceneClass) (name : String) (default : Value)
    (flags : AttributeFlags) : declareInPlace name default flags c =
      some (match c.declare name default flags with
        | .ok c' => (.ok c.count, c')
        | .error e => (.error e, c)) := by
  rw [declareInPlace, declare, check_bind]
  rcases c.checkOpen name with e | ⟨⟩
  · rfl
  dsimp only
  rw [check_bind]
  rcases c.checkFree name with e | ⟨⟩
  · rfl
  · rfl

/-- An alias in place leaves the class with the alias, or as it was. -/
theorem addAliasInPlace_apply (c : SceneClass) (k : SlotKey) (name : String) :
    addAliasInPlace k name c = some (outcome c (c.addAlias k name)) := by
  rw [addAliasInPlace, addAlias, check_bind]
  rcases c.checkOpen name with e | ⟨⟩
  · rfl
  dsimp only
  rw [check_bind]
  rcases c.checkIndex_cases k with ⟨e, index, key⟩ | ⟨a, index, key, row⟩ <;> rw [index, key]
  · rfl
  dsimp only
  rw [check_bind]
  rcases c.checkFree name with e | ⟨⟩
  · rfl
  dsimp only
  rw [write_bind]
  dsimp only
  -- the row is there still, now that its new name is entered
  rw [write_apply, modifyRow?_of_row (c := { c with names := (name, k.index) :: c.names }) row]
  rfl

/-- An annotation in place checks first, and then changes its row. -/
theorem annotateInPlace_apply (c : SceneClass) (k : SlotKey) (f : Attribute → Attribute) :
    annotateInPlace k f c = some (outcome c (do
      c.checkOpen (← c.checkKey k).name
      .ok (c.modifyRow k.index f))) := by
  rw [annotateInPlace, check_bind]
  rcases c.checkIndex_cases k with ⟨e, index, key⟩ | ⟨a, index, key, row⟩ <;> rw [index, key]
  · rfl
  dsimp only
  rw [consult_bind, row]
  dsimp only [Option.map_some]
  rw [check_bind, ok_bind]
  rcases c.checkOpen a.name with e | ⟨⟩
  · rfl
  dsimp only
  rw [write_apply, modifyRow?_of_row row]
  rfl

/-- The text of a value in place checks the attribute too, before anything is changed. -/
theorem setEnumTextInPlace_apply (c : SceneClass) (k : Key (.scalar .int)) (value : Int32)
    (text : String) : setEnumTextInPlace k.toSlotKey value text c =
      some (outcome c (c.setEnumText k value text)) := by
  rw [setEnumTextInPlace, setEnumText, check_bind]
  rcases c.checkIndex_cases k.toSlotKey with ⟨e, index, key⟩ | ⟨a, index, key, row⟩ <;>
    rw [index, key]
  · rfl
  dsimp only
  rw [consult_bind, row]
  dsimp only [Option.map_some]
  rw [check_bind, ok_bind]
  rcases c.checkOpen a.name with e | ⟨⟩
  · rfl
  dsimp only
  rw [consult_bind, row, ok_bind]
  dsimp only [Option.map_some]
  by_cases enumerable : a.isEnumerable = true
  · rw [if_pos enumerable, if_pos enumerable]
    dsimp only
    rw [write_apply, modifyRow?_of_row row]
    rfl
  · rw [if_neg enumerable, if_neg enumerable]
    rfl

end SceneClass

/-- **An edit in place does what the edit does**, and it leaves the class alone if it fails. -/
theorem Edit.inPlace_apply (c : SceneClass) (e : Edit) :
    e.inPlace c = some (outcome c (c.edit e)) := by
  cases e with
  | declare name default flags =>
    rw [Edit.inPlace, bind_apply, SceneClass.declareInPlace_apply, SceneClass.edit]
    rcases c.declare name default flags with _ | _ <;> rfl
  | addAlias k name => exact c.addAliasInPlace_apply k name
  | setMetadata k entry text => exact c.annotateInPlace_apply k _
  | setGroup k group => exact c.annotateInPlace_apply k _
  | setEnumText k value text => exact c.setEnumTextInPlace_apply k value text
  | finalize => rfl

/-! ### Declarations in place -/

namespace Script

variable {c : SceneClass} {keys : KeyTable} {result : Interface}

/-- Run steps on a class in place: a step that fails leaves the class to the next one as it is. -/
def stepsInPlace (result : Interface) (c : SceneClass) (keys : KeyTable) :
    List Step → Option (DeclareOutcome × SceneClass)
  | [] => some (.declared result, c)
  | s :: rest =>
      if s.action = .panic then some (.panicked, c)
      else
        match toEdit c keys s.action with
        | .error e => if s.ignore then stepsInPlace result c keys rest else some (.failed e, c)
        | .ok edit =>
            match edit.inPlace c with
            | none => none
            | some (.ok (), c') => stepsInPlace result c' (bindKey c' keys s.action) rest
            | some (.error e, c') =>
                if s.ignore then stepsInPlace result c' keys rest else some (.failed e, c')

/-- Run the declaration of a script on a class in place. -/
def runInPlace (s : Script) (c : SceneClass) : Option (DeclareOutcome × SceneClass) :=
  stepsInPlace s.interface c [] s.steps

/-- Steps in place leave the class that the steps of a script give, by induction on them. -/
theorem stepsInPlace_eq (result : Interface) (c : SceneClass) (keys : KeyTable)
    (steps : List Step) :
    stepsInPlace result c keys steps = some (runSteps result c keys steps) := by
  induction steps generalizing c keys with
  | nil => rfl
  | cons s rest ih =>
    rw [stepsInPlace, runSteps]
    split
    · rfl
    rcases toEdit c keys s.action with e | edit
    · -- the step asks for no edit, and does not touch the class
      dsimp only [bind, Except.bind]
      split
      · exact ih c keys
      · rfl
    · rw [ok_bind]
      dsimp only
      rw [edit.inPlace_apply]
      rcases c.edit edit with e | c'
      · dsimp only [outcome]
        split
        · exact ih c keys
        · rfl
      · exact ih c' _

/-! ### Declarations without their ignored failures -/

/-- The steps but for those that fail and are ignored. -/
def prune (c : SceneClass) (keys : KeyTable) : List Step → List Step
  | [] => []
  | s :: rest =>
      if s.action = .panic then s :: rest
      else
        match toEdit c keys s.action >>= c.edit with
        | .ok c' => s :: prune c' (bindKey c' keys s.action) rest
        | .error _ => if s.ignore then prune c keys rest else s :: rest

/-- The script without the steps that fail and are ignored when it declares the class. -/
def pruned (s : Script) (c : SceneClass) : Script := { s with steps := prune c [] s.steps }

/-- The step with its failure not ignored. -/
def strictStep (s : Step) : Step := { s with ignore := false }

/-- The script with no failure ignored. -/
def strict (s : Script) : Script := { s with steps := s.steps.map strictStep }

/-- Pruning takes steps away and changes no order. -/
theorem prune_sublist (c : SceneClass) (keys : KeyTable) (steps : List Step) :
    (prune c keys steps).Sublist steps := by
  induction steps generalizing c keys with
  | nil => exact List.nil_sublist _
  | cons s rest ih =>
    rw [prune]
    split
    · exact List.Sublist.refl _
    rcases toEdit c keys s.action >>= c.edit with e | c'
    · dsimp only
      split
      · exact (ih c keys).cons s
      · exact List.Sublist.refl _
    · exact (ih c' _).cons_cons s

/-- **What is left of the steps runs as all of them do**, also if some of those that are left are
not ignored any more: the failures that were ignored are all gone. -/
theorem runSteps_prune {f : Step → Step} (action : ∀ s, (f s).action = s.action)
    (ignore : ∀ s, (f s).ignore = true → s.ignore = true) (steps : List Step) :
    runSteps result c keys ((prune c keys steps).map f) = runSteps result c keys steps := by
  induction steps generalizing c keys with
  | nil => rfl
  | cons s rest ih =>
    rw [prune, runSteps]
    by_cases breaks : s.action = .panic
    · rw [if_pos breaks, if_pos breaks, List.map_cons, runSteps, if_pos ((action s).trans breaks)]
    rw [if_neg breaks, if_neg breaks]
    have goesOn : ¬ (f s).action = .panic := by rwa [action s]
    rcases step : toEdit c keys s.action >>= c.edit with e | c'
    · -- a failed step leaves the class and the keys, so what follows does not miss it
      dsimp only
      by_cases ignored : s.ignore = true
      · rw [if_pos ignored, if_pos ignored, ih]
      · rw [if_neg ignored, if_neg ignored, List.map_cons, runSteps, if_neg goesOn, action s, step]
        exact if_neg fun still => ignored (ignore s still)
    · dsimp only
      rw [List.map_cons, runSteps, if_neg goesOn, action s, step]
      exact ih

/-- A script runs the same without the steps whose failures it ignores. -/
theorem run_pruned (s : Script) (c : SceneClass) : (s.pruned c).run c = s.run c := by
  have same : runSteps s.interface c [] ((prune c [] s.steps).map id) = s.run c :=
    runSteps_prune (f := id) (fun _ => rfl) (fun _ => id) s.steps
  rwa [List.map_id] at same

/-- So it does if no failure is ignored any more: none is left. -/
theorem run_strict_pruned (s : Script) (c : SceneClass) : (s.pruned c).strict.run c = s.run c :=
  runSteps_prune (f := strictStep) (fun _ => rfl) (fun _ => nofun) s.steps

/-- **Failures leave no trace.** Whatever the class and the edit, the edit does not break down in
place, and it does what it is meant to do, or it fails and leaves the class just as it was. So
whatever the script, it can be run in place; and without the steps that fail and are ignored it
leaves the same class, with the same rows, names and roles, and ends in the same way, with no
failure left that would have to be ignored. -/
theorem failures_leave_no_trace :
    (∀ (c : SceneClass) (e : Edit), ∃ answer left, e.inPlace c = some (answer, left) ∧
      match answer with
      | .ok () => c.edit e = .ok left
      | .error err => c.edit e = .error err ∧ left = c) ∧
    ∀ (s : Script) (c : SceneClass), s.runInPlace c = some (s.run c) ∧
      (s.pruned c).steps.Sublist s.steps ∧ (s.pruned c).runInPlace c = s.runInPlace c ∧
      (s.pruned c).run c = s.run c ∧ (s.pruned c).strict.run c = s.run c := by
  refine ⟨fun c e => ?_, fun s c => ?_⟩
  · rw [e.inPlace_apply]
    rcases c.edit e with err | c'
    · exact ⟨.error err, c, rfl, rfl, rfl⟩
    · exact ⟨.ok (), c', rfl, rfl⟩
  · have inPlace (s : Script) : s.runInPlace c = some (s.run c) := stepsInPlace_eq ..
    refine ⟨inPlace s, prune_sublist c [] s.steps, ?_, s.run_pruned c, s.run_strict_pruned c⟩
    rw [inPlace, inPlace, s.run_pruned c]

end Script

end SceneSchema
