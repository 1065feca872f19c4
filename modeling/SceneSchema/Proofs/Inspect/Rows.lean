import SceneSchema.Inspect.Report
import SceneSchema.Proofs.Inspect.Loading

/-!
# The rows of a run are independent

The inspection command goes through its candidates with one registry, in which each class that was
described is kept. But no class comes twice, and what a class is described as does not depend on its
identity. So a row is what it would be if it were the only one (`freshRow`).

* `Plugin.declare_withId` — what a module does to the class it is given does not depend on the
  identity of this; `Registry.describe_load` — nor does the description of a class that is loaded.
* `checkRows_eq` — **the rows of a run are independent of each other.**
* `declared?_ne_unwound` — loading a class for a description returns, as no class is built in.
* `freshRow_spec` — what a row prints: its status line, which is the only line that looks like one
  (`isStatusRow`), and the description.
-/

namespace SceneSchema

/-! ### Classes that are described -/

/-- A module does the same to a class of another identity. -/
theorem Plugin.declare_withId (p : Plugin) (scripts : Scripts) (c : SceneClass) (id : ClassId) :
    p.declare scripts (c.withId id) = ((p.declare scripts c).1,
      (p.declare scripts c).2.1.withId id, (p.declare scripts c).2.2) := by
  unfold Plugin.declare
  rcases p.resolve .declare with ⟨e | code, q⟩
  · rfl
  · have ran := (code.script scripts c.name).run_withId c id
    rw [SceneClass.withId] at ran
    simp only [SceneClass.withId, ran]
    rcases (code.script scripts c.name).run c with ⟨i | e | _, c'⟩ <;> rfl

namespace Registry

/-- The registry looks for modules in the directories, and knows nothing of the class. -/
structure Unacquainted (r : Registry) (dirs : List String) (proxy : Bool) (name : String) :
    Prop where
  dirs : r.dirs = dirs
  proxy : r.proxy = proxy
  /-- The class is not kept, -/
  new : r.get? name = none
  /-- and it is not built in. -/
  foreign : r.builtins.lookup name = none

/-- A new registry has not met any class. -/
theorem unacquainted_new (dirs : List String) (proxy : Bool) (name : String) :
    (Registry.new dirs proxy).Unacquainted dirs proxy name := ⟨rfl, rfl, rfl, rfl⟩

variable {r r' : Registry} {dirs : List String} {proxy : Bool} {name other : String}

/-- A load of another class changes nothing about that. -/
theorem Unacquainted.load (h : r.Unacquainted dirs proxy name) (apart : name ≠ other) (w : World)
    (ids : IdSource) : (r.load w other ids).2.1.Unacquainted dirs proxy name := by
  rcases r.load_cases w other ids with ⟨l, -, run⟩ | ⟨-, ⟨e, -, run⟩ | ⟨l, -, run⟩⟩
  · rwa [run]
  · rwa [run]
  · rw [run]
    exact ⟨h.dirs, h.proxy, (get?_keep_of_ne r apart l).trans h.new, h.foreign⟩

/-- **Registries that know nothing of a class load it with the same description.** -/
theorem describe_load (h : r.Unacquainted dirs proxy name) (h' : r'.Unacquainted dirs proxy name)
    (w : World) (ids ids' : IdSource) :
    (r.load w name ids).1.map (fun l => Inspect.describeClass l.sceneClass) =
      (r'.load w name ids').1.map (fun l => Inspect.describeClass l.sceneClass) := by
  rw [load_of_unkept h.new h.foreign, load_of_unkept h'.new h'.foreign, h.dirs, h.proxy, h'.dirs,
    h'.proxy]
  rcases Plugin.acquire w name dirs proxy with e | p
  · rfl
  · show ((LoadedClass.declaredBy w.scripts (.new ids.fresh name) p).mapError _).map _ =
      ((LoadedClass.declaredBy w.scripts (.new ids'.fresh name) p).mapError _).map _
    have declared := p.declare_withId w.scripts (.new ids'.fresh name) ids.fresh
    rw [show (SceneClass.new ids'.fresh name).withId ids.fresh = .new ids.fresh name from rfl]
      at declared
    rw [LoadedClass.declaredBy, LoadedClass.declaredBy, declared]
    rcases p.declare w.scripts (.new ids'.fresh name) with ⟨e | i, c, q⟩ <;> rfl

end Registry

namespace Inspect

variable {a : Arguments} {w : World} {dirs : List String} {c : Candidate}

/-! ### Rows -/

/-- What a row says if it is the first. -/
def freshRow (a : Arguments) (w : World) (dirs : List String) (c : Candidate) : RowResult :=
  (checkRow a w c (.new dirs a.proxy) {}).1

/-- A row depends on the registry only through the description of the class. -/
theorem checkRow_eq (r : Registry) (ids : IdSource) : (checkRow a w c r ids).1 =
    if !Plugin.isValid w c.path a.proxy then .invalid
    else if !a.describe then .valid
    else match (r.load w c.className ids).1.map fun l => describeClass l.sceneClass with
      | .ok lines => .described lines
      | .error e => .undeclared e := by
  unfold checkRow
  split
  · rfl
  · split
    · rfl
    · rcases r.load w c.className ids with ⟨e | l, r', ids'⟩ <;> rfl

/-- A registry that has not met the class gives the row that is given first. -/
theorem checkRow_of_unacquainted {r : Registry} (h : r.Unacquainted dirs a.proxy c.className)
    (ids : IdSource) : (checkRow a w c r ids).1 = freshRow a w dirs c := by
  rw [freshRow, checkRow_eq, checkRow_eq,
    Registry.describe_load h (Registry.unacquainted_new dirs a.proxy c.className) w ids {}]

/-- After a row about another class, a registry has still not met this one. -/
theorem unacquainted_checkRow {r : Registry} {name : String}
    (h : r.Unacquainted dirs a.proxy name) (apart : name ≠ c.className) (ids : IdSource) :
    (checkRow a w c r ids).2.1.Unacquainted dirs a.proxy name := by
  have loaded := h.load apart w ids
  unfold checkRow
  split
  · exact h
  · split
    · exact h
    · generalize r.load w c.className ids = loads at loaded ⊢
      rcases loads with ⟨e | l, r', ids'⟩ <;> exact loaded

/-- **The rows of a run are independent of each other**, as no class comes twice. -/
theorem checkRows_eq {cs : List Candidate} {r : Registry} (once : (cs.map (·.className)).Nodup)
    (h : ∀ c ∈ cs, r.Unacquainted dirs a.proxy c.className) (ids : IdSource) :
    checkRows a w cs r ids = cs.map fun c => (c, freshRow a w dirs c) := by
  induction cs generalizing r ids with
  | nil => rfl
  | cons c cs ih =>
    obtain ⟨new, once⟩ := List.nodup_cons.1 once
    have later : ∀ c' ∈ cs, (checkRow a w c r ids).2.1.Unacquainted dirs a.proxy c'.className := by
      intro c' there
      refine unacquainted_checkRow (h c' (List.mem_cons_of_mem c there)) (fun same => new ?_) ids
      exact List.mem_map.2 ⟨c', there, same⟩
    have row : (checkRow a w c r ids).1 = freshRow a w dirs c :=
      checkRow_of_unacquainted (h c List.mem_cons_self) ids
    rw [checkRows, List.map_cons, ← row, ← ih once later]

/-! ### Lines -/

/-- Whether a printed line is the row of a candidate. -/
def isStatusRow (line : String) : Bool :=
  "[OK]".toList.isPrefixOf line.toList || "[FAIL]".toList.isPrefixOf line.toList

/-- The line of a candidate is a row. -/
theorem isStatusRow_statusLine (c : Candidate) (valid : Bool) :
    isStatusRow (statusLine c valid) = true := by
  rw [isStatusRow, Bool.or_eq_true, List.isPrefixOf_iff_prefix, List.isPrefixOf_iff_prefix]
  simp only [statusLine, padRight, String.toList_append, List.append_assoc]
  cases valid with
  | true => exact .inl (List.prefix_append ..)
  | false => exact .inr (List.prefix_append ..)

/-- The line starts with a blank. -/
def Indented (line : String) : Prop := line.toList.head? = some ' '

/-- More text behind an indented line leaves it indented. -/
theorem Indented.append {line : String} (h : Indented line) (more : String) :
    Indented (line ++ more) := by
  rw [Indented, String.toList_append, List.head?_append, h]
  rfl

/-- A line that starts with something else is no row. -/
theorem isStatusRow_of_head {line : String} {first : Char} (head : line.toList.head? = some first)
    (other : first ≠ '[') : isStatusRow line = false := by
  obtain ⟨rest, text⟩ := List.head?_eq_some_iff.1 head
  have apart : ('[' == first) = false := beq_eq_false_iff_ne.2 other.symm
  have ok : "[OK]".toList = '[' :: ['O', 'K', ']'] := by decide +kernel
  have fail : "[FAIL]".toList = '[' :: ['F', 'A', 'I', 'L', ']'] := by decide +kernel
  rw [isStatusRow, text, ok, fail, List.isPrefixOf, List.isPrefixOf, apart]
  rfl

/-- The lines of a description are indented. -/
theorem indented_describeClass {c : SceneClass} {line : String} (there : line ∈ describeClass c) :
    Indented line := by
  rcases List.mem_cons.1 there with rfl | there
  · have blanks : "         ".toList.head? = some ' ' := by decide +kernel
    iterate 6 apply Indented.append
    exact blanks
  · obtain ⟨row, -, there⟩ := List.mem_flatMap.1 there
    rcases List.mem_cons.1 there with rfl | there
    · have blanks : "           ".toList.head? = some ' ' := by decide +kernel
      iterate 8 apply Indented.append
      exact blanks
    · obtain ⟨detail, -, rfl⟩ := List.mem_map.1 there
      have blanks : detailIndent.toList.head? = some ' ' := by decide +kernel
      exact Indented.append blanks detail

/-! ### What a row says -/

/-- What the run is given of the candidate's class, if the class is to be described: a load looks
for the module as if it were the first. -/
def declared? (a : Arguments) (w : World) (dirs : List String) (c : Candidate) :
    Option (Except Failure SceneClass) :=
  if Plugin.isValid w c.path a.proxy && a.describe then
    some (((Registry.new dirs a.proxy).load w c.className {}).1.map (·.sceneClass))
  else none

/-- That load returns: nothing is built into the command that could break down. -/
theorem declared?_ne_unwound (a : Arguments) (w : World) (dirs : List String) (c : Candidate) :
    declared? a w dirs c ≠ some (.error .unwound) := by
  have returns : ((Registry.new dirs a.proxy).load w c.className {}).1 ≠ .error .unwound :=
    Registry.load_ne_unwound rfl rfl w {}
  unfold declared?
  split
  · rcases loads : ((Registry.new dirs a.proxy).load w c.className {}).1 with (e | _) | l
    · exact nofun
    · exact absurd loads returns
    · exact nofun
  · exact nofun

/-- The lines printed behind a row. -/
def describedLines : Option (Except Failure SceneClass) → List String
  | some (.ok c) => describeClass c
  | some (.error _) | none => []

/-- The lines on the error output. -/
def failedLines : Option (Except Failure SceneClass) → List String
  | some (.error (.returned e)) => ["         declare failed: " ++ e.message]
  | some (.error .unwound) | some (.ok _) | none => []

/-- **A row is the status line of its candidate**, and the description of its class, if that was
asked for and declared. -/
theorem freshRow_spec (a : Arguments) (w : World) (dirs : List String) (c : Candidate) :
    (freshRow a w dirs c).output c =
        statusLine c (Plugin.isValid w c.path a.proxy) ::
          describedLines (declared? a w dirs c) ∧
      (freshRow a w dirs c).errors = failedLines (declared? a w dirs c) ∧
      ((freshRow a w dirs c).isGood = true ↔
        Plugin.isValid w c.path a.proxy = true ∧ failedLines (declared? a w dirs c) = []) := by
  have returns : ((Registry.new dirs a.proxy).load w c.className {}).1 ≠ .error .unwound :=
    Registry.load_ne_unwound rfl rfl w {}
  rw [freshRow, checkRow_eq, declared?]
  rcases valid : Plugin.isValid w c.path a.proxy with _ | _
  · exact ⟨rfl, rfl, by simp [RowResult.isGood]⟩
  · rcases asked : a.describe with _ | _
    · exact ⟨rfl, rfl, by simp [RowResult.isGood, failedLines]⟩
    · rcases loads : ((Registry.new dirs a.proxy).load w c.className {}).1 with (e | _) | l
      · exact ⟨rfl, rfl, by simp [RowResult.isGood, failedLines, Except.map]⟩
      · exact absurd loads returns
      · exact ⟨rfl, rfl, by simp [RowResult.isGood, failedLines, Except.map]⟩

/-- No line of a description looks like a row. -/
theorem filter_describedLines (d : Option (Except Failure SceneClass)) :
    (describedLines d).filter isStatusRow = [] := by
  rcases d with _ | (e | c)
  · rfl
  · rfl
  · rw [List.filter_eq_nil_iff]
    intro line there
    rw [isStatusRow_of_head (indented_describeClass there) (by decide)]
    exact Bool.false_ne_true

end Inspect

end SceneSchema
