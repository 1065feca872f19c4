import SceneSchema.Proofs.Object.Calls
import SceneSchema.Proofs.Registry.KeptClasses

/-!
# Programs that use the library

A `Program` is what a program has hold of: the classes that it has seen, the typed keys that classes
have issued to it, its objects, its registries, and the source of identities. `Operation` has one
constructor for each thing that it can do with them, `Program.perform` does it, and `Program.run`
does one after the other. An operation that fails, or that makes no sense (a place where nothing is,
an identity that no class has), leaves what was there.

Three rules are not checked by the operations themselves; they are what a program can be written to
do at all, and `perform` ignores operations that are against them:

* A class is changed only while nothing shares it (`Program.own?`): an object of the class, or a
  registry that keeps it, makes it immutable.
* A typed key comes from a class (`Program.keys`): from a declaration that succeeded, or from asking
  for it by name. Which type a key is used with is checked nowhere else.
* Objects are made by the library. Made by a module or by built-in code they are new ones; what such
  code may do to an object before it hands it out are calls like any others.
-/

namespace SceneSchema

/-! ### Operations -/

/-- One thing that a program does. Objects and registries are named by place, classes by identity.
-/
inductive Operation where
  | newClass (name : String)
  | edit (id : ClassId) (e : Edit)
  /-- Ask a class for a key, by name and type. -/
  | ask (id : ClassId) (name : String) (t : ValueType)
  | newObject (id : ClassId) (name : String)
  | copyObject (place : Nat)
  | dropObject (place : Nat)
  | call (place : Nat) (k : Call)
  /-- Let a module declare a class of the program. -/
  | declareBy (id : ClassId) (p : Plugin) (scripts : Scripts)
  /-- Let a module make an object. -/
  | createBy (id : ClassId) (p : Plugin) (scripts : Scripts) (name : String)
  | newRegistry (dirs : List String) (proxy : Bool)
  | dropRegistry (place : Nat)
  | addBuiltin (place : Nat) (name : String) (code : Code)
  | load (place : Nat) (w : World) (name : String)
  | declareIn (place : Nat) (w : World) (name : String)
  /-- Let a registry make an object. -/
  | createIn (place : Nat) (w : World) (name object : String)

/-- Whether a key that describes values is one of these. -/
def Edit.keyAmong (keys : List AnyKey) : Edit → Bool
  | .setEnumText key _ _ => decide (⟨_, key⟩ ∈ keys)
  | _ => true

/-- Whether a key that values are written through is one of these. -/
def Call.keyAmong (keys : List AnyKey) : Call → Bool
  | .set key _ => decide (⟨_, key⟩ ∈ keys)
  | _ => true

/-- The key that a class issues for a successful edit, being by then as given. -/
def Edit.issued (c : SceneClass) : Edit → List AnyKey
  | .declare _ default _ => [⟨default.type, c.lastKey default.type⟩]
  | _ => []

section keys

variable {keys : List AnyKey} {c c' : SceneClass}

/-- An edit with one of the program's keys comes with a key that keeps its promise. -/
theorem Edit.honest_of_keyAmong {e : Edit} (vouched : ∀ k ∈ keys, c.Vouches k.key)
    (among : e.keyAmong keys = true) : e.Honest c := by
  cases e with
  | setEnumText key value text => exact vouched ⟨_, key⟩ (by simpa [keyAmong] using among)
  | _ => trivial

/-- So does a call on an object. -/
theorem Call.honest_of_keyAmong {k : Call} (vouched : ∀ k ∈ keys, c.Vouches k.key)
    (among : k.keyAmong keys = true) : k.Honest c := by
  cases k with
  | set key d => exact vouched ⟨_, key⟩ (by simpa [keyAmong] using among)
  | _ => trivial

/-- The keys for an edit are issued by the class as the edit left it. -/
theorem Edit.issued_of_edit {e : Edit} (run : c.edit e = .ok c') :
    ∀ k ∈ e.issued c', c'.Issued k.key := by
  cases e with
  | declare name default flags =>
    intro k there
    obtain rfl := List.mem_singleton.1 there
    exact SceneClass.issued_lastKey run
  | _ => exact fun k there => absurd there List.not_mem_nil

end keys

/-! ### States and steps -/

/-- What a program has hold of. -/
structure Program where
  /-- Where the identities of further classes come from. -/
  ids : IdSource := {}
  /-- The classes that the program has seen, each once. -/
  classes : List SceneClass := []
  /-- The keys that classes have issued. -/
  keys : List AnyKey := []
  /-- The objects that are held. -/
  objects : List SceneObject := []
  /-- The registries, each with the classes that it keeps. -/
  registries : List Registry := []

namespace Program

/-- The class of an identity. -/
def class? (p : Program) (id : ClassId) : Option SceneClass := p.classes.find? (·.id = id)

/-- Whether an object or a registry shares the class. -/
def shares (p : Program) (id : ClassId) : Bool :=
  p.objects.any (·.sceneClass.id = id) || p.registries.any (·.keptClasses.any (·.id = id))

/-- The class of an identity, if nothing shares it. -/
def own? (p : Program) (id : ClassId) : Option SceneClass :=
  if p.shares id then none else p.class? id

/-- The program with a class in place of the one of its identity. -/
def update (p : Program) (c : SceneClass) : Program :=
  { p with classes := p.classes.map fun d => if d.id = c.id then c else d }

/-- The program with further keys. -/
def issue (p : Program) (keys : List AnyKey) : Program := { p with keys := keys ++ p.keys }

/-- The program with one more object. -/
def hold (p : Program) (o : SceneObject) : Program := { p with objects := p.objects ++ [o] }

/-- The classes that the program has seen, with those that a registry keeps. -/
def classesWith (p : Program) (r : Registry) : List SceneClass :=
  p.classes ++ r.keptClasses.filter (· ∉ p.classes)

/-- The program with a registry in place of another; it sees the classes which that keeps. -/
def putRegistry (p : Program) (place : Nat) (r : Registry) (ids : IdSource) : Program :=
  { p with ids, classes := p.classesWith r, registries := p.registries.set place r }

/-- Go on with what is given; without it the program stays as it is. -/
def given {α : Type} (p : Program) (x : Option α) (next : α → Program) : Program :=
  match x with
  | some a => next a
  | none => p

/-- Do one thing. -/
def perform (p : Program) : Operation → Program
  | .newClass name =>
      { p with ids := p.ids.advance, classes := p.classes ++ [.new p.ids.fresh name] }
  | .edit id e =>
      p.given (p.own? id) fun c =>
        if e.keyAmong p.keys then
          p.given (c.edit e).toOption fun c' => (p.update c').issue (e.issued c')
        else p
  | .ask id name t =>
      p.given (p.class? id) fun c =>
        p.given (c.key name t).toOption fun k => p.issue [⟨t, k⟩]
  | .newObject id name => p.given (p.class? id) fun c => p.hold (.new c name)
  | .copyObject place => p.given p.objects[place]? p.hold
  | .dropObject place => { p with objects := p.objects.eraseIdx place }
  | .call place k =>
      p.given p.objects[place]? fun o =>
        if k.keyAmong p.keys then
          { p with objects := p.objects.set place (o.afterwards (k.run o)) }
        else p
  | .declareBy id plugin scripts =>
      p.given (p.own? id) fun c => p.update (plugin.declare scripts c).2.1
  | .createBy id plugin scripts name =>
      p.given (p.class? id) fun c =>
        match plugin.create scripts c name p.ids with
        | (result, _, ids) =>
            let q : Program := { p with ids }
            q.given result.toOption q.hold
  | .newRegistry dirs proxy => { p with registries := p.registries ++ [.new dirs proxy] }
  | .dropRegistry place => { p with registries := p.registries.eraseIdx place }
  | .addBuiltin place name code =>
      p.given p.registries[place]? fun r => p.putRegistry place (r.addBuiltin name code) p.ids
  | .load place w name =>
      p.given p.registries[place]? fun r =>
        match r.load w name p.ids with
        | (_, r, ids) => p.putRegistry place r ids
  | .declareIn place w name =>
      p.given p.registries[place]? fun r =>
        match r.declare w name p.ids with
        | (_, r, ids) => p.putRegistry place r ids
  | .createIn place w name object =>
      p.given p.registries[place]? fun r =>
        match r.create w name object p.ids with
        | (result, r, ids) =>
            let q := p.putRegistry place r ids
            q.given result.toOption fun owned => q.hold owned.object

/-- Do one thing after the other. -/
def run (p : Program) (ops : List Operation) : Program := ops.foldl perform p

/-- Operations after others go on from where those ended. -/
theorem run_append (p : Program) (ops more : List Operation) :
    p.run (ops ++ more) = (p.run ops).run more := List.foldl_append

/-! ### Small laws -/

variable {p : Program} {c : SceneClass} {id : ClassId}

/-- A class that is looked up by its identity is one that the program sees, and has the identity.
-/
theorem class?_eq_some (found : p.class? id = some c) : c ∈ p.classes ∧ c.id = id :=
  ⟨List.mem_of_find?_eq_some found, by simpa using List.find?_some found⟩

/-- What may be changed is shared neither by an object nor by a registry. -/
theorem own?_eq_some (found : p.own? id = some c) :
    c ∈ p.classes ∧ c.id = id ∧ (∀ o ∈ p.objects, o.sceneClass.id ≠ c.id) ∧
      ∀ r ∈ p.registries, ∀ d ∈ r.keptClasses, d.id ≠ c.id := by
  unfold own? at found
  split at found
  · cases found
  · rename_i alone
    obtain ⟨there, rfl⟩ := class?_eq_some found
    refine ⟨there, rfl, ?_⟩
    simpa [shares] using alone

/-- What is seen after a class was replaced is the class and what has another identity. -/
theorem mem_classes_update {d : SceneClass} : d ∈ (p.update c).classes ↔
    (d = c ∧ ∃ e ∈ p.classes, e.id = c.id) ∨ d ∈ p.classes ∧ d.id ≠ c.id := by
  simp only [update, List.mem_map]
  constructor
  · rintro ⟨e, there, rfl⟩
    split
    · rename_i same
      exact .inl ⟨rfl, e, there, same⟩
    · rename_i other
      exact .inr ⟨there, other⟩
  · rintro (⟨rfl, e, there, same⟩ | ⟨there, other⟩)
    · exact ⟨e, there, if_pos same⟩
    · exact ⟨d, there, if_neg other⟩

/-- The classes that a registry keeps are seen along with those seen before. -/
theorem mem_classesWith {r : Registry} (kept : c ∈ r.keptClasses) : c ∈ p.classesWith r := by
  by_cases old : c ∈ p.classes
  · exact List.mem_append_left _ old
  · exact List.mem_append_right _ (List.mem_filter.2 ⟨kept, by simpa using old⟩)

end Program

end SceneSchema
