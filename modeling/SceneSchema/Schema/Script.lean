import SceneSchema.Object

/-!
# How a class is declared and how its objects are made

What a class's own code does is given by a `Script`: the steps of its declaration, the roles its
objects can play, and how it makes an object. A step edits the class, naming keys by words that
earlier steps of the same run have bound, or it ends the declaration: with an error, or by breaking
down (`Action.panic`). The first failing step ends the declaration too, unless it is marked
`ignore`.

`Script.run` gives the outcome together with the class as the run left it, since a declaration that
fails keeps the rows it had declared.
-/

namespace SceneSchema

/-- One action of a declaration. -/
inductive Action where
  /-- Declare an attribute, and remember its key under the word if there is one. -/
  | declare (name : String) (default : Value) (flags : AttributeFlags) (bind : Option String)
  | addAlias (key name : String)
  | setMetadata (key entry text : String)
  | setGroup (key group : String)
  | setEnumText (key : String) (value : Int32) (text : String)
  | finalize
  /-- Give up with a reason. -/
  | fail (reason : String)
  /-- Give up because another class is missing. -/
  | notFound (name : String)
  /-- Break down. -/
  | panic
  deriving DecidableEq

/-- One step of a declaration. -/
structure Step where
  /-- What is done. -/
  action : Action
  /-- Whether the declaration goes on if the step fails. -/
  ignore : Bool := false
  deriving DecidableEq

/-- How an object is made. -/
inductive Creation where
  /-- With the class and the name asked for. -/
  | plain
  /-- With another, empty class. -/
  | foreign
  /-- With the class asked for and another name. -/
  | renamed
  /-- Not at all: the code breaks down. -/
  | panic
  deriving DecidableEq, Repr

/-- What the code of one class does. -/
structure Script where
  /-- What the declaration does. -/
  steps : List Step := []
  /-- The roles that it gives to the class. -/
  interface : Interface := .generic
  /-- How objects are made. -/
  creation : Creation := .plain
  deriving DecidableEq

/-- How a declaration ends. -/
inductive DeclareOutcome where
  | declared (interface : Interface)
  | failed (error : Error)
  | panicked
  deriving DecidableEq, Repr

/-- A key together with its type. -/
structure AnyKey where
  type : ValueType
  key : Key type
  deriving DecidableEq

/-- The keys that a run has bound so far, the latest first. -/
abbrev KeyTable := List (String × AnyKey)

namespace Script

/-- The error of a step that names a key which no step has bound. -/
def unboundKey (c : SceneClass) (key : String) : Error :=
  .declarationFailed c.name ("no key '" ++ key ++ "'")

/-- The key under a word. -/
def boundKey (c : SceneClass) (keys : KeyTable) (word : String) : Except Error AnyKey :=
  match keys.lookup word with
  | some k => .ok k
  | none => .error (unboundKey c word)

/-- The edit that an action asks for; an action that gives up is an error. -/
def toEdit (c : SceneClass) (keys : KeyTable) : Action → Except Error Edit
  | .declare name default flags _ => .ok (.declare name default flags)
  | .addAlias key name => do .ok (.addAlias (← boundKey c keys key).key.toSlotKey name)
  | .setMetadata key entry text => do
      .ok (.setMetadata (← boundKey c keys key).key.toSlotKey entry text)
  | .setGroup key group => do .ok (.setGroup (← boundKey c keys key).key.toSlotKey group)
  | .setEnumText key value text => do
      let k ← boundKey c keys key
      if h : k.type = .scalar .int then .ok (.setEnumText (h ▸ k.key) value text)
      else .error (unboundKey c key)
  | .finalize => .ok .finalize
  | .fail reason => .error (.declarationFailed c.name reason)
  | .notFound name => .error (.classNotFound name)
  | .panic => .error (.declarationFailed c.name "declare panicked")

/-- The keys after an action that succeeded and left the class as given. -/
def bindKey (c : SceneClass) (keys : KeyTable) : Action → KeyTable
  | .declare _ default _ (some word) => (word, ⟨default.type, c.lastKey default.type⟩) :: keys
  | _ => keys

/-- Run steps on a class: how they end, and the class they leave. -/
def runSteps (result : Interface) (c : SceneClass) (keys : KeyTable) :
    List Step → DeclareOutcome × SceneClass
  | [] => (.declared result, c)
  | s :: rest =>
      if s.action = .panic then (.panicked, c)
      else
        match toEdit c keys s.action >>= c.edit with
        | .ok c' => runSteps result c' (bindKey c' keys s.action) rest
        | .error e => if s.ignore then runSteps result c keys rest else (.failed e, c)

/-- Run the declaration of a script on a class. -/
def run (s : Script) (c : SceneClass) : DeclareOutcome × SceneClass :=
  runSteps s.interface c [] s.steps

end Script

/-! ## Making classes and objects -/

/-- The source of class identities: the number that the next class gets.

Classes that a module makes get theirs from the same source as those of the program that has loaded
it. A module that has a copy of the library to itself counts its classes by itself, and a number may
then stand for a class of the program and for one of the module. This makes no difference to any
caller: a class that a module makes is told from the one it was asked for by where it stands in
memory and not by its number, and the object of it is destroyed before anybody sees it. -/
structure IdSource where
  /-- The number for the next class. -/
  next : Nat := 1
  deriving DecidableEq, Inhabited, Repr

namespace IdSource

/-- The identity for the next class. -/
def fresh (ids : IdSource) : ClassId := ⟨ids.next⟩

/-- The source after one class was made. -/
def advance (ids : IdSource) : IdSource := ⟨ids.next + 1⟩

end IdSource

/-- Make an object as the script says: no object if the code breaks down. An object of another class
has a class of its own, which is new at that time (see `IdSource` on whose source it comes from). -/
def Creation.run (how : Creation) (c : SceneClass) (name : String) (ids : IdSource) :
    Option SceneObject × IdSource :=
  match how with
  | .plain => (some (.new c name), ids)
  | .foreign => (some (.new (.new ids.fresh "Other") name), ids.advance)
  | .renamed => (some (.new c ("renamed:" ++ name)), ids)
  | .panic => (none, ids)

end SceneSchema
