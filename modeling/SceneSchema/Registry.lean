import SceneSchema.Plugin.Loaded

/-!
# The registry of classes

A `Registry` knows some classes by code built into the program and finds all others as modules on
its search path; built-in classes come first. The first successful load of a class runs its
declaration and keeps the class under its name; later loads give the class that is kept, without
running anything. Declaring a class runs its declaration in any case: the result must be the same as
what is kept, and what is kept stays.

A load makes a new class, with an identity of its own, and throws it away if the declaration fails.
So each operation also returns the source of identities as it left it.

Code that breaks down in a module breaks down behind the module's entry point, which turns this into
an error. Nothing stands between a registry and the code that is built in: if that breaks down, the
call into the registry does not return (`Failure.unwound`). The registry is left as it was by then,
and so is the source of identities, for whoever stops the unwinding further out.
-/

namespace SceneSchema

/-- Why a call gives nothing. -/
inductive Failure where
  /-- It returns an error. -/
  | returned (error : Error)
  /-- It does not return, since code that is built in has broken down. -/
  | unwound
  deriving DecidableEq, Repr

/-- What makes the objects of a class. -/
inductive Source where
  | plugin (plugin : Plugin)
  | builtin (code : Code)

/-- A declared class with what makes its objects. -/
structure LoadedClass where
  sceneClass : SceneClass
  source : Source

namespace LoadedClass

/-- The path of the class's module, if it has one. -/
def modulePath? (l : LoadedClass) : Option String :=
  match l.source with
  | .plugin p => some p.path
  | .builtin _ => none

/-- Whether the class is built in. -/
def isBuiltin (l : LoadedClass) : Bool := l.modulePath?.isNone

/-- The class as a report shows it. -/
def display (l : LoadedClass) : String :=
  "LoadedClass \x7b class: " ++ quoted l.sceneClass.name ++ ", dso: " ++
    displayOptionalPath l.modulePath? ++ " \x7d"

/-- Make an object of the class. -/
def create (l : LoadedClass) (scripts : Scripts) (name : String) (ids : IdSource) :
    Except Failure OwnedObject × LoadedClass × IdSource :=
  match l.source with
  | .plugin p =>
      match p.create scripts l.sceneClass name ids with
      | (.error e, p, ids) => (.error (.returned e), { l with source := .plugin p }, ids)
      | (.ok o, p, ids) => (.ok ⟨o, some p.path⟩, { l with source := .plugin p }, ids)
  | .builtin code =>
      match (code.script scripts l.sceneClass.name).creation.run l.sceneClass name ids with
      | (none, ids) => (.error .unwound, l, ids)
      | (some o, ids) =>
          if o.sceneClass.id = l.sceneClass.id then (.ok ⟨o, none⟩, l, ids)
          else (.error (.returned (.createFailed l.sceneClass.name name)), l, ids)

end LoadedClass

/-- The classes known by name, and where to find others. -/
structure Registry where
  /-- The directories of module files. -/
  dirs : List String
  /-- Whether modules are loaded for their declaration only. -/
  proxy : Bool
  /-- Code built into the program, by class name. -/
  builtins : Table String Code := []
  /-- The classes kept, by name. -/
  classes : Table String LoadedClass := []

namespace Registry

/-- A registry that knows no class yet. -/
def new (dirs : List String) (proxy : Bool) : Registry := { dirs, proxy }

/-- Build a class into the program, in place of one of the same name. -/
def addBuiltin (r : Registry) (name : String) (code : Code) : Registry :=
  { r with builtins := r.builtins.put name code }

/-- The class kept under a name. -/
def get? (r : Registry) (name : String) : Option LoadedClass := r.classes.lookup name

/-- The names of the classes kept, sorted. -/
def names (r : Registry) : List String := (r.classes.map (·.1)).mergeSort (· ≤ ·)

/-- The registry keeping a class under a name. -/
def keep (r : Registry) (name : String) (l : LoadedClass) : Registry :=
  { r with classes := r.classes.put name l }

/-- Make a class of the name and run its declaration. The registry is not changed by this. -/
def declareFresh (r : Registry) (w : World) (name : String) (ids : IdSource) :
    Except Failure LoadedClass × IdSource :=
  let c := SceneClass.new ids.fresh name
  let result : Except Failure LoadedClass :=
    match r.builtins.lookup name with
    | some code =>
        match (code.script w.scripts name).run c with
        | (.declared i, c') => .ok ⟨(c'.withInterface i).finalize, .builtin code⟩
        | (.failed e, _) => .error (.returned e)
        | (.panicked, _) => .error .unwound
    | none =>
        match Plugin.acquire w name r.dirs r.proxy with
        | .error e => .error (.returned e)
        | .ok p =>
            match p.declare w.scripts c with
            | (.ok _, c', p) => .ok ⟨c', .plugin p⟩
            | (.error e, _, _) => .error (.returned e)
  (result, ids.advance)

/-- The class of a name, declared if it is not kept yet. -/
def load (r : Registry) (w : World) (name : String) (ids : IdSource) :
    Except Failure LoadedClass × Registry × IdSource :=
  match r.get? name with
  | some l => (.ok l, r, ids)
  | none =>
      match r.declareFresh w name ids with
      | (.ok l, ids) => (.ok l, r.keep name l, ids)
      | (.error e, ids) => (.error e, r, ids)

/-- Run the declaration of a class; the result must agree with the class kept, if there is one. -/
def declare (r : Registry) (w : World) (name : String) (ids : IdSource) :
    Except Failure SceneClass × Registry × IdSource :=
  match r.declareFresh w name ids with
  | (.error e, ids) => (.error e, r, ids)
  | (.ok new, ids) =>
      match r.get? name with
      | none => (.ok new.sceneClass, r.keep name new, ids)
      | some old =>
          if old.sceneClass.sameDeclaration new.sceneClass then (.ok old.sceneClass, r, ids)
          else (.error (.returned (.conflictingDeclaration name)), r, ids)

/-- Make an object of the class of a name. -/
def create (r : Registry) (w : World) (name object : String) (ids : IdSource) :
    Except Failure OwnedObject × Registry × IdSource :=
  match r.load w name ids with
  | (.error e, r, ids) => (.error e, r, ids)
  | (.ok l, r, ids) =>
      match l.create w.scripts object ids with
      | (result, l, ids) => (result, r.keep name l, ids)

/-- The registry as a report shows it. -/
def display (r : Registry) : String :=
  "SceneClassRegistry \x7b config: LoaderConfig \x7b search_path: " ++
    bracketed (r.dirs.map quoted) ++ ", proxy_mode: " ++ toString r.proxy ++
    " \x7d, builtins: " ++ bracketed (r.builtins.map fun b => quoted b.1) ++
    ", classes: " ++ bracketed (r.names.map quoted) ++ " \x7d"

/-! ## Small laws -/

/-- What is kept under a name is found under it. -/
theorem get?_keep_self (r : Registry) (name : String) (l : LoadedClass) :
    (r.keep name l).get? name = some l := Table.lookup_put_self name l r.classes

/-- Under other names the same is found as before. -/
theorem get?_keep_of_ne (r : Registry) {name other : String} (h : other ≠ name) (l : LoadedClass) :
    (r.keep name l).get? other = r.get? other := Table.lookup_put_of_ne h l r.classes

/-- Loading a class that is kept runs nothing and changes nothing. -/
theorem load_of_get? {r : Registry} {name : String} {l : LoadedClass}
    (h : r.get? name = some l) (w : World) (ids : IdSource) :
    r.load w name ids = (.ok l, r, ids) := by
  simp [load, h]

end Registry

end SceneSchema
