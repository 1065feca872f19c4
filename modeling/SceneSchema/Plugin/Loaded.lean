import SceneSchema.Disk.SearchPath
import SceneSchema.Plugin.FileName
import SceneSchema.Plugin.Library

/-!
# Loaded modules

A `Plugin` is a module file that has been found and loaded for one class. Its entry points are
looked up when they are first needed, and the answers are kept, failures included, until the module
is closed; from then on every lookup fails with `Error.moduleClosed`. `Plugin.journal` records what
was asked of the library and which of its entry points were run.

A module declares its class by editing the class it is given. If that fails, the class is returned
as the edits left it, together with the error; if it succeeds the class gets the roles that the
module reports and is closed.

A module opened for its declaration only (`proxy`) creates no objects. Otherwise an object counts as
created if it is an object of the very class that was asked for; any other is destroyed at once. A
program asks this of the class itself, not of its number. Here classes are told apart by their
numbers, which comes to the same as long as no two classes share one: classes made by the code of a
module are numbered from the program's source (`IdSource` says what this leaves out).
-/

namespace SceneSchema

/-- Something that happened between a program and a loaded library. -/
inductive Contact where
  /-- The library was asked for an entry point. -/
  | lookedUp (entry : EntryPoint)
  /-- An entry point was run. -/
  | ran (entry : EntryPoint)
  deriving DecidableEq, Repr

/-! ## Names on their way to a module -/

/-- The name of an object as a module is handed it: its bytes, and a zero behind them. A name with a
zero in it cannot be handed over. -/
def handedOver? (name : String) : Option (List UInt8) :=
  if name.toList.contains '\x00' then none else some (utf8Bytes name ++ [0])

/-- The name that a module reads: the bytes before the first zero, if they are a text. -/
def arrived? (bytes : List UInt8) : Option String := textOfUtf8? (bytes.takeWhile (· ≠ 0))

/-- What the entry point for creation makes, in a module with such code: nothing if the bytes that
it is handed are no name. -/
def Creation.runEntry (how : Creation) (c : SceneClass) (bytes : List UInt8)
    (ids : IdSource) : Option SceneObject × IdSource :=
  match arrived? bytes with
  | some name => how.run c name ids
  | none => (none, ids)

/-! ## Modules -/

/-- A module that was loaded for a class. -/
structure Plugin where
  className : String
  /-- The path it was loaded from. -/
  path : String
  /-- Whether it was loaded for its declaration only. -/
  proxy : Bool
  /-- The library; none once the module is closed. -/
  library : Option Library
  /-- The answers to earlier lookups. -/
  known : List (EntryPoint × Except Error Code) := []
  /-- What happened so far, the latest first. -/
  journal : List Contact := []

namespace Plugin

/-! ## Opening and closing -/

/-- The path of a class's module file: in the first directory that has it; without directories, the
name alone. -/
def locate (files : FileTree FileContent) (className : String) (dirs : List String)
    (proxy : Bool) : Except Error String :=
  let name := ModuleFile.name className proxy
  if dirs = [] then .ok name
  else
    match SearchPath.findFile? files name dirs with
    | some path => .ok path
    | none => .error (.moduleNotFound className (Path.joinList dirs))

/-- A module that has just been loaded. Nothing has been asked of it. -/
def opened (className path : String) (proxy : Bool) (l : Library) : Plugin :=
  { className, path, proxy, library := some l }

/-- Find and load the module of a class. -/
def acquire (w : World) (className : String) (dirs : List String) (proxy : Bool) :
    Except Error Plugin := do
  let path ← locate w.files className dirs proxy
  match w.load path with
  | some l => .ok (opened className path proxy l)
  | none => .error (.moduleLoadFailed path .platform)

/-- Whether the module has not been closed. -/
def isOpen (p : Plugin) : Bool := p.library.isSome

/-- Close the module; a closed one stays as it is. -/
def close (p : Plugin) : Plugin := { p with library := none, known := [] }

/-- The module as a report shows it. -/
def display (p : Plugin) : String :=
  "Dso \x7b class_name: " ++ quoted p.className ++ ", path: " ++ quoted p.path ++
    ", proxy_mode: " ++ toString p.proxy ++ ", open: " ++ toString p.isOpen ++ " \x7d"

/-! ## Entry points -/

/-- Ask the library for an entry point. -/
def ask (p : Plugin) (entry : EntryPoint) : Except Error Code :=
  match p.library with
  | none => .error (.moduleClosed p.path)
  | some l =>
      match l.exports entry with
      | .missing => .error (.symbolNotFound entry.symbol p.path .platform)
      | .null => .error (.symbolNotFound entry.symbol p.path .nullAddress)
      | .present => .ok l.code

/-- The code behind an entry point, looked up unless the answer is known. -/
def resolve (p : Plugin) (entry : EntryPoint) : Except Error Code × Plugin :=
  match p.known.lookup entry with
  | some answer => (answer, p)
  | none =>
      let answer := p.ask entry
      let journal := if p.isOpen then .lookedUp entry :: p.journal else p.journal
      (answer, { p with known := (entry, answer) :: p.known, journal })

/-- The module with an entry point's run recorded. -/
def running (p : Plugin) (entry : EntryPoint) : Plugin :=
  { p with journal := .ran entry :: p.journal }

/-! ## Declaring and creating -/

/-- Let the module declare a class. -/
def declare (p : Plugin) (scripts : Scripts) (c : SceneClass) :
    Except Error Interface × SceneClass × Plugin :=
  match p.resolve .declare with
  | (.error e, p) => (.error e, c, p)
  | (.ok code, p) =>
      match (code.script scripts c.name).run c with
      | (.declared i, c') => (.ok i, (c'.withInterface i).finalize, p.running .declare)
      | (.failed e, c') => (.error e, c', p.running .declare)
      | (.panicked, c') =>
          (.error (.declarationFailed c'.name "declare panicked"), c', p.running .declare)

/-- Let the module make an object of a class. -/
def create (p : Plugin) (scripts : Scripts) (c : SceneClass) (name : String) (ids : IdSource) :
    Except Error SceneObject × Plugin × IdSource :=
  if p.proxy then (.error (.proxyMode p.className), p, ids)
  else
    match p.resolve .create with
    | (.error e, p) => (.error e, p, ids)
    | (.ok code, p) =>
        match p.resolve .destroy with
        | (.error e, p) => (.error e, p, ids)
        | (.ok _, p) =>
            match handedOver? name with
            | none => (.error (.invalidData (.nulInName name)), p, ids)
            | some bytes =>
                let p := p.running .create
                let failed := Error.createFailed p.className name
                match (code.script scripts c.name).creation.runEntry c bytes ids with
                | (none, ids) => (.error failed, p, ids)
                | (some o, ids) =>
                    if o.sceneClass.id = c.id then (.ok o, p, ids)
                    else (.error failed, p.running .destroy, ids)

/-! ## Probing a file -/

/-- Whether a path names a module file that has the entry points it needs: the file name must end in
the suffix, and the module is opened from the file's directory under the name that stands before. -/
def isValid (w : World) (path : String) (proxy : Bool) : Bool :=
  match ModuleFile.stripSuffix? path proxy with
  | none => false
  | some className =>
      let dir := match Path.parent? path with
        | some d => if d = "" then "." else d
        | none => "."
      match acquire w className [dir] proxy with
      | .error _ => false
      | .ok p =>
          (p.ask .declare).isOk && (proxy || ((p.ask .create).isOk && (p.ask .destroy).isOk))

/-! ## Small laws -/

/-- Whatever module is found and loaded, it has just been loaded from a path. -/
theorem opened_of_acquire {w : World} {className : String} {dirs : List String} {proxy : Bool}
    {p : Plugin} (acquired : acquire w className dirs proxy = .ok p) :
    ∃ path l, p = opened className path proxy l := by
  obtain ⟨path, -, acquired⟩ := bind_eq_ok_iff.1 acquired
  split at acquired
  · rename_i l _
    exact ⟨path, l, (Except.ok.inj acquired).symm⟩
  · cases acquired

/-- A proxy creates nothing and asks its library for nothing. -/
theorem create_of_proxy {p : Plugin} (h : p.proxy = true) (scripts : Scripts) (c : SceneClass)
    (name : String) (ids : IdSource) :
    p.create scripts c name ids = (.error (.proxyMode p.className), p, ids) := by
  simp [create, h]

end Plugin

/-! ## Owned objects -/

/-- An object with the module that made it, if one did. -/
structure OwnedObject where
  object : SceneObject
  /-- The path of the module. -/
  origin : Option String
  deriving DecidableEq

/-- A path that may be missing, as a report shows it. -/
def displayOptionalPath : Option String → String
  | none => "None"
  | some path => "Some(" ++ quoted path ++ ")"

/-- The object as a report shows it. -/
def OwnedObject.display (o : OwnedObject) : String :=
  "SceneObjectHandle \x7b class: " ++ quoted o.object.sceneClass.name ++ ", name: " ++
    quoted o.object.name ++ ", dso: " ++ displayOptionalPath o.origin ++ " \x7d"

end SceneSchema
