import SceneSchema.Disk.FileTree
import SceneSchema.Schema.Script

/-!
# What is in a module file

A module file can be a library or something that no loader accepts (`FileContent`). A library
exports up to three entry points, each present, missing, or present at address zero; behind them is
the code of a class (`Code`): a fixed script, or the script that the world keeps under the name of
the class it is asked to work on. The same code may be built into a program.

`World` is what lies outside a program: the files, the scripts, and the platform's loader. All of
this may change between two calls, so operations take the world as an argument.

What a loader makes of a path is its own affair. It may read a path otherwise than it stands, look
for a bare name in directories of its own, and give a library once more that it has loaded before,
whatever has become of the file. So `World.load` may be any function, and what is relied on of it is
said where it is relied on: `World.OpensAsIs`, that a path gives the library which stands under it,
and `World.LoadsBy` (among the proofs), that this is so unless the path has one of certain words in
it. `World.onDisk` is a world with a loader that can be run.
-/

namespace SceneSchema

/-- The entry points of a module. -/
inductive EntryPoint where
  | declare
  | create
  | destroy
  deriving DecidableEq, Repr

/-- The symbol under which a module exports an entry point. -/
def EntryPoint.symbol : EntryPoint → String
  | .declare => "rdl2_declare"
  | .create => "rdl2_create"
  | .destroy => "rdl2_destroy"

/-- How a library exports an entry point. -/
inductive Export where
  | missing
  | null
  | present
  deriving DecidableEq, Repr

/-- The scripts of classes by class name; of several for a name the first counts. -/
abbrev Scripts := List (String × Script)

/-- The code of a class. -/
inductive Code where
  /-- Does what the script does that is kept under the class's name. -/
  | scripted
  /-- Does what the script does. -/
  | fixed (script : Script)
  deriving DecidableEq

/-- The script that the code runs for a class; without one kept for the class, an empty script. -/
def Code.script (code : Code) (scripts : Scripts) (className : String) : Script :=
  match code with
  | .scripted => (scripts.lookup className).getD {}
  | .fixed s => s

/-- A library: its entry points and the code behind them. -/
structure Library where
  declare : Export
  create : Export
  destroy : Export
  code : Code
  deriving DecidableEq

/-- How the library exports an entry point. -/
def Library.exports (l : Library) : EntryPoint → Export
  | .declare => l.declare
  | .create => l.create
  | .destroy => l.destroy

/-- What is in a file. -/
inductive FileContent where
  /-- Something that is no library. -/
  | other
  | library (library : Library)
  deriving DecidableEq

/-- The library in the file that a path leads to. -/
def FileTree.library? (t : FileTree FileContent) (path : String) : Option Library :=
  match t.content? path with
  | some (.library l) => some l
  | _ => none

/-- A library is at a path if it is the content of the file there. -/
theorem FileTree.library?_eq_some_iff {t : FileTree FileContent} {path : String} {l : Library} :
    t.library? path = some l ↔ t.content? path = some (.library l) := by
  rw [library?]
  rcases t.content? path with _ | _ | l' <;> simp

/-- What lies outside a program. -/
structure World where
  /-- The files and directories. -/
  files : FileTree FileContent
  /-- What the code of classes does. -/
  scripts : Scripts
  /-- What the platform's loader makes of a path. -/
  load : String → Option Library

/-- The loader opens the path as it stands: it loads the library in the file under the path, and
nothing if there is none. -/
def World.OpensAsIs (w : World) (path : String) : Prop := w.load path = w.files.library? path

end SceneSchema
