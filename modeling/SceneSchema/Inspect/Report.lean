import SceneSchema.Inspect.Arguments
import SceneSchema.Inspect.Candidate
import SceneSchema.Inspect.Description
import SceneSchema.Registry

/-!
# What the inspection command reports

The command prints the search path, then one row for each candidate that was asked for, with `[OK]`
if the module can be opened and has its entry points and `[FAIL]` if not. With `describe` each valid
module's class is loaded, through one registry for the whole run, and its description follows its
row; if the declaration fails, a line on the error output follows instead.

If a class that was named has no candidate, nothing but the search path and one error line is
printed.  The exit code is 2 in that case and for arguments that are refused, 1 if a row failed or a
declaration did, and 0 otherwise.
-/

namespace SceneSchema.Inspect

/-- What a run of the command leaves behind. -/
structure Report where
  exitCode : Nat
  /-- The lines printed. -/
  output : List String
  /-- The lines that the command itself prints on the error output. What its argument parser prints
  there about refused arguments is left out, and so is what others print there while it runs: the
  log, and the message of a module that breaks down. -/
  errors : List String := []
  deriving DecidableEq, Repr

/-- What became of one candidate. -/
inductive RowResult where
  /-- The module cannot be used. -/
  | invalid
  /-- The module can be used, and no description was asked for. -/
  | valid
  /-- The module's class was declared. -/
  | described (lines : List String)
  /-- The module's class could not be declared. -/
  | undeclared (failure : Failure)

/-- The word for the kind of module. -/
def kindName (proxy : Bool) : String := if proxy then "proxy" else "DSO"

/-- The line of a candidate. -/
def statusLine (c : Candidate) (valid : Bool) : String :=
  padRight 8 (if valid then "[OK]" else "[FAIL]") ++ " " ++ padRight 24 c.className ++ " " ++ c.path

/-- The lines printed for a candidate. -/
def RowResult.output (c : Candidate) : RowResult → List String
  | .invalid => [statusLine c false]
  | .valid | .undeclared _ => [statusLine c true]
  | .described lines => statusLine c true :: lines

/-- The lines on the error output for a candidate. A load that did not return would leave none; it
always returns, since no class is built into the command. -/
def RowResult.errors : RowResult → List String
  | .undeclared (.returned e) => ["         declare failed: " ++ e.message]
  | .undeclared .unwound | .invalid | .valid | .described _ => []

/-- Whether nothing failed. -/
def RowResult.isGood : RowResult → Bool
  | .valid | .described _ => true
  | .invalid | .undeclared _ => false

/-- Check one candidate, in the registry as the candidates before it left it. -/
def checkRow (a : Arguments) (w : World) (c : Candidate) (r : Registry) (ids : IdSource) :
    RowResult × Registry × IdSource :=
  if !Plugin.isValid w c.path a.proxy then (.invalid, r, ids)
  else if !a.describe then (.valid, r, ids)
  else
    match r.load w c.className ids with
    | (.ok l, r, ids) => (.described (describeClass l.sceneClass), r, ids)
    | (.error e, r, ids) => (.undeclared e, r, ids)

/-- Check candidates one after the other. -/
def checkRows (a : Arguments) (w : World) :
    List Candidate → Registry → IdSource → List (Candidate × RowResult)
  | [], _, _ => []
  | c :: rest, r, ids =>
      match checkRow a w c r ids with
      | (row, r, ids) => (c, row) :: checkRows a w rest r ids

/-- The first class asked for that no candidate has. -/
def missing? (a : Arguments) (found : List Candidate) : Option String :=
  a.classes.find? fun name => !found.any (·.className = name)

/-- The candidates asked for. -/
def selected (a : Arguments) (found : List Candidate) : List Candidate :=
  if a.classes = [] then found else found.filter fun c => a.classes.contains c.className

/-- Run the command with arguments that were understood. -/
def inspect (a : Arguments) (sources : SearchPath.Sources) (w : World) : Report :=
  let sources := (a.dirs.map sources.withExplicit).getD sources
  let dirs := sources.dirs w.files
  let head := "DSO search path: " ++ Path.joinList dirs
  let found := Candidate.scan w.files dirs a.proxy
  match missing? a found with
  | some name =>
      { exitCode := 2
        output := [head]
        errors := ["[ERROR] no " ++ kindName a.proxy ++ " module for class '" ++ name ++
          "' on the search path"] }
  | none =>
      match selected a found with
      | [] => { exitCode := 0, output := [head, "No " ++ kindName a.proxy ++ " modules found."] }
      | chosen =>
          let rows := checkRows a w chosen (.new dirs a.proxy) {}
          { exitCode := if rows.all fun (_, row) => row.isGood then 0 else 1
            output := head :: rows.flatMap fun (c, row) => row.output c
            errors := rows.flatMap fun (_, row) => row.errors }

/-- The command's name and its arguments in short. -/
def usage : List String :=
  [ "Probe and describe rdl2 scene class DSOs",
    "",
    "Usage: rdl2-dso-check [OPTIONS] [CLASSES]...",
    "",
    "Arguments:",
    "  [CLASSES]...  Class names to check (default: every module found on the search path)",
    "",
    "Options:",
    "  -d, --dso-path <DSO_PATH>    Extra DSO directories, searched first [aliases: --dso_path]",
    "      --proxy                  Check `<Class>.so.proxy` modules instead of `<Class>.so`",
    "      --describe               Load each valid class and print its attribute table",
    "      --log-level <LOG_LEVEL>  Log filter [default: warn]",
    "  -h, --help                   Print help",
    "  -V, --version                Print version" ]

/-- Run the command. -/
def run (words : List String) (sources : SearchPath.Sources) (w : World) : Report :=
  match Arguments.parse words with
  | .run a => inspect a sources w
  | .help => { exitCode := 0, output := usage }
  | .version => { exitCode := 0, output := ["rdl2-dso-check 0.1.0"] }
  | .refused => { exitCode := 2, output := [] }

end SceneSchema.Inspect
