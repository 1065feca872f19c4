import SceneSchema.Disk.Probe
import SceneSchema.Inspect.Report
import SceneSchema.Plugin.LoaderPath

/-!
# The inspection command

Reads the environment and the directories that a search may look into, and prints the report of
`Inspect.run`. What is read from the disk is turned into a `FileTree` before the report is made; a
directory that is reached through links stands in the tree as a link to where it really is, and so
do the directories on the way to it.
-/

namespace SceneSchema.Main

/-- The result of an action, or nothing if it fails. -/
def attempt {α : Type} (action : IO α) : IO (Option α) := do
  try return some (← action) catch _ => return none

/-- The tree with a directory. -/
def readPlace (t : FileTree FileContent) (dir : String) : IO (FileTree FileContent) := do
  let some place ← attempt (IO.FS.realPath dir) | return t
  if !(← place.isDir) then return t
  let real := place.toString
  let t := t.addDir real
  return if t.canonical? dir = some real then t else t.add dir (.link real)

/-- The fronts of a path that end in a piece, the shortest first. -/
def fronts (path : String) : List String :=
  let parts := Path.pieces '/' path.toList
  (List.range parts.length).map fun n =>
    let front := String.ofList (List.intercalate ['/'] (parts.take (n + 1)))
    if front = "" then "/" else front

/-- The tree with a directory, those on the way to it, and the files in it that matter to a
search; or with a note that the directory cannot be listed. -/
def readDirectory (t : FileTree FileContent) (dir : String) : IO (FileTree FileContent) := do
  let t ← (fronts dir).foldlM readPlace t
  let some place ← attempt (IO.FS.realPath dir) | return t
  let some entries ← attempt place.readDir
    | return { t with unlistable := (t.resolve? place.toString).toList ++ t.unlistable }
  entries.foldlM (fun t entry => do
    if Probe.isRelevant entry.fileName then
      let path := Path.join place.toString entry.fileName
      match ← attempt (IO.FS.readBinFile path) with
      | some bytes => return t.add path (.file (Probe.content bytes.toList))
      | none => return t
    else return t) t

/-- The tree with the given directories, also as the loader reads them. -/
def readDirectories (t : FileTree FileContent) (dirs : List String) : IO (FileTree FileContent) :=
  let asOpened := dirs.map (LoaderPath.expand (FileTree.fullName t.programDir))
  ((dirs ++ asOpened).filter (· ≠ "")).eraseDups.foldlM readDirectory t

/-- The directories that a search may look into, but for the guess. -/
def namedDirectories (words : List String) (s : SearchPath.Sources) : List String :=
  let given := match Inspect.Arguments.parse words with
    | .run a => ((a.dirs.map Path.splitList).getD [])
    | _ => []
  given ++ ["."] ++ ((s.modules.map Path.splitList).getD []) ++
    ((s.programs.map Path.splitList).getD [])

end SceneSchema.Main

open SceneSchema in
/-- Print the report for the arguments, the environment and the disk. -/
def main (words : List String) : IO UInt32 := do
  let sources : SearchPath.Sources :=
    { modules := ← IO.getEnv SearchPath.modulesVariable
      programs := ← IO.getEnv SearchPath.programsVariable }
  let nothing := FileTree.empty (← IO.FS.realPath ".").toString (← IO.appDir).toString
  let files ← Main.readDirectories nothing (Main.namedDirectories words sources)
  let files ← Main.readDirectories files (SearchPath.guess? files sources).toList
  let report := Inspect.run words sources (.onDisk files [])
  report.output.forM fun line => IO.println line
  report.errors.forM fun line => IO.eprintln line
  return UInt32.ofNat report.exitCode
