import SceneSchema.Disk.SearchPath
import SceneSchema.Plugin.FileName
import SceneSchema.Plugin.Library

/-!
# Module files on the search path

A `Candidate` is a file whose name ends in the suffix of the mode, in exactly that case, together
with the class it would be the module of. The candidates of a directory come in the order of their
classes, and those of a search path in the order of its directories, each class once, at the first
place where it is found. Directories that cannot be listed have no candidates.
-/

namespace SceneSchema.Inspect

/-- A module file and the class named by its file name. -/
structure Candidate where
  /-- The class that is read off the file name. -/
  className : String
  /-- The path of the module file. -/
  path : String
  deriving DecidableEq, Repr

namespace Candidate

/-- The candidate that an entry of a directory is, if it is one. -/
def ofName? (files : FileTree FileContent) (proxy : Bool) (dir : String) (entry : EntryName) :
    Option Candidate :=
  let path := Path.join dir entry.text
  let className := ModuleFile.className entry.text
  if files.isFile path && (ModuleFile.suffix proxy).toList.isSuffixOf entry.text.toList &&
      className ≠ "" then
    some ⟨className, path⟩
  else none

/-- The candidates of a directory, in the order of their classes. -/
def inDir (files : FileTree FileContent) (proxy : Bool) (dir : String) : List Candidate :=
  (((files.list? dir).getD []).filterMap (ofName? files proxy dir)).mergeSort
    fun a b => a.className ≤ b.className

/-- The candidates with those of another list appended whose class is new. -/
def extend (found more : List Candidate) : List Candidate :=
  more.foldl (fun found c =>
    if found.any (·.className = c.className) then found else found ++ [c]) found

/-- The candidates of a search path. -/
def scan (files : FileTree FileContent) (dirs : List String) (proxy : Bool) : List Candidate :=
  dirs.foldl (fun found dir => extend found (inDir files proxy dir)) []

end Candidate

end SceneSchema.Inspect
