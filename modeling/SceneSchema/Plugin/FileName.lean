import SceneSchema.Disk.PathText

/-!
# Module files and class names

The module of a class is the file named for the class with `.so` appended, or, for a module that is
used for its declaration only, with `.so.proxy` appended. In the other direction the class is what
stands before the suffix, the letters of which may be of either case; the suffix alone names no
class.
-/

namespace SceneSchema.ModuleFile

/-- What a module file's name ends in. -/
def suffix (proxy : Bool) : String := if proxy then ".so.proxy" else ".so"

/-- The name of a class's module file. -/
def name (className : String) (proxy : Bool) : String := className ++ suffix proxy

/-- Whether two texts agree but for the case of ASCII letters. -/
def sameLetters (a b : List Char) : Bool := a.map Char.toLower == b.map Char.toLower

/-- What stands before the suffix in the last component of a path, if something does. -/
def stripSuffix? (path : String) (proxy : Bool) : Option String := do
  let chars := (← Path.fileName? path).toList
  let tail := (suffix proxy).toList
  let cut := chars.length - tail.length
  if tail.length < chars.length ∧ sameLetters (chars.drop cut) tail then
    some (String.ofList (chars.take cut))
  else none

/-- The class of a module file of either kind; empty if the path names no module file. -/
def className (path : String) : String :=
  ((stripSuffix? path true).or (stripSuffix? path false)).getD ""

/-- A class name is found only where something stands before the suffix. -/
theorem ne_empty_of_stripSuffix? {path c : String} {proxy : Bool}
    (h : stripSuffix? path proxy = some c) : c ≠ "" := by
  unfold stripSuffix? at h
  cases hn : Path.fileName? path with
  | none => simp [hn] at h
  | some n =>
    simp only [hn, bind, Option.bind] at h
    split at h
    · rename_i long
      cases h
      intro e
      have := congrArg (fun s => s.toList.length) e
      simp at this
      omega
    · cases h

end SceneSchema.ModuleFile
