import SceneSchema.Plugin.Library

/-!
# A loader that can be run

Before it opens the file of a path, the loader of a common platform replaces certain words behind a
dollar sign, in braces or as whole words, by what they stand for (`LoaderPath.Word`): the directory
of the running program, the name of the processor, and the usual directory of libraries
(`LoaderPath.words`). What is put in for a word is not looked through again.

`World.onDisk` is the world of a disk with this loader. It has no directories of its own in which a
bare name would be found, and keeps nothing in mind from one call to the next; nothing that is
proved of programs rests on either.

Main statement: `opensAsIs_onDisk`, a path with a slash and without a dollar sign is opened as it
stands.
-/

namespace SceneSchema

namespace LoaderPath

/-- A word that is replaced, and what it stands for. -/
structure Word where
  /-- What is written behind the dollar sign. -/
  name : String
  /-- What is put in its place. -/
  meaning : String
  deriving DecidableEq, Repr

/-- The words that are replaced, for a program in a directory. -/
def words (programDir : String) : List Word :=
  [⟨"ORIGIN", programDir⟩, ⟨"PLATFORM", "x86_64"⟩, ⟨"LIB", "lib/x86_64-linux-gnu"⟩]

/-- Whether a word goes on with the character. -/
def goesOn (c : Char) : Bool := c.isAlphanum || c == '_'

/-- How many characters the word takes of the text behind a dollar sign, if it stands there. -/
def Word.taken? (w : Word) (text : List Char) : Option Nat :=
  let name := w.name.toList
  match text with
  | '\x7b' :: inner =>
      if (name ++ ['\x7d']).isPrefixOf inner then some (name.length + 2) else none
  | _ =>
      if name.isPrefixOf text && !((text.drop name.length).head?.any goesOn) then some name.length
      else none

/-- The text with words replaced, after the given number of characters, which are left out. -/
def expandFrom (ws : List Word) : Nat → List Char → List Char
  | _, [] => []
  | skip + 1, _ :: rest => expandFrom ws skip rest
  | 0, c :: rest =>
      let found :=
        if c = '$' then ws.findSome? fun w => (w.taken? rest).map (w.meaning, ·) else none
      match found with
      | some (meaning, taken) => meaning.toList ++ expandFrom ws taken rest
      | none => c :: expandFrom ws 0 rest

/-- The path that the loader opens for a path, in a program in a directory. -/
def expand (programDir path : String) : String :=
  String.ofList (expandFrom (words programDir) 0 path.toList)

/-- What the loader makes of a path with the files there are. A path without a slash is looked for
in directories of the platform's own, where no module is. -/
def load? (files : FileTree FileContent) (path : String) : Option Library :=
  if path.toList.contains '/' then
    files.library? (expand (FileTree.fullName files.programDir) path)
  else none

/-- Nothing is replaced without a dollar sign. -/
theorem expandFrom_of_not_mem (ws : List Word) {text : List Char} (h : '$' ∉ text) :
    expandFrom ws 0 text = text := by
  induction text with
  | nil => rfl
  | cons c rest ih =>
    obtain ⟨hc, hrest⟩ := List.ne_and_not_mem_of_not_mem_cons h
    simp [expandFrom, Ne.symm hc, ih hrest]

/-- A path without a dollar sign is left as it is. -/
theorem expand_of_not_mem (programDir : String) {path : String} (h : '$' ∉ path.toList) :
    expand programDir path = path := by
  rw [expand, expandFrom_of_not_mem _ h, String.ofList_toList]

/-- A longer word is not replaced, a word in braces is whatever follows, and an earlier dollar sign
stays. -/
example : expand "/p" "$ORIGINS/a" = "$ORIGINS/a" ∧ expand "/p" "$\x7bORIGIN\x7ds" = "/ps" ∧
    expand "/p" "$$ORIGIN.so" = "$/p.so" := by decide +kernel

end LoaderPath

/-- What lies outside a program on a disk: the files, some scripts, and the loader. -/
def World.onDisk (files : FileTree FileContent) (scripts : Scripts) : World :=
  { files, scripts, load := LoaderPath.load? files }

/-- A path with a slash and without a dollar sign is opened as it stands. -/
theorem World.opensAsIs_onDisk (files : FileTree FileContent) (scripts : Scripts) {path : String}
    (slash : '/' ∈ path.toList) (plain : '$' ∉ path.toList) :
    (World.onDisk files scripts).OpensAsIs path := by
  show LoaderPath.load? files path = files.library? path
  rw [LoaderPath.load?, if_pos (List.contains_iff_mem.2 slash),
    LoaderPath.expand_of_not_mem _ plain]

end SceneSchema
