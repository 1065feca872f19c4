import SceneSchema.Disk.PathText

/-!
# Paths as walks

For finding what a path leads to, a path is the moves that its pieces between slashes ask for, one
after the other: stay, go up, or go down to an entry. A piece that is empty or one dot is a move as
well, though it stays, because only a directory can be stayed in.

The name of an entry (`EntryName`) is never empty, never one of the two dots, and has no slash in
it; so a name is a move of its own kind in every path in which it is a piece (`ofPiece_text`).
-/

namespace SceneSchema

/-- Whether a text can name an entry of a directory. -/
def isEntryName (s : String) : Bool :=
  s != "" && s != "." && s != ".." && !s.toList.contains '/'

/-- The name of an entry of a directory. -/
structure EntryName where
  text : String
  valid : isEntryName text = true
  deriving DecidableEq

/-- One move of a walk through directories. -/
inductive Move where
  | stay
  | up
  | down (name : EntryName)
  deriving DecidableEq

namespace Move

/-- The move that a piece of a path asks for. -/
def ofPiece (piece : String) : Move :=
  if piece = ".." then .up
  else if valid : isEntryName piece = true then .down ⟨piece, valid⟩
  else .stay

/-- The name of an entry asks to go down to it. -/
theorem ofPiece_text (name : EntryName) : ofPiece name.text = .down name := by
  have valid := name.valid
  have notUp : name.text ≠ ".." := by rintro h; simp [h, isEntryName] at valid
  simp [ofPiece, notUp, valid]

end Move

/-- The moves of a path. A leading slash stands behind an empty piece, so it is a move to stay. -/
def Path.moves (path : String) : List Move :=
  (pieces '/' path.toList).map fun piece => .ofPiece (String.ofList piece)

end SceneSchema
