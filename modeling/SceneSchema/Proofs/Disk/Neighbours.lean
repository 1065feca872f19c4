import SceneSchema.Proofs.Disk.Components
import SceneSchema.Proofs.Disk.FullNames

/-!
# Beside a directory

A path that goes up from a directory and down again to a name (`Path.aside`) leads to what stands
beside the directory, wherever the directory's own path leads; if that goes through links, it need
not be what stands beside the path. The same place has a full name, and perhaps another path, in
which the last component of the directory's path is replaced.

* `FileTree.resolve?_above` — two dots behind a directory's path lead to the place above it.
* `FileTree.denotes_fullName_of_aside` — **the full name of what stands beside a directory** denotes
  what going up and down leads to.
* `FileTree.resolve?_aside_of_endsInDir` — **so does the path with the last component replaced**, if
  this component is the name of the directory itself, and not of a link to it (`EndsInDir`).
-/

namespace SceneSchema

namespace Path

/-- The path that goes up from a directory and down to the name. -/
def aside (dir : String) (name : EntryName) : String := join dir ("../" ++ name.text)

/-- To go up and down again is written as two dots, a slash and the name. -/
theorem toList_upAndDown (name : EntryName) :
    ("../" ++ name.text).toList = ['.', '.'] ++ '/' :: name.text.toList := by
  rw [String.toList_append]
  rfl

/-- This does not start at the root. -/
theorem isAbsolute_upAndDown (name : EntryName) : isAbsolute ("../" ++ name.text) = false := by
  rw [isAbsolute, toList_upAndDown]
  rfl

/-- It has two pieces. -/
theorem pieces_upAndDown (name : EntryName) :
    pieces '/' ("../" ++ name.text).toList = [['.', '.'], name.text.toList] := by
  rw [toList_upAndDown, pieces_append, pieces_of_not_mem (slash_not_mem name)]
  rfl

/-- It asks to go up and then down to the entry. -/
theorem moves_upAndDown (name : EntryName) : moves ("../" ++ name.text) = [.up, .down name] := by
  rw [moves, pieces_upAndDown, List.map_cons, List.map_singleton, String.ofList_toList,
    Move.ofPiece_text]
  rfl

/-- What stands beside a directory has a path that starts where the directory's does. -/
theorem isAbsolute_aside {dir : String} (given : dir ≠ "") (name : EntryName) :
    isAbsolute (aside dir name) = isAbsolute dir :=
  isAbsolute_join_of_relative given (isAbsolute_upAndDown name)

/-- This path is not empty. -/
theorem aside_ne_empty {dir : String} (given : dir ≠ "") (name : EntryName) :
    aside dir name ≠ "" :=
  join_ne_empty_of_relative given (isAbsolute_upAndDown name)

/-- An empty piece at the end of a directory's path is not there when something is joined to it. -/
theorem pieces_aside {dir : String} {before silent : List (List Char)} {last : EntryName}
    (given : dir ≠ "") (cut : pieces '/' dir.toList = before ++ last.text.toList :: silent)
    (quiet : ∀ p ∈ silent, isSilent p = true) (name : EntryName) :
    ∃ silent', pieces '/' (aside dir name).toList =
        before ++ last.text.toList :: silent' ++ [['.', '.'], name.text.toList] ∧
      ∀ p ∈ silent', isSilent p = true := by
  obtain ⟨ps, -, whole, own⟩ := pieces_join_of_relative given (isAbsolute_upAndDown name)
  rw [pieces_upAndDown] at whole
  rcases own with same | trailing
  · exact ⟨silent, by rw [aside, whole, ← same, cut], quiet⟩
  · rcases List.eq_nil_or_concat silent with rfl | ⟨silent', p, rfl⟩
    · have ends := (List.append_inj' (cut.symm.trans trailing) rfl).2
      exact absurd (List.cons.inj ends).1 (mt String.toList_eq_nil_iff.1 (text_ne_empty last))
    · rw [cut, List.concat_eq_append, ← List.cons_append, ← List.append_assoc] at trailing
      refine ⟨silent', by rw [aside, whole, (List.append_inj' trailing rfl).1], fun p there => ?_⟩
      exact quiet p (List.concat_eq_append ▸ List.mem_append_left _ there)

/-- What is joined with a name is not empty. -/
theorem join_text_ne_empty (dir : String) (name : EntryName) : join dir name.text ≠ "" := by
  by_cases given : dir = ""
  · subst given
    simpa [join] using text_ne_empty name
  · exact join_ne_empty given name

end Path

namespace FileTree

variable {α : Type} {t : FileTree α} {dir : String} {q : Place} {entries : Entries α}
  {links : Nat} {place : Place}

/-! ### By the full name -/

/-- The place above a directory is a directory; above the root it is the root itself. -/
theorem exists_dir_dropLast (there : t.node? q = some (.dir entries)) :
    ∃ entries', t.node? q.dropLast = some (.dir entries') := by
  rcases List.eq_nil_or_concat q with rfl | ⟨front, name, rfl⟩
  · exact ⟨entries, there⟩
  · rw [List.concat_eq_append] at there ⊢
    rw [List.dropLast_concat]
    exact exists_dir_of_node?_append there

/-- **Two dots lead to the place above.** -/
theorem resolve?_above (leads : t.resolve? dir = some q) (there : t.node? q = some (.dir entries))
    (short : (Path.join dir "..").utf8ByteSize ≤ maxPathBytes) :
    t.resolve? (Path.join dir "..") = some q.dropLast := by
  have given := (resolve?_eq_some_iff.1 leads).1
  have relative : Path.isAbsolute ".." = false := by decide +kernel
  have up : Path.moves ".." = [.up] := by decide +kernel
  obtain ⟨links, -, goesOn⟩ := walk_join leads relative
  rw [resolve?_of_short (Path.join_ne_empty_of_relative given relative) short, goesOn, up,
    walk_up there, walk_nil]

/-- Going up and down from a directory goes down from the place above it. -/
theorem walk_aside (leads : t.resolve? dir = some q) (there : t.node? q = some (.dir entries))
    (name : EntryName) : ∃ links ≤ maxLinks,
      t.walk anywhere maxLinks (start (Path.aside dir name) t.workDir)
        (Path.moves (Path.aside dir name)) = t.walk anywhere links q.dropLast [.down name] := by
  obtain ⟨links, few, goesOn⟩ := walk_join leads (Path.isAbsolute_upAndDown name)
  refine ⟨links, few, ?_⟩
  rw [Path.aside, goesOn, Path.moves_upAndDown, walk_up there]

/-- The moves of the path lead to the place, however long the path is. -/
def Denotes (t : FileTree α) (path : String) (p : Place) : Prop :=
  path ≠ "" ∧ t.walk anywhere maxLinks (start path t.workDir) (Path.moves path) = some p

/-- A path leads to what it denotes if it is not too long. -/
theorem resolve?_eq_some_iff_denotes {path : String} {p : Place} :
    t.resolve? path = some p ↔ path.utf8ByteSize ≤ maxPathBytes ∧ t.Denotes path p := by
  rw [resolve?_eq_some_iff, Denotes, and_left_comm]

/-- **The full name of what stands beside a directory** denotes what going up and down leads to. -/
theorem denotes_fullName_of_aside {p : Place} {name : EntryName} (leads : t.resolve? dir = some q)
    (there : t.node? q = some (.dir entries)) (found : t.resolve? (Path.aside dir name) = some p) :
    t.Denotes (fullName (q.dropLast ++ [name])) p := by
  obtain ⟨links, few, goesOn⟩ := walk_aside leads there name
  have comes := (resolve?_eq_some_iff.1 found).2.2
  rw [goesOn] at comes
  obtain ⟨entries', above⟩ := exists_dir_dropLast there
  have down : t.walk anywhere maxLinks [] (q.dropLast.map .down ++ [.down name]) =
      t.walk anywhere maxLinks q.dropLast [.down name] :=
    walk_downs above (by rintro target ⟨⟩) [.down name]
  refine ⟨Path.fullName_ne_empty _, ?_⟩
  rw [start, if_pos (Path.isAbsolute_fullName _), Path.moves_fullName (by simp), List.map_append,
    List.map_singleton, walk_stay rfl, down]
  exact walk_of_le comes few

/-! ### By the path with its last component replaced -/

/-- Where there is a directory, one may stay as often as one likes. -/
theorem walk_stays_in (there : t.node? place = some (.dir entries)) {ms : List Move}
    (still : ∀ m ∈ ms, m = .stay) (rest : List Move) :
    t.walk anywhere links place (ms ++ rest) = t.walk anywhere links place rest := by
  induction ms with
  | nil => rfl
  | cons m ms ih =>
    rw [still m List.mem_cons_self, List.cons_append, walk_stay there]
    exact ih fun m' there => still m' (List.mem_cons_of_mem m there)

/-- The path ends in the name of a directory, as what stands under this name in the directory that
the path is in is no link. -/
def EndsInDir (t : FileTree α) (path : String) : Prop :=
  ∃ above name entries, t.resolve? (Path.home path) = some above ∧
    Path.fileName? path = some name.text ∧ t.node? (above ++ [name]) = some (.dir entries)

/-- Silent pieces ask to stay. -/
theorem still_of_silent {ps : List (List Char)} (quiet : ∀ p ∈ ps, Path.isSilent p = true) :
    ∀ m ∈ ps.map (fun p => Move.ofPiece (String.ofList p)), m = .stay := by
  intro m asked
  obtain ⟨p, there, rfl⟩ := List.mem_map.1 asked
  exact Move.ofPiece_of_isSilent (quiet p there)

/-- From where the path starts, the pieces in front of its last component lead to the directory that
it is in. -/
theorem walk_home {up : String} {front between silent : List (List Char)} {last : EntryName}
    {above : Place} (leads : t.resolve? (Path.home dir) = some above)
    (parent : Path.parent? dir = some up)
    (cut : Path.pieces '/' dir.toList = front ++ between ++ last.text.toList :: silent)
    (joined : ∀ n : EntryName,
      Path.pieces '/' (Path.join up n.text).toList = front ++ [n.text.toList])
    (cases : up = "" ∧ front = [] ∧ between = [] ∨ up ≠ "" ∧ front ≠ []) :
    (∀ n : EntryName, start (Path.join up n.text) t.workDir = start dir t.workDir) ∧
      ∃ links, ∀ more, t.walk anywhere maxLinks (start dir t.workDir)
        (front.map (fun p => .ofPiece (String.ofList p)) ++ more) =
          t.walk anywhere links above more := by
  have starts (n : EntryName) : start (Path.join up n.text) t.workDir = start dir t.workDir := by
    have both : Path.isAbsolute (Path.join up n.text) = Path.isAbsolute dir := by
      rw [Bool.eq_iff_iff, Path.isAbsolute_iff, Path.isAbsolute_iff, cut, joined]
      rcases cases with ⟨-, rfl, rfl⟩ | ⟨-, some⟩
      · have given (n : EntryName) : n.text.toList ≠ [] :=
          mt String.toList_eq_nil_iff.1 (Path.text_ne_empty n)
        simp [given]
      · obtain ⟨first, rest, rfl⟩ := List.exists_cons_of_ne_nil some
        simp
    rw [start, start, both]
  refine ⟨starts, ?_⟩
  rcases cases with ⟨rfl, rfl, rfl⟩ | ⟨given, -⟩
  · -- the path is a name by itself, and the directory that it is in the working directory
    have here : Path.home dir = "." := by
      rw [Path.home, parent]
      rfl
    rw [here] at leads
    have comes := (resolve?_eq_some_iff.1 leads).2.2
    have dot : Path.moves "." = [.stay] := by decide +kernel
    have relative : start "." t.workDir = t.workDir := if_neg (by decide +kernel)
    rw [dot, relative] at comes
    have relative' : start dir t.workDir = t.workDir := by
      rw [← starts last, start, if_neg]
      simp [Path.join, Path.isAbsolute_text]
    exact ⟨maxLinks, fun more => by rw [relative', eq_of_walk_stay comes]; rfl⟩
  · rw [Path.home_of_parent? parent given] at leads
    obtain ⟨ps, -, cut', own⟩ := Path.pieces_join given last
    rw [joined last] at cut'
    obtain rfl := (List.append_inj' cut' rfl).1
    obtain ⟨links, -, goesOn⟩ := walk_onward leads own
    have starts' : start up t.workDir = start dir t.workDir := by
      rw [← starts last, start, start, Path.isAbsolute_join given]
    exact ⟨links, starts' ▸ goesOn⟩

/-- **What stands beside a directory has the path in which the last component is replaced**, if this
component is the name of the directory itself. -/
theorem resolve?_aside_of_endsInDir (ends : t.EndsInDir dir) (name : EntryName) :
    ∃ up, Path.parent? dir = some up ∧
      ((Path.aside dir name).utf8ByteSize ≤ maxPathBytes →
        t.resolve? (Path.join up name.text) = t.resolve? (Path.aside dir name)) := by
  obtain ⟨above, last, entries, leads, fileName, there⟩ := ends
  have lastName := (Path.fileName?_eq_some_iff.1 fileName).1
  obtain ⟨up, front, between, silent, parent, cut, quiet, quiet', joined, cases⟩ :=
    Path.parent?_of_lastName lastName
  refine ⟨up, parent, fun short => ?_⟩
  have given : dir ≠ "" := by
    rintro rfl
    cases fileName
  obtain ⟨starts, links, goesOn⟩ := walk_home leads parent cut joined cases
  obtain ⟨silent', cut', quiet''⟩ := Path.pieces_aside given cut quiet' name
  have short' : (Path.join up name.text).utf8ByteSize ≤ maxPathBytes := by
    refine Nat.le_trans (Path.utf8ByteSize_le_of_pieces ?_) short
    rw [joined, cut', List.append_assoc, List.append_assoc]
    exact (List.Sublist.refl front).append (List.singleton_sublist.2 (by simp))
  have beside : t.walk anywhere maxLinks (start dir t.workDir)
      (Path.moves (Path.join up name.text)) = t.walk anywhere links above [.down name] := by
    rw [Path.moves_eq_of_pieces (joined name), goesOn]
  obtain ⟨entries', inside⟩ := exists_dir_of_node?_append there
  have around : t.walk anywhere maxLinks (start dir t.workDir) (Path.moves (Path.aside dir name)) =
      t.walk anywhere links above [.down name] := by
    have moves : Path.moves (Path.aside dir name) =
        front.map (fun p => Move.ofPiece (String.ofList p)) ++
          (between.map (fun p => Move.ofPiece (String.ofList p)) ++
            .down last :: (silent'.map (fun p => Move.ofPiece (String.ofList p)) ++
              [.up, .down name])) := by
      rw [Path.moves, cut']
      simp only [List.map_append, List.map_cons, List.map_nil, String.ofList_toList,
        Move.ofPiece_text, List.append_assoc, List.cons_append]
      rfl
    rw [moves, goesOn, walk_stays _ (still_of_silent quiet), walk_down_dir inside there rfl,
      walk_stays_in there (still_of_silent quiet''), walk_up there, List.dropLast_concat]
  have start_eq : start (Path.aside dir name) t.workDir = start dir t.workDir := by
    rw [start, Path.isAbsolute_aside given, ← start]
  calc t.resolve? (Path.join up name.text)
      = t.walk anywhere links above [.down name] := by
        rw [resolve?_of_short (Path.join_text_ne_empty up name) short', starts, beside]
    _ = t.resolve? (Path.aside dir name) := by
        rw [resolve?_of_short (Path.aside_ne_empty given name) short, start_eq, around]

end FileTree

end SceneSchema
