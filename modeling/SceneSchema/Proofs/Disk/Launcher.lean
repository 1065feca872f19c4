import SceneSchema.Disk.SearchPath
import SceneSchema.Proofs.Disk.Neighbours
import SceneSchema.Proofs.Disk.Rearranged

/-!
# The directory of modules beside the launcher

The guess looks for the launcher in one directory of programs after the other, and then for the
directory of modules beside the first that has it. It knows this directory by its full name, in
which no link is left; so the guess is what two dots lead to, though it is put together as text. A
directory may have a full name that is too long for the platform; then only the text that was given
is left, and its last component is replaced.

* `SearchPath.holdsLauncher_iff` — what it is to hold the launcher: to list an entry with its name
  that is a file or leads to one.
* `SearchPath.guess?_of_first` — the first directory that holds the launcher decides.
* `SearchPath.beside_of_canonical?` — beside a directory with a full name.

**Main statement** (`SearchPath.guess?_eq_first`): what the guess is, for every disk and every list
of directories of programs, and that nothing else on the list, nor the order of entries, matters.
Where a directory has no full name and its path does not end in its own name, what the guess is
stays open. `guess?_farDisk` is a disk on which the launcher is in a directory without a full name.
-/

namespace SceneSchema

open FileTree (fullName isNameable maxPathBytes)

namespace Path

variable {list d : String}

/-! ### Lists of directories -/

/-- A directory on a list has no colon in its path. -/
theorem not_mem_of_mem_splitList (there : d ∈ splitList list) : ':' ∉ d.toList := by
  obtain ⟨piece, cut, rfl⟩ := List.mem_map.1 there
  rw [String.toList_ofList]
  exact not_mem_of_mem_pieces cut

/-- A path without a colon is a list of one directory. -/
theorem splitList_of_not_mem (free : ':' ∉ d.toList) : splitList d = [d] := by
  rw [splitList, pieces_of_not_mem free, List.map_singleton, String.ofList_toList]

end Path

namespace SearchPath

variable {α : Type} {t t' : FileTree α} {s : Sources} {d list : String} {q : Place}

/-! ### Where the launcher is -/

/-- The directory under a path, which is not empty, lists an entry with the launcher's name,
whatever its extension, that is a file or leads to one. -/
def HoldsLauncher (t : FileTree α) (d : String) : Prop :=
  d ≠ "" ∧ ∃ name : EntryName, Path.stem name.text = launcher ∧ t.Shows d name

/-- It is what the search tests each directory of programs for. -/
theorem holdsLauncher_iff :
    HoldsLauncher t d ↔ (decide (d ≠ "") && hasLauncher t d) = true := by
  rw [Bool.and_eq_true, decide_eq_true_iff, HoldsLauncher, hasLauncher]
  refine and_congr_right fun _ => ?_
  cases listed : t.list? d with
  | none => simp [FileTree.Shows, listed]
  | some names =>
    rw [List.any_eq_true]
    constructor
    · rintro ⟨name, stem, ⟨names', listed', there⟩, file⟩
      obtain rfl := Option.some.inj (listed.symm.trans listed')
      exact ⟨name, there, by simp [stem, file]⟩
    · rintro ⟨name, there, both⟩
      rw [Bool.and_eq_true, beq_iff_eq] at both
      exact ⟨name, both.1, ⟨names, listed, there⟩, both.2⟩

/-- Where every directory can be listed, it is enough to have the entry. -/
theorem holdsLauncher_of_holds (given : d ≠ "") (all : t.unlistable = []) {name : EntryName}
    (stem : Path.stem name.text = launcher) (holds : t.Holds d name) : HoldsLauncher t d :=
  ⟨given, name, stem, FileTree.shows_iff.2 ⟨FileTree.mayList_of_unlistable_nil all d, holds⟩⟩

/-- The order in which directories list their entries does not matter. -/
theorem HoldsLauncher.rearranged (same : t.Rearranged t') (holds : HoldsLauncher t d) :
    HoldsLauncher t' d := by
  obtain ⟨given, name, stem, shows⟩ := holds
  exact ⟨given, name, stem, same.shows given shows⟩

/-- A directory that holds the launcher is one. -/
theorem HoldsLauncher.exists_dir (holds : HoldsLauncher t d) :
    ∃ q entries, t.resolve? d = some q ∧ t.node? q = some (.dir entries) := by
  obtain ⟨-, name, -, ⟨names, listed, -⟩, -⟩ := holds
  have listed := (FileTree.list?_eq_some_iff.1 listed).2
  unfold FileTree.entries? at listed
  split at listed
  · rename_i entries found
    obtain ⟨q, leads, there⟩ := Option.bind_eq_some_iff.1 found
    exact ⟨q, entries, leads, there⟩
  · cases listed

/-- **The first directory that holds the launcher decides.** -/
theorem guess?_of_first {before after : List String} (given : s.programs = some list)
    (cut : Path.splitList list = before ++ d :: after)
    (others : ∀ e ∈ before, ¬ HoldsLauncher t e) (holds : HoldsLauncher t d) :
    guess? t s = beside t d := by
  have first : (Path.splitList list).find? (fun d => decide (d ≠ "") && hasLauncher t d) =
      some d := by
    refine List.find?_eq_some_iff_append.2
      ⟨holdsLauncher_iff.1 holds, before, after, cut, fun e there => ?_⟩
    rw [Bool.not_eq_true', ← Bool.not_eq_true]
    exact mt holdsLauncher_iff.2 (others e there)
  rw [guess?, given]
  exact congrArg (·.bind (beside t)) first

/-- Without such a directory there is no guess. -/
theorem guess?_of_none (given : s.programs = some list)
    (others : ∀ e ∈ Path.splitList list, ¬ HoldsLauncher t e) : guess? t s = none := by
  have none : (Path.splitList list).find? (fun d => decide (d ≠ "") && hasLauncher t d) = none :=
    List.find?_eq_none.2 fun e there => mt holdsLauncher_iff.2 (others e there)
  rw [guess?, given]
  exact congrArg (·.bind (beside t)) none

/-- Without directories of programs there is no guess. -/
theorem guess?_of_unset (unset : s.programs = none) : guess? t s = none := by
  rw [guess?, unset]
  rfl

/-- The guess is the same on a disk that is rearranged. -/
theorem guess?_rearranged (same : t.Rearranged t') (s : Sources) : guess? t' s = guess? t s := by
  have tests : (fun d => decide (d ≠ "") && hasLauncher t' d) =
      fun d => decide (d ≠ "") && hasLauncher t d := by
    funext d
    rw [Bool.eq_iff_iff, ← holdsLauncher_iff, ← holdsLauncher_iff]
    exact ⟨.rearranged same.symm, .rearranged same⟩
  have besides : beside t' = beside t := by
    funext d
    rw [beside, beside, same.canonical?_eq]
  rw [guess?, guess?, tests, besides]

/-! ### Beside a directory -/

/-- The directory of modules, as the name of an entry. -/
def neighbourName : EntryName := ⟨neighbour, by decide +kernel⟩

/-- **Beside a directory with a full name**: the name is that of the place above it, and the root
has no place above. -/
theorem beside_of_canonical? (named : t.canonical? d = some (fullName q)) :
    beside t d = if q = [] then none else some (fullName (q.dropLast ++ [neighbourName])) := by
  rw [beside, named, Option.getD_some]
  rcases List.eq_nil_or_concat q with rfl | ⟨front, name, rfl⟩
  · have root : Path.parent? (fullName []) = none := by decide +kernel
    rw [root, if_pos rfl]
    rfl
  · rw [List.concat_eq_append, Path.parent?_fullName, if_neg (by simp), List.dropLast_concat]
    exact congrArg some (Path.join_fullName front neighbourName)

/-- What the guess is beside a directory that has a path and a place. -/
structure GuessedBeside (t : FileTree α) (d : String) (q : Place) (guess : Option String) :
    Prop where
  /-- The path leads to the place. -/
  leads : t.resolve? d = some q
  /-- Two dots behind it lead to the place above. -/
  above : (Path.join d "..").utf8ByteSize ≤ maxPathBytes →
    t.resolve? (Path.join d "..") = some q.dropLast
  /-- If the platform finds a full name, it is that of the place, and the guess is the full name of
  what stands beside it. -/
  named : ∀ name, t.canonical? d = some name → name = fullName q ∧
    guess = if q = [] then none else some (fullName (q.dropLast ++ [neighbourName]))
  /-- It finds one if no name on the disk is too long for it. -/
  nameable : (∀ p n, t.node? p = some n → isNameable p true = true) →
    t.canonical? d = some (fullName q)
  /-- Otherwise the last component of the path is replaced, if it is the directory's name. -/
  unnamed : t.canonical? d = none → t.EndsInDir d →
    ∃ up, Path.parent? d = some up ∧ guess = some (Path.join up neighbour)
  /-- The guess denotes what going up and down leads to. -/
  found : t.canonical? d ≠ none ∨ t.EndsInDir d → ∀ g p, guess = some g →
    t.resolve? (Path.aside d neighbourName) = some p → t.Denotes g p

/-- Beside a directory that holds the launcher, the guess is as described. -/
theorem HoldsLauncher.guessedBeside (holds : HoldsLauncher t d) :
    ∃ q, GuessedBeside t d q (beside t d) := by
  obtain ⟨q, entries, leads, there⟩ := holds.exists_dir
  have isFullName {name : String} (named : t.canonical? d = some name) : name = fullName q := by
    have short := (FileTree.resolve?_eq_some_iff.1 leads).2.1
    obtain ⟨q', leads', rfl⟩ := FileTree.canonical?_eq_some short named
    rw [leads, Option.some.injEq] at leads'
    rw [leads']
  have ofText (none : t.canonical? d = none) {up : String} (parent : Path.parent? d = some up) :
      beside t d = some (Path.join up neighbour) := by
    rw [beside, none, Option.getD_none, parent]
    rfl
  refine ⟨q, leads, FileTree.resolve?_above leads there, fun name named => ?_,
    FileTree.canonical?_eq_fullName leads, fun none ends => ?_, fun either g p guessed comes => ?_⟩
  · obtain rfl := isFullName named
    exact ⟨rfl, beside_of_canonical? named⟩
  · obtain ⟨up, parent, -⟩ := FileTree.resolve?_aside_of_endsInDir ends neighbourName
    exact ⟨up, parent, ofText none parent⟩
  · rcases canonical : t.canonical? d with _ | name
    · obtain ⟨up, parent, same⟩ := FileTree.resolve?_aside_of_endsInDir
        (either.resolve_left (· canonical)) neighbourName
      rw [ofText canonical parent] at guessed
      obtain rfl := Option.some.inj guessed
      have short := (FileTree.resolve?_eq_some_iff.1 comes).2.1
      exact (FileTree.resolve?_eq_some_iff_denotes.1 ((same short).trans comes)).2
    · rw [isFullName canonical] at canonical
      rw [beside_of_canonical? canonical] at guessed
      split at guessed
      · cases guessed
      · obtain rfl := Option.some.inj guessed
        exact FileTree.denotes_fullName_of_aside leads there comes

/-! ### An installation behind a link -/

/-- The directory of programs. -/
def binName : EntryName := ⟨"bin", by decide +kernel⟩

/-- The launcher. -/
def launcherName : EntryName := ⟨launcher, by decide +kernel⟩

/-- A script with the launcher's name before its extension. -/
def scriptName : EntryName := ⟨"raas_render.sh", by decide +kernel⟩

/-- What is in the directory of programs: a directory with the launcher's name, and the script. -/
def binEntries : Entries Unit := [(launcherName, .dir []), (scriptName, .file ())]

/-- A disk with programs installed under a name, modules beside them, and a link to the directory of
programs. -/
def linkedDisk (installed : EntryName) (entries : Entries Unit) : FileTree Unit :=
  ⟨[(binName, .link (Path.ofNames [installed, binName])),
    (installed, .dir [(binName, .dir entries), (neighbourName, .dir [])])], [], [], []⟩

/-- The disk is rearranged if the directory of programs lists its entries the other way round. -/
theorem rearranged_linkedDisk (installed : EntryName) :
    (linkedDisk installed binEntries).Rearranged (linkedDisk installed binEntries.reverse) := by
  have inside : (Node.dir binEntries).Alike (.dir binEntries.reverse) :=
    .of_perm (by decide +kernel) (List.reverse_perm binEntries).symm
  have beside := inside.cons (.refl (.dir [(neighbourName, .dir [])])) binName
  exact ⟨rfl, rfl, .cons (.refl _) (beside.cons (.refl _) installed) binName⟩

section linked

variable {installed : EntryName} (other : installed ≠ binName)
include other

/-- What is found below the directory of the installation. -/
theorem node?_linkedDisk (p : Place) : (linkedDisk installed binEntries).node? (installed :: p) =
    (Node.dir [(binName, .dir binEntries), (neighbourName, .dir [])]).find? p := by
  have apart : (installed == binName) = false := beq_eq_false_iff_ne.2 other
  simp [linkedDisk, FileTree.node?, Node.find?, List.lookup_cons, apart]

/-- The path of the link leads to the directory of programs, if the places on the way are within
bounds. -/
theorem walk_linkedDisk {within : Place → Bool → Bool} (link : within [binName] false = true)
    (above : within [installed] false = true)
    (inside : within [installed, binName] false = true) :
    (linkedDisk installed binEntries).walk within FileTree.maxLinks
      (FileTree.start "/bin" (linkedDisk installed binEntries).workDir) (Path.moves "/bin") =
        some [installed, binName] := by
  have atRoot : (linkedDisk installed binEntries).workDir = [] := rfl
  have moves : Path.moves "/bin" = [.stay, .down binName] := by decide +kernel
  have moves' : Path.moves (Path.ofNames [installed, binName]) =
      [.down installed, .down binName] := Path.moves_ofNames (List.cons_ne_nil _ _)
  have links : FileTree.maxLinks = 39 + 1 := rfl
  rw [atRoot, FileTree.start_nil, moves, FileTree.walk_stay rfl, links,
    FileTree.walk_down_link rfl rfl link, FileTree.start_nil, moves', List.append_nil,
    FileTree.walk_down_dir rfl (node?_linkedDisk other []) above, List.nil_append,
    FileTree.walk_down_dir (node?_linkedDisk other []) (node?_linkedDisk other [binName]) inside,
    FileTree.walk_nil]
  rfl

/-- So the platform resolves it to that directory, -/
theorem resolve?_linkedDisk :
    (linkedDisk installed binEntries).resolve? "/bin" = some [installed, binName] := by
  rw [FileTree.resolve?_of_short (by decide) (by decide +kernel)]
  exact walk_linkedDisk other rfl rfl rfl

/-- whose full name it finds if the name of the installation is not too long, -/
theorem canonical?_linkedDisk (short : installed.text.utf8ByteSize ≤ 255) :
    (linkedDisk installed binEntries).canonical? "/bin" = some (fullName [installed, binName]) := by
  have few : binName.text.utf8ByteSize = 3 := by decide +kernel
  have single (name : EntryName) : Path.ofNames [name] = name.text := String.intercalate_singleton
  have above : isNameable [installed] false = true := by
    rw [isNameable, Path.utf8ByteSize_fullName, single, maxPathBytes]
    exact decide_eq_true (by simp only [Bool.toNat_false]; omega)
  have inside : isNameable [installed, binName] false = true := by
    rw [isNameable, Path.utf8ByteSize_fullName, Path.utf8ByteSize_ofNames_cons installed (by simp),
      single, few, maxPathBytes]
    exact decide_eq_true (by simp only [Bool.toNat_false]; omega)
  rw [FileTree.canonical?, if_neg (by decide),
    walk_linkedDisk other (by decide +kernel) above inside]
  rfl

/-- and which holds the launcher, as a script. -/
theorem holdsLauncher_linkedDisk : HoldsLauncher (linkedDisk installed binEntries) "/bin" := by
  have stem : Path.stem scriptName.text = launcher := by decide +kernel
  exact holdsLauncher_of_holds (by decide) rfl stem (FileTree.holds_of_node?
    (resolve?_linkedDisk other) (node?_linkedDisk other [binName, scriptName]) (by decide +kernel))

/-- The guess there, in which the link is replaced by what it leads to. -/
theorem guess?_linkedDisk (short : installed.text.utf8ByteSize ≤ 255) :
    guess? (linkedDisk installed binEntries) { programs := some "/bin" } =
      some (fullName [installed, neighbourName]) := by
  have alone : Path.splitList "/bin" = [] ++ "/bin" :: [] := by decide +kernel
  rw [guess?_of_first rfl alone (List.forall_mem_nil _) (holdsLauncher_linkedDisk other),
    beside_of_canonical? (canonical?_linkedDisk other short)]
  rfl

/-- What goes up and down from the link. -/
theorem resolve?_aside_linkedDisk :
    (linkedDisk installed binEntries).resolve? (Path.aside "/bin" neighbourName) =
      some [installed, neighbourName] := by
  obtain ⟨links, -, goesOn⟩ := FileTree.walk_aside (resolve?_linkedDisk other)
    (node?_linkedDisk other [binName]) neighbourName
  rw [FileTree.resolve?_of_short (Path.aside_ne_empty (by decide) _) (by decide +kernel), goesOn]
  exact (FileTree.walk_down_dir (node?_linkedDisk other []) (node?_linkedDisk other [neighbourName])
    rfl).trans FileTree.walk_nil

end linked

/-- A directory that programs are installed in. -/
def optName : EntryName := ⟨"opt", by decide +kernel⟩

/-- The two names are different. -/
theorem optName_ne_binName : optName ≠ binName := by decide +kernel

/-- Nothing else on the list holds it. -/
theorem not_holdsLauncher_linkedDisk :
    ∀ e ∈ ["/gone", "", "/opt"], ¬ HoldsLauncher (linkedDisk optName binEntries) e := by
  intro e there holds
  simp only [List.mem_cons, List.not_mem_nil, or_false] at there
  rcases there with rfl | rfl | rfl
  · obtain ⟨q, entries, leads, dir⟩ := holds.exists_dir
    have moves : Path.moves "/gone" = [.stay, .down ⟨"gone", by decide +kernel⟩] := by
      decide +kernel
    have missing : (linkedDisk optName binEntries).find? "/gone" = none :=
      FileTree.find?_in_root rfl moves (by decide +kernel) (by rintro target ⟨⟩)
    rw [FileTree.find?, leads] at missing
    cases dir.symm.trans missing
  · exact holds.1 rfl
  · obtain ⟨-, name, stem, ⟨names, listed, there⟩, -⟩ := holds
    have moves : Path.moves "/opt" = [.stay, .down optName] := by decide +kernel
    have dir : (linkedDisk optName binEntries).find? "/opt" =
        some (.dir [(binName, .dir binEntries), (neighbourName, .dir [])]) :=
      FileTree.find?_in_root rfl moves (by decide +kernel) (by rintro target ⟨⟩)
    have keys :
        (Table.keys [(binName, Node.dir binEntries), (neighbourName, Node.dir [])]).eraseDups =
          [binName, neighbourName] := by decide +kernel
    have inside : (linkedDisk optName binEntries).entries? "/opt" =
        some [binName, neighbourName] := by
      rw [FileTree.entries?, dir, ← keys]
    obtain rfl := Option.some.inj (inside.symm.trans (FileTree.list?_eq_some_iff.1 listed).2)
    simp only [List.mem_cons, List.not_mem_nil, or_false] at there
    rcases there with rfl | rfl <;> exact absurd stem (by decide +kernel)

/-! ### A directory whose full name is too long -/

/-- Three letters or more name an entry. -/
theorem isEntryName_letters {n : Nat} (long : 3 ≤ n) :
    isEntryName (String.ofList (List.replicate n 'd')) = true := by
  apply Path.isEntryName_of_length
  · rwa [String.toList_ofList, List.length_replicate]
  · rw [String.toList_ofList, List.mem_replicate]
    rintro ⟨-, slash⟩
    exact absurd slash (by decide)

/-- A name of two hundred letters. -/
def longName : EntryName :=
  ⟨String.ofList (List.replicate 200 'd'), isEntryName_letters (by decide)⟩

/-- It consists of one letter. -/
theorem eq_of_mem_longName {c : Char} (within : c ∈ longName.text.toList) : c = 'd' := by
  have text : longName.text.toList = List.replicate 200 'd' := String.toList_ofList
  rw [text] at within
  exact List.eq_of_mem_replicate within

/-- It takes two hundred bytes. -/
theorem utf8ByteSize_longName : longName.text.utf8ByteSize = 200 := by decide +kernel

/-- A short name. -/
def linkName : EntryName := ⟨"l", by decide +kernel⟩

/-- Directories one in the other down to a node. -/
def buried {α : Type} (p : Place) (n : Node α) : Node α :=
  p.foldr (fun name n => .dir [(name, n)]) n

/-- At the end of the directories is the node. -/
theorem find?_buried {α : Type} (p : Place) (n : Node α) : (buried p n).find? p = some n := by
  induction p with
  | nil => exact Node.find?.eq_1 n
  | cons name p ih => simpa [buried, Node.find?, List.lookup_cons] using ih

/-- A disk with the launcher thirty directories deep, and with a link to half of the way. -/
def farDisk : FileTree Unit :=
  ⟨[(linkName, .link (Path.ofNames (List.replicate 15 longName))),
    (longName, buried (List.replicate 29 longName) (.dir [(launcherName, .file ())]))], [], [], []⟩

/-- The names of directories behind the link. -/
def farNames (n : Nat) : Place := linkName :: List.replicate (n + 1) longName

/-- There is at least the link. -/
theorem farNames_ne_nil (n : Nat) : farNames n ≠ [] := List.cons_ne_nil _ _

/-- One directory more stands at the end. -/
theorem farNames_succ (n : Nat) : farNames (n + 1) = farNames n ++ [longName] := by
  rw [farNames, List.replicate_succ', ← List.cons_append, farNames]

/-- How many bytes they take as a path. -/
theorem utf8ByteSize_farNames (n : Nat) :
    (Path.ofNames (farNames n)).utf8ByteSize = n * 201 + 202 := by
  have short : linkName.text.utf8ByteSize = 1 := by decide +kernel
  rw [farNames, Path.utf8ByteSize_ofNames_cons linkName (by simp),
    Path.utf8ByteSize_ofNames_replicate, utf8ByteSize_longName, short]
  omega

/-- The launcher is thirty directories deep. -/
theorem launcher_farDisk :
    farDisk.node? (List.replicate 30 longName ++ [launcherName]) = some (.file ()) := by
  have other : (longName == linkName) = false := by decide +kernel
  have down : farDisk.node? (List.replicate 30 longName) =
      (buried (List.replicate 29 longName) (.dir [(launcherName, .file ())])).find?
        (List.replicate 29 longName) := by
    rw [List.replicate_succ]
    simp [FileTree.node?, farDisk, Node.find?, List.lookup_cons, other]
  rw [FileTree.node?_append_singleton, down, find?_buried]
  rfl

/-- On the way to it there are directories. -/
theorem exists_dir_farDisk {n : Nat} (few : n ≤ 30) :
    ∃ entries, farDisk.node? (List.replicate n longName) = some (.dir entries) := by
  have cut : List.replicate 30 longName =
      List.replicate n longName ++ List.replicate (30 - n) longName := by
    rw [List.replicate_append_replicate, Nat.add_sub_cancel' few]
  obtain ⟨name, q, below⟩ : ∃ name q, List.replicate (30 - n) longName ++ [launcherName] =
      name :: q := List.exists_cons_of_ne_nil (by simp)
  have there := launcher_farDisk
  rw [cut, List.append_assoc, below] at there
  exact FileTree.exists_dir_of_node?_append there

/-- Paths behind the link go on from where it leads. -/
theorem walk_farNames {within : Place → Bool → Bool} (inside : within [linkName] false = true)
    (n : Nat) : farDisk.walk within FileTree.maxLinks
      (FileTree.start (Path.ofNames (farNames n)) farDisk.workDir)
      (Path.moves (Path.ofNames (farNames n))) =
    farDisk.walk within 39 [] ((List.replicate (n + 16) longName).map .down ++ []) := by
  have atRoot : farDisk.workDir = [] := rfl
  have half : Path.moves (Path.ofNames (List.replicate 15 longName)) =
      (List.replicate 15 longName).map .down := Path.moves_ofNames (by simp)
  have whole : Path.moves (Path.ofNames (farNames n)) =
      .down linkName :: (List.replicate (n + 1) longName).map .down :=
    Path.moves_ofNames (List.cons_ne_nil _ _)
  have both : List.replicate 15 longName ++ List.replicate (n + 1) longName =
      List.replicate (n + 16) longName := by
    rw [List.replicate_append_replicate, Nat.add_comm]
  rw [atRoot, FileTree.start_nil, whole, FileTree.maxLinks,
    FileTree.walk_down_link rfl rfl inside, FileTree.start_nil, half, ← List.map_append, both,
    List.append_nil]

/-- A path over the link leads half of the way further than its own names. -/
theorem resolve?_farNames {n : Nat} (few : n ≤ 14) :
    farDisk.resolve? (Path.ofNames (farNames n)) = some (List.replicate (n + 16) longName) := by
  obtain ⟨entries, there⟩ := exists_dir_farDisk (show n + 16 ≤ 30 by omega)
  have fits : (Path.ofNames (farNames n)).utf8ByteSize ≤ maxPathBytes := by
    rw [utf8ByteSize_farNames, maxPathBytes]
    omega
  have behind := walk_farNames (show FileTree.anywhere [linkName] false = true from rfl) n
  have down : farDisk.walk FileTree.anywhere 39 []
      ((List.replicate (n + 16) longName).map .down ++ []) =
        farDisk.walk FileTree.anywhere 39 ([] ++ List.replicate (n + 16) longName) [] :=
    FileTree.walk_downs (by rw [List.nil_append, there]) (by rintro target ⟨⟩) []
  rw [FileTree.resolve?_of_short (Path.ofNames_ne_empty (farNames_ne_nil n)) fits, behind, down,
    FileTree.walk_nil, List.nil_append]

/-- The directory of programs there. -/
def farBin : String := Path.ofNames (farNames 14)

/-- Its full name is too long for the platform. -/
theorem canonical?_farBin : farDisk.canonical? farBin = none := by
  obtain ⟨entries, there⟩ := exists_dir_farDisk (Nat.le_refl 30)
  have outside : isNameable (List.replicate 30 longName) false = false := by
    rw [isNameable, Path.utf8ByteSize_fullName, Path.utf8ByteSize_ofNames_replicate,
      utf8ByteSize_longName]
    decide
  have given : farBin ≠ "" := Path.ofNames_ne_empty (List.cons_ne_nil _ _)
  have nowhere : farDisk.walk isNameable 39 []
      ((List.replicate 30 longName).map .down ++ []) = none :=
    FileTree.walk_downs_outside there (by rintro target ⟨⟩) (by simp) outside
  rw [FileTree.canonical?, if_neg given, farBin, walk_farNames (by decide +kernel)]
  exact congrArg (Option.map fullName) nowhere

/-- The directory over the link holds the launcher. -/
theorem holdsLauncher_farBin : HoldsLauncher farDisk farBin := by
  have leads : farDisk.resolve? farBin = some (List.replicate 30 longName) :=
    resolve?_farNames (Nat.le_refl 14)
  have stem : Path.stem launcherName.text = launcher := by decide +kernel
  have given := (FileTree.resolve?_eq_some_iff.1 leads).1
  refine holdsLauncher_of_holds given rfl stem (FileTree.holds_of_node? leads launcher_farDisk ?_)
  have short : launcherName.text.utf8ByteSize = 11 := by decide +kernel
  have fits := Path.utf8ByteSize_join_le farBin launcherName.text
  rw [farBin, utf8ByteSize_farNames, short] at fits
  exact Nat.le_trans fits (by decide)

/-- Its path without the last component is that of the directory above. -/
theorem parent?_farBin : Path.parent? farBin = some (Path.ofNames (farNames 13)) := by
  rw [farBin, farNames_succ, Path.parent?_ofNames (farNames_ne_nil 13)]

/-- The last component of its path is its name. -/
theorem endsInDir_farBin : farDisk.EndsInDir farBin := by
  obtain ⟨entries, there⟩ := exists_dir_farDisk (Nat.le_refl 30)
  have ends : Path.pieces '/' farBin.toList =
      (farNames 13).map (·.text.toList) ++ [longName.text.toList] := by
    rw [farBin, Path.pieces_ofNames (farNames_ne_nil 14), farNames_succ, List.map_append]
    rfl
  refine ⟨List.replicate 29 longName, longName, entries, ?_, Path.fileName?_of_pieces ends, ?_⟩
  · rw [Path.home_of_parent? parent?_farBin (Path.ofNames_ne_empty (farNames_ne_nil 13))]
    exact resolve?_farNames (by decide)
  · have deeper : List.replicate 29 longName ++ [longName] = List.replicate 30 longName :=
      List.replicate_succ'.symm
    rw [deeper, there]

/-- Its path is a list of one directory. -/
theorem splitList_farBin : Path.splitList farBin = [] ++ farBin :: [] := by
  have noColon : ':' ∉ farBin.toList := by
    rw [farBin, Path.mem_ofNames_iff (by decide)]
    rintro ⟨name, there, within⟩
    rcases List.mem_cons.1 there with rfl | there
    · exact absurd within (by decide +kernel)
    · rw [List.eq_of_mem_replicate there] at within
      exact absurd (eq_of_mem_longName within) (by decide)
  exact Path.splitList_of_not_mem noColon

/-! ### The guess -/

/-- **The first directory that holds the launcher decides the guess**, and if there is none, there
is no guess. Directories before it, directories after it and the order in which entries are listed
do not matter. The guess is the directory of modules beside it: the full name of this, in which no
link is left, where the platform can tell it, and otherwise the path with its last component
replaced, if it ends in the name of the directory itself. -/
theorem guess?_eq_first (t : FileTree α) (s : Sources) :
    (s.programs = none → guess? t s = none) ∧
    (∀ list, s.programs = some list →
      ((∀ e ∈ Path.splitList list, ¬ HoldsLauncher t e) → guess? t s = none) ∧
      ∀ before d after, Path.splitList list = before ++ d :: after →
        (∀ e ∈ before, ¬ HoldsLauncher t e) → HoldsLauncher t d →
          guess? t s = guess? t { programs := some d } ∧
          ∃ q, GuessedBeside t d q (guess? t s)) ∧
    ∀ t', t.Rearranged t' → guess? t' s = guess? t s := by
  refine ⟨guess?_of_unset, fun list given => ⟨guess?_of_none given, ?_⟩,
    fun t' same => guess?_rearranged same s⟩
  intro before d after cut others holds
  have decided := guess?_of_first given cut others holds
  have alone : Path.splitList d = [] ++ d :: [] :=
    Path.splitList_of_not_mem (Path.not_mem_of_mem_splitList
      (cut ▸ List.mem_append_right before List.mem_cons_self))
  have decided' : guess? t { programs := some d } = beside t d :=
    guess?_of_first rfl alone (List.forall_mem_nil _) holds
  exact ⟨decided.trans decided'.symm, decided ▸ holds.guessedBeside⟩

/-- The statement at a list with directories before and after the one that holds the launcher, on
a disk that lists the programs in another order, too; at a disk with a directory whose full name is
too long; and at lists without any such directory. -/
theorem guess?_eq_first_linkedDisk :
    HoldsLauncher (linkedDisk optName binEntries) "/bin" ∧
    guess? (linkedDisk optName binEntries) { programs := some "/gone::/opt:/bin:/opt/bin" } =
      some "/opt/rdl2dso" ∧
    (linkedDisk optName binEntries).Denotes "/opt/rdl2dso" [optName, neighbourName] ∧
    (linkedDisk optName binEntries).Rearranged (linkedDisk optName binEntries.reverse) ∧
    guess? (linkedDisk optName binEntries.reverse)
      { programs := some "/gone::/opt:/bin:/opt/bin" } = some "/opt/rdl2dso" ∧
    guess? (linkedDisk optName binEntries) { programs := some "/gone::/opt" } = none ∧
    guess? (linkedDisk optName binEntries) {} = none ∧
    farDisk.EndsInDir farBin ∧
    ∃ up, Path.parent? farBin = some up ∧
      guess? farDisk { programs := some farBin } = some (Path.join up neighbour) := by
  obtain ⟨-, decides, order⟩ := guess?_eq_first (linkedDisk optName binEntries)
    { programs := some "/gone::/opt:/bin:/opt/bin" }
  have other := optName_ne_binName
  have holds := holdsLauncher_linkedDisk other
  have full := canonical?_linkedDisk other (by decide +kernel)
  have cut : Path.splitList "/gone::/opt:/bin:/opt/bin" =
      ["/gone", "", "/opt"] ++ "/bin" :: ["/opt/bin"] := by decide +kernel
  obtain ⟨-, q, beside⟩ := (decides _ rfl).2 _ _ _ cut not_holdsLauncher_linkedDisk holds
  obtain rfl : [optName, binName] = q :=
    Option.some.inj ((resolve?_linkedDisk other).symm.trans beside.leads)
  have name : fullName [optName, neighbourName] = "/opt/rdl2dso" := by decide +kernel
  have guess : guess? (linkedDisk optName binEntries)
      { programs := some "/gone::/opt:/bin:/opt/bin" } = some "/opt/rdl2dso" :=
    name ▸ (beside.named _ full).2
  have named : (linkedDisk optName binEntries).canonical? "/bin" ≠ none := by
    rw [full]
    exact Option.some_ne_none _
  have without : Path.splitList "/gone::/opt" = ["/gone", "", "/opt"] := by decide +kernel
  have none := ((guess?_eq_first (linkedDisk optName binEntries)
    { programs := some "/gone::/opt" }).2.1 _ rfl).1 (without ▸ not_holdsLauncher_linkedDisk)
  obtain ⟨-, q', beside'⟩ := ((guess?_eq_first farDisk { programs := some farBin }).2.1 _ rfl).2
    [] farBin [] splitList_farBin (List.forall_mem_nil _) holdsLauncher_farBin
  exact ⟨holds, guess, beside.found (.inl named) _ _ guess (resolve?_aside_linkedDisk other),
    rearranged_linkedDisk optName, (order _ (rearranged_linkedDisk optName)).trans guess, none,
    (guess?_eq_first (linkedDisk optName binEntries) {}).1 rfl, endsInDir_farBin,
    beside'.unnamed canonical?_farBin endsInDir_farBin⟩

/-- **Where the full name is too long, the guess is no full name**: it is the path of the directory
with the last component replaced. -/
theorem guess?_farDisk :
    HoldsLauncher farDisk farBin ∧
    farDisk.resolve? farBin = some (List.replicate 30 longName) ∧
    guess? farDisk { programs := some farBin } =
      some (Path.ofNames (farNames 13 ++ [neighbourName])) ∧
    Path.ofNames (farNames 13 ++ [neighbourName]) ≠
      fullName (List.replicate 29 longName ++ [neighbourName]) := by
  refine ⟨holdsLauncher_farBin, resolve?_farNames (Nat.le_refl 14), ?_, ?_⟩
  · rw [guess?_of_first rfl splitList_farBin (List.forall_mem_nil _) holdsLauncher_farBin, beside,
      canonical?_farBin, Option.getD_none, parent?_farBin]
    exact congrArg some (Path.join_ofNames (farNames_ne_nil 13) neighbourName)
  · intro same
    have relative := Path.isAbsolute_ofNames (farNames 13 ++ [neighbourName])
    rw [same, Path.isAbsolute_fullName] at relative
    cases relative

end SearchPath

end SceneSchema
