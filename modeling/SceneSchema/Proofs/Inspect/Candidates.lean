import Mathlib.Data.List.Induction
import Mathlib.Data.List.Nodup
import SceneSchema.Inspect.Candidate
import SceneSchema.Proofs.Plugin.Opening

/-!
# Which modules a scan reports

A scan lists directories and reads class names off file names; a loader knows the name of a class
and asks for the file of that name. `Candidate.mem_scan_iff` says that the two agree if every
directory can be listed: **a candidate is a class with the path that a search for its module file
gives**, and every class with a file on the search path is one. A scan passes over directories that
cannot be listed (`scan_listable`), while a search does not.

* `mem_inDir_iff`, `pairwise_inDir` — the candidates of one directory.
* `scan_concat` — a further directory adds those of its candidates whose class is new.
* `pairwise_scan` — candidates come in the order of the first directory that has their module file
  (`Candidate.rank`), and of one directory in the order of their classes. So each class comes once.
-/

namespace SceneSchema

/-- A directory lists each name once. -/
theorem FileTree.nodup_list? {α : Type} {t : FileTree α} {dir : String} {names : List EntryName}
    (listed : t.list? dir = some names) : names.Nodup := by
  have listed := (list?_eq_some_iff.1 listed).2
  unfold entries? at listed
  split at listed
  · obtain rfl := Option.some.inj listed
    exact nodup_eraseDups _
  · cases listed

/-- The directories of a search path but for those that cannot be listed. -/
def FileTree.listable {α : Type} (t : FileTree α) (dirs : List String) : List String :=
  dirs.filter t.mayList

/-- The listable directories are those given that can be listed. -/
theorem FileTree.mem_listable {α : Type} {t : FileTree α} {dirs : List String} {d : String} :
    d ∈ t.listable dirs ↔ d ∈ dirs ∧ t.mayList d = true := List.mem_filter

/-- If all can be listed, these are all. -/
theorem FileTree.listable_eq_self {α : Type} {t : FileTree α} {dirs : List String}
    (may : ∀ d ∈ dirs, t.mayList d = true) : t.listable dirs = dirs := List.filter_eq_self.2 may

namespace Inspect.Candidate

variable {files : FileTree FileContent} {proxy : Bool} {dir : String} {dirs : List String}
  {c : Candidate}

/-! ### One directory -/

/-- An entry is a candidate if it is a file with the name of a class's module file. -/
theorem ofName?_eq_some_iff {entry : EntryName} : ofName? files proxy dir entry = some c ↔
    c.className ≠ "" ∧ entry.text = ModuleFile.name c.className proxy ∧
      c.path = Path.join dir entry.text ∧ files.isFile c.path = true := by
  have named := Path.fileName?_text entry
  unfold ofName?
  dsimp only
  constructor
  · intro made
    split at made
    · rename_i fits
      obtain rfl := Option.some.inj made
      simp only [Bool.and_eq_true, decide_eq_true_eq] at fits
      obtain ⟨⟨file, ends⟩, nonempty⟩ := fits
      obtain ⟨front, split⟩ := List.isSuffixOf_iff_suffix.1 ends
      have text : entry.text = ModuleFile.name (String.ofList front) proxy := by
        rw [← String.toList_inj, ModuleFile.toList_name, String.toList_ofList, split]
      have own : ModuleFile.className entry.text = String.ofList front :=
        ModuleFile.className_name (named.trans (congrArg some text))
      exact ⟨nonempty, own ▸ text, rfl, file⟩
    · cases made
  · rintro ⟨nonempty, text, path, file⟩
    have own : ModuleFile.className entry.text = c.className :=
      ModuleFile.className_name (named.trans (congrArg some text))
    have ends : (ModuleFile.suffix proxy).toList.isSuffixOf entry.text.toList = true := by
      rw [text, ModuleFile.toList_name, List.isSuffixOf_iff_suffix]
      exact List.suffix_append ..
    rw [own, ends, ← path, file]
    simp [nonempty]

/-- **The candidates of a directory** are the classes with a module file in it. -/
theorem mem_inDir_iff (given : dir ≠ "") (may : files.mayList dir = true) :
    c ∈ inDir files proxy dir ↔ c.className ≠ "" ∧ '/' ∉ c.className.toList ∧
      SearchPath.findFile? files (ModuleFile.name c.className proxy) [dir] = some c.path := by
  rw [inDir, List.mem_mergeSort, List.mem_filterMap, SearchPath.findFile?_singleton]
  constructor
  · rintro ⟨entry, -, made⟩
    obtain ⟨nonempty, text, path, file⟩ := ofName?_eq_some_iff.1 made
    have free : '/' ∉ entry.text.toList := Path.slash_not_mem entry
    rw [text, ModuleFile.toList_name, List.mem_append, not_or] at free
    exact ⟨nonempty, free.1, text ▸ path, file⟩
  · rintro ⟨nonempty, free, path, file⟩
    have valid := ModuleFile.isEntryName_name free proxy
    obtain ⟨names, inside, there⟩ :=
      FileTree.entries?_of_isFile_join given ⟨_, valid⟩ (path ▸ file)
    refine ⟨⟨_, valid⟩, ?_, ofName?_eq_some_iff.2 ⟨nonempty, rfl, path, file⟩⟩
    rw [FileTree.list?_eq_some_iff.2 ⟨may, inside⟩]
    exact there

/-- A directory that cannot be listed has none. -/
theorem inDir_eq_nil (forbidden : files.mayList dir = false) : inDir files proxy dir = [] := by
  have unlisted : files.list? dir = none := by
    rw [FileTree.list?, forbidden]
    rfl
  rw [inDir, unlisted, Option.getD_none, List.filterMap_nil, List.mergeSort_nil]

/-- They come in the order of their classes. -/
theorem pairwise_inDir (files : FileTree FileContent) (proxy : Bool) (dir : String) :
    (inDir files proxy dir).Pairwise fun a b => a.className < b.className := by
  have sorted : (inDir files proxy dir).Pairwise fun a b =>
      decide (a.className ≤ b.className) = true :=
    List.pairwise_mergeSort (fun a b c ab bc => by
        simp only [decide_eq_true_eq] at ab bc ⊢
        exact String.le_trans ab bc)
      (fun a b => by simpa using String.le_total a.className b.className) _
  -- no two entries of the directory have the same name
  have apart : (inDir files proxy dir).Pairwise fun a b => a.className ≠ b.className := by
    refine (List.Perm.pairwise_iff Ne.symm (List.mergeSort_perm ..)).2 ?_
    rw [List.pairwise_filterMap]
    rcases listed : files.list? dir with _ | names
    · exact List.Pairwise.nil
    · refine (FileTree.nodup_list? listed).imp fun other c made d made' same => other ?_
      have text := (ofName?_eq_some_iff.1 made).2.1
      have text' := (ofName?_eq_some_iff.1 made').2.1
      have both := (text.trans (same ▸ rfl)).trans text'.symm
      exact EntryName.mk.injEq .. ▸ both
  exact sorted.imp₂ (fun a b le ne => Std.lt_of_le_of_ne (of_decide_eq_true le) ne) apart

/-! ### One directory after the other -/

/-- Of candidates of different classes, those are added whose class is new. -/
theorem extend_eq (found : List Candidate) {more : List Candidate}
    (apart : more.Pairwise fun a b => a.className ≠ b.className) :
    extend found more = found ++ more.filter fun c => !found.any (·.className = c.className) := by
  induction more generalizing found with
  | nil => exact (List.append_nil found).symm
  | cons c rest ih =>
    obtain ⟨other, apart⟩ := List.pairwise_cons.1 apart
    rw [extend, List.foldl_cons, ← extend, List.filter_cons]
    by_cases known : found.any (·.className = c.className) = true
    · rw [if_pos known, known, ih _ apart]
      rfl
    · rw [if_neg known, ih _ apart, Bool.eq_false_iff.2 known, List.append_assoc]
      -- the class that was added is none of those that follow
      have unchanged : ∀ d ∈ rest, (!(found ++ [c]).any (·.className = d.className)) =
          !found.any (·.className = d.className) := by
        intro d there
        rw [List.any_append, List.any_cons, List.any_nil, decide_eq_false (other d there),
          Bool.or_self, Bool.or_false]
      rw [List.filter_congr unchanged]
      rfl

/-- **A further directory adds those of its candidates whose class is new.** -/
theorem scan_concat (files : FileTree FileContent) (dirs : List String) (dir : String)
    (proxy : Bool) : scan files (dirs ++ [dir]) proxy = scan files dirs proxy ++
      (inDir files proxy dir).filter
        fun c => !(scan files dirs proxy).any (·.className = c.className) := by
  rw [scan, List.foldl_append]
  refine extend_eq _ ((pairwise_inDir files proxy dir).imp fun before same => ?_)
  exact String.lt_irrefl _ (same ▸ before)

/-- **A scan passes over directories that cannot be listed.** -/
theorem scan_listable (files : FileTree FileContent) (dirs : List String) (proxy : Bool) :
    scan files (files.listable dirs) proxy = scan files dirs proxy := by
  induction dirs using List.reverseRecOn with
  | nil => rfl
  | append_singleton dirs dir ih =>
    rw [FileTree.listable, List.filter_append, ← FileTree.listable]
    rcases may : files.mayList dir with _ | _
    · rw [List.filter_cons_of_neg (ne_true_of_eq_false may), List.filter_nil, List.append_nil, ih,
        scan_concat, inDir_eq_nil may, List.filter_nil, List.append_nil]
    · rw [List.filter_cons_of_pos may, List.filter_nil, scan_concat, scan_concat, ih]

/-- **The candidates of a search path** are the classes with a module file on it, each with the path
that is found for that file. -/
theorem mem_scan_iff (given : ∀ d ∈ dirs, d ≠ "") (may : ∀ d ∈ dirs, files.mayList d = true) :
    c ∈ scan files dirs proxy ↔ c.className ≠ "" ∧ '/' ∉ c.className.toList ∧
      SearchPath.findFile? files (ModuleFile.name c.className proxy) dirs = some c.path := by
  induction dirs using List.reverseRecOn generalizing c with
  | nil => simp [scan, SearchPath.findFile?]
  | append_singleton dirs dir ih =>
    have ih {c} := ih (c := c) (fun d there => given d (List.mem_append_left _ there))
      (fun d there => may d (List.mem_append_left _ there))
    have given := given dir (List.mem_append_right _ List.mem_cons_self)
    have may := may dir (List.mem_append_right _ List.mem_cons_self)
    rw [scan_concat, List.mem_append, List.mem_filter, mem_inDir_iff given may,
      SearchPath.findFile?_append]
    rcases earlier : SearchPath.findFile? files (ModuleFile.name c.className proxy) dirs
      with _ | path
    · have new : c ∉ scan files dirs proxy := fun there => by
        rw [ih, earlier] at there
        obtain ⟨-, -, found⟩ := there
        cases found
      have noClass : (scan files dirs proxy).any (·.className = c.className) = false := by
        rw [List.any_eq_false]
        intro d there same
        obtain ⟨-, -, found⟩ := ih.1 there
        rw [of_decide_eq_true same, earlier] at found
        cases found
      simp [new, noClass]
    · rw [Option.some_or, Option.some.injEq, ih, earlier, Option.some.injEq]
      refine ⟨fun either => either.elim id fun new => ?_, .inl⟩
      obtain ⟨⟨nonempty, free, -⟩, new⟩ := new
      -- its class has a candidate already
      have known : ⟨c.className, path⟩ ∈ scan files dirs proxy := ih.2 ⟨nonempty, free, earlier⟩
      simp only [Bool.not_eq_true', List.any_eq_false, decide_eq_true_eq] at new
      exact (new _ known rfl).elim

/-! ### The order of candidates -/

/-- The number of the first directory that has the module file of the candidate's class. -/
def rank (files : FileTree FileContent) (dirs : List String) (proxy : Bool) (c : Candidate) : Nat :=
  dirs.findIdx fun dir => files.isFile (Path.join dir (ModuleFile.name c.className proxy))

/-- The candidate comes before the other: its module is in an earlier directory, or in the same one
and its class comes first. -/
def Precedes (files : FileTree FileContent) (dirs : List String) (proxy : Bool)
    (a b : Candidate) : Prop :=
  rank files dirs proxy a < rank files dirs proxy b ∨
    rank files dirs proxy a = rank files dirs proxy b ∧ a.className < b.className

/-- A class has a rank among the directories exactly if its file is found in one. -/
theorem rank_lt_length_iff : rank files dirs proxy c < dirs.length ↔
    ∃ path, SearchPath.findFile? files (ModuleFile.name c.className proxy) dirs = some path := by
  rw [rank, List.findIdx_lt_length, ← Option.isSome_iff_exists, SearchPath.findFile?,
    List.find?_isSome]
  simp

/-- **Candidates come in the order of directories**, and of one directory in the order of classes.
-/
theorem pairwise_scan (given : ∀ d ∈ dirs, d ≠ "") (may : ∀ d ∈ dirs, files.mayList d = true) :
    (scan files dirs proxy).Pairwise (Precedes files dirs proxy) := by
  induction dirs using List.reverseRecOn with
  | nil => exact List.Pairwise.nil
  | append_singleton dirs dir ih =>
    have given' : ∀ d ∈ dirs, d ≠ "" := fun d there => given d (List.mem_append_left _ there)
    have may' : ∀ d ∈ dirs, files.mayList d = true := fun d there =>
      may d (List.mem_append_left _ there)
    have old {c} (there : c ∈ scan files dirs proxy) :
        rank files (dirs ++ [dir]) proxy c = rank files dirs proxy c ∧
          rank files dirs proxy c < dirs.length := by
      have inside := rank_lt_length_iff.2 ⟨_, ((mem_scan_iff given' may').1 there).2.2⟩
      rw [rank, List.findIdx_append]
      exact ⟨if_pos inside, inside⟩
    have new {c} (there : c ∈ (inDir files proxy dir).filter
        fun c => !(scan files dirs proxy).any (·.className = c.className)) :
        rank files (dirs ++ [dir]) proxy c = dirs.length := by
      obtain ⟨there, new⟩ := List.mem_filter.1 there
      obtain ⟨nonempty, free, found⟩ :=
        (mem_inDir_iff (given dir (by simp)) (may dir (by simp))).1 there
      have outside : ¬ rank files dirs proxy c < dirs.length := fun inside => by
        obtain ⟨path, earlier⟩ := rank_lt_length_iff.1 inside
        have known : ⟨c.className, path⟩ ∈ scan files dirs proxy :=
          (mem_scan_iff given' may').2 ⟨nonempty, free, earlier⟩
        simp only [Bool.not_eq_true', List.any_eq_false, decide_eq_true_eq] at new
        exact new _ known rfl
      have here := SearchPath.findFile?_singleton.1 found
      rw [rank, List.findIdx_append]
      refine (if_neg outside).trans ?_
      rw [List.findIdx_cons, ← here.1, here.2]
      exact Nat.zero_add _
    rw [scan_concat, List.pairwise_append]
    refine ⟨(ih given' may').imp_of_mem fun there there' before => ?_, ?_,
      fun a there b there' => ?_⟩
    · rw [Precedes, (old there).1, (old there').1]
      exact before
    · refine ((pairwise_inDir files proxy dir).filter _).imp_of_mem fun there there' before => ?_
      exact .inr ⟨(new there).trans (new there').symm, before⟩
    · left
      rw [(old there).1, new there']
      exact (old there).2

/-- **Candidates come in the order of the directories that can be listed**, whatever directories
there are. -/
theorem pairwise_scan_listable (given : ∀ d ∈ dirs, d ≠ "") :
    (scan files dirs proxy).Pairwise (Precedes files (files.listable dirs) proxy) := by
  rw [← scan_listable]
  exact pairwise_scan (fun d there => given d (FileTree.mem_listable.1 there).1)
    fun d there => (FileTree.mem_listable.1 there).2

/-- No class comes twice. -/
theorem nodup_scan (given : ∀ d ∈ dirs, d ≠ "") :
    ((scan files dirs proxy).map className).Nodup := by
  refine List.pairwise_map.2 ((pairwise_scan_listable given).imp fun {a b} before same => ?_)
  have level :
      rank files (files.listable dirs) proxy a = rank files (files.listable dirs) proxy b := by
    rw [rank, same, ← rank]
  rcases before with earlier | ⟨-, smaller⟩
  · exact Nat.ne_of_lt earlier level
  · exact String.lt_irrefl _ (same ▸ smaller)

end Inspect.Candidate

end SceneSchema
