import SceneSchema.Plugin.FileName
import SceneSchema.Proofs.Disk.Components

/-!
# The names of module files

A class has one module file in each mode, whose name can be that of an entry in a directory if there
is no slash in the name of the class (`ModuleFile.isEntryName_name`). The way back is more generous:
it takes the suffix of either mode in letters of either case.

* `ModuleFile.stripSuffix?_name` — what stands before the suffix is the class, unless nothing does.
* `ModuleFile.className_name` — **the name of a module file leads back to its class**, since no name
  ends in the suffixes of both modes.
-/

namespace SceneSchema

namespace ModuleFile

variable {path className : String} {proxy : Bool}

/-- A module's file name is the name of the class and then the suffix. -/
theorem toList_name (className : String) (proxy : Bool) :
    (name className proxy).toList = className.toList ++ (suffix proxy).toList :=
  String.toList_append

/-- Each suffix is longer than the two dots. -/
theorem three_le_length_suffix (proxy : Bool) : 3 ≤ (suffix proxy).toList.length := by
  cases proxy <;> decide +kernel

/-- A class whose name has no slash has a module file that can be an entry of a directory. -/
theorem isEntryName_name (free : '/' ∉ className.toList) (proxy : Bool) :
    isEntryName (name className proxy) = true := by
  refine Path.isEntryName_of_length ?_ ?_
  · rw [toList_name, List.length_append]
    exact Nat.le_add_left_of_le (three_le_length_suffix proxy)
  · rw [toList_name, List.mem_append, not_or]
    exact ⟨free, by cases proxy <;> decide +kernel⟩

/-- Letters in either case are those of the suffix at the end. -/
theorem suffix_of_stripSuffix? {file stem : String} (fileName : Path.fileName? path = some file)
    (strips : stripSuffix? path proxy = some stem) :
    ((suffix proxy).toList.map Char.toLower).IsSuffix (file.toList.map Char.toLower) := by
  simp only [stripSuffix?, fileName, Option.bind_eq_bind, Option.bind_some] at strips
  split at strips
  · rename_i ends
    have letters := ends.2
    rw [sameLetters, beq_iff_eq] at letters
    rw [← letters]
    exact (List.drop_suffix ..).map _
  · cases strips

/-- The stem of a module's file has no slash. -/
theorem slash_not_mem_of_stripSuffix? {stem : String}
    (strips : stripSuffix? path proxy = some stem) : '/' ∉ stem.toList := by
  obtain ⟨file, fileName, strips⟩ := Option.bind_eq_some_iff.1 strips
  have free := Path.slash_not_mem_of_fileName? fileName
  dsimp only at strips
  split at strips
  · obtain rfl := Option.some.inj strips
    rw [String.toList_ofList]
    exact fun there => free (List.mem_of_mem_take there)
  · cases strips

/-- What stands before the suffix, where it is in exactly the letters of the mode. -/
theorem stripSuffix?_name (fileName : Path.fileName? path = some (name className proxy)) :
    stripSuffix? path proxy = if className = "" then none else some className := by
  have cut : (className.toList ++ (suffix proxy).toList).length - (suffix proxy).toList.length =
      className.toList.length := by
    rw [List.length_append, Nat.add_sub_cancel]
  simp only [stripSuffix?, fileName, Option.bind_eq_bind, Option.bind_some, toList_name, cut,
    List.drop_left, List.take_left, String.ofList_toList]
  by_cases empty : className = ""
  · simp [empty]
  · have longer : (suffix proxy).toList.length <
        (className.toList ++ (suffix proxy).toList).length := by
      rw [List.length_append, Nat.lt_add_left_iff_pos, List.length_pos_iff]
      exact fun nothing => empty (String.toList_inj.1 nothing)
    rw [if_neg empty, if_pos ⟨longer, by simp [sameLetters]⟩]

/-- **The name of a module file leads back to its class**, in either mode. -/
theorem className_name (fileName : Path.fileName? path = some (name className proxy)) :
    ModuleFile.className path = className := by
  have own := stripSuffix?_name fileName
  unfold ModuleFile.className
  cases proxy with
  | true =>
    rw [own]
    by_cases empty : className = ""
    · -- the suffix alone does not end in the other one
      subst empty
      have other : stripSuffix? path false = none := by
        refine Option.eq_none_iff_forall_ne_some.2 fun stem strips => ?_
        exact absurd (suffix_of_stripSuffix? fileName strips) (by decide +kernel)
      simp [other]
    · simp [empty]
  | false =>
    have other : stripSuffix? path true = none := by
      refine Option.eq_none_iff_forall_ne_some.2 fun stem strips => ?_
      have longer := suffix_of_stripSuffix? fileName strips
      have shorter : ((suffix false).toList.map Char.toLower).IsSuffix
          ((name className false).toList.map Char.toLower) := by
        rw [toList_name, List.map_append]
        exact List.suffix_append ..
      have both := List.suffix_of_suffix_length_le shorter longer (by decide +kernel)
      exact absurd both (by decide +kernel)
    rw [other, own, Option.none_or]
    by_cases empty : className = "" <;> simp [empty]

end ModuleFile

end SceneSchema
