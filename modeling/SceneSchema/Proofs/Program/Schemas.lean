import SceneSchema.Proofs.Program.Invariant

/-!
# The schemas of a program's classes

What a class shows of itself is its attribute table, the lookup of attributes by name, and the keys
that it issues. `SceneClass.TablesAgree` says how these hang together.

**Main statement** (`Program.tables_agree`): they do in every class that a program has seen,
whatever was done to it, with keys of whatever class, and whether it succeeded or failed; and
whatever the program does later, the rows of the class stay.
-/

namespace SceneSchema

/-- What a class shows of itself is one table; `keys` are the keys that classes have issued so far.
-/
structure SceneClass.TablesAgree (c : SceneClass) (keys : List AnyKey) : Prop where
  /-- A row carries its number, and its type is that of its default. -/
  row (i : Nat) (a : Attribute) :
    c.attributes[i]? = some a → a.index = i ∧ a.type = a.default.type
  /-- All names and aliases differ. -/
  names_nodup : (c.attributes.flatMap Attribute.allNames).Nodup
  /-- A name leads to the row that has it as its name or as an alias, -/
  find?_iff (n : String) (i : Nat) (a : Attribute) :
    c.attributes[i]? = some a → (c.find? n = some a ↔ n = a.name ∨ n ∈ a.aliases)
  /-- and otherwise nowhere. -/
  find?_none (n : String) : c.find? n = none ↔ ∀ a ∈ c.attributes, n ≠ a.name ∧ n ∉ a.aliases
  /-- A key is to be had under a name exactly with the type of its row. -/
  key_iff (n : String) (t : ValueType) :
    (∃ k, c.key n t = .ok k) ↔ ∃ a, c.find? n = some a ∧ a.type = t
  /-- Declaring an attribute issues the key that is to be had under its name. -/
  key_declared (n : String) (v : Value) (flags : AttributeFlags) (c' : SceneClass) :
    c.declare n v flags = .ok c' → c'.key n v.type = .ok (c'.lastKey v.type)
  /-- A key that the class has ever issued names a row, and is the key under all names of the row.
  -/
  key_issued (k : AnyKey) : k ∈ keys → k.key.owner = c.id →
    ∃ a, c.attributes[k.key.index]? = some a ∧ a.type = k.type ∧
      ∀ n, c.find? n = some a → c.key n k.type = .ok k.key
  /-- Values are described once each, and only in rows of enumerable integers. -/
  texts (a : Attribute) : a ∈ c.attributes → (a.enumTexts.map Prod.fst).Nodup ∧
    (a.enumTexts ≠ [] → a.type = .scalar .int ∧ a.flags.has .enumerable = true)

namespace SceneClass

variable {c c' : SceneClass}

/-- A name leads nowhere exactly if no row has it. -/
theorem Sound.find?_eq_none_iff (h : c.Sound) {n : String} :
    c.find? n = none ↔ ∀ a ∈ c.attributes, n ∉ a.allNames := by
  rw [Option.eq_none_iff_forall_ne_some]
  simp only [ne_eq, h.find?_eq_some_iff, not_and]

/-- The key that a declaration issues is the key under the name declared. -/
theorem Sound.key_of_declare (h : c.Sound) {n : String} {v : Value} {flags : AttributeFlags}
    (run : c.declare n v flags = .ok c') : c'.key n v.type = .ok (c'.lastKey v.type) := by
  have issued := issued_lastKey run
  obtain ⟨free, rfl⟩ := change_of_declare run
  obtain ⟨a, row, names⟩ := (h.appendRow v flags free).key_of_issued issued
  obtain rfl := Option.some.inj ((c.row_lastKey n v flags _).symm.trans row)
  exact names n List.mem_cons_self

/-- In a sound class the tables agree, for keys that keep their promises. -/
theorem Sound.tablesAgree (h : c.Sound) {keys : List AnyKey}
    (vouched : ∀ k ∈ keys, c.Vouches k.key) : c.TablesAgree keys where
  row i a there := ⟨h.index_eq i a there, h.typed a (List.mem_of_getElem? there)⟩
  names_nodup := h.allNames_nodup
  find?_iff n i a there := by
    rw [h.find?_eq_some_iff, and_iff_right (List.mem_of_getElem? there)]
    exact List.mem_cons
  find?_none n := by
    rw [h.find?_eq_none_iff]
    simp only [Attribute.allNames, List.mem_cons, not_or, ne_eq]
  key_iff n t := by
    simp only [key_eq_ok_iff]
    constructor
    · rintro ⟨-, a, found, type, -⟩
      exact ⟨a, found, type⟩
    · rintro ⟨a, found, type⟩
      exact ⟨⟨⟨c.id, a.index⟩⟩, a, found, type, rfl⟩
  key_declared n v flags c' run := h.key_of_declare run
  key_issued k there own := by
    have issued : c.Issued k.key := ⟨own, vouched k there own⟩
    obtain ⟨a, row, names⟩ := h.key_of_issued issued
    obtain ⟨b, row', type⟩ := types_getElem?_eq_some_iff.1 issued.2
    obtain rfl := Option.some.inj (row.symm.trans row')
    exact ⟨a, row, type, fun n found => names n (h.find?_eq_some_iff.1 found).2⟩
  texts a there := ⟨(h.texts a there).nodup, (h.texts a there).enumerable⟩

end SceneClass

namespace Program

/-- **The tables of every class agree, and its rows stay.** This is so after whatever a program has
done (`before`), and whatever it does then (`after`) the class is there with all its rows, each in
its place, of the same name, default and type, and with the same aliases in front of any new ones;
and no key is forgotten. -/
theorem tables_agree (before after : List Operation) {c : SceneClass}
    (seen : c ∈ (run {} before).classes) :
    c.TablesAgree (run {} before).keys ∧
      (∃ c' ∈ (run {} (before ++ after)).classes, c.Grows c') ∧
      (run {} before).keys ⊆ (run {} (before ++ after)).keys := by
  have sound := sound_run before
  have advances := sound.run after
  rw [← run_append] at advances
  have agree := (sound.classes c seen).tablesAgree fun k there => (sound.keys k there).2 c seen
  exact ⟨agree, advances.classes c seen, advances.keys⟩

/-- Two classes are declared: some of it fails, since a name is taken, since a key is of the other
class, or since the attribute whose value is described is not enumerable. -/
def twoSchemas : List Operation :=
  [.newClass "Lamp", .newClass "Gauge",
    .edit ⟨1⟩ (.declare "mode" ⟨.scalar .int, (0 : Int32)⟩ .enumerable),
    .edit ⟨2⟩ (.declare "level" ⟨.scalar .int, (0 : Int32)⟩ .empty),
    .edit ⟨1⟩ (.declare "mode" ⟨.scalar .bool, true⟩ .empty),
    .edit ⟨1⟩ (.addAlias ⟨⟨2⟩, 0⟩ "level"),
    .edit ⟨1⟩ (.addAlias ⟨⟨1⟩, 0⟩ "kind"),
    .edit ⟨1⟩ (.setEnumText ⟨⟨⟨1⟩, 0⟩⟩ 1 "wide"),
    .edit ⟨2⟩ (.setEnumText ⟨⟨⟨2⟩, 0⟩⟩ 1 "high"),
    .edit ⟨1⟩ (.setEnumText ⟨⟨⟨1⟩, 0⟩⟩ 1 "narrow")]

/-- The first of them, as the successful edits left it. -/
def modeSchema : SceneClass :=
  { id := ⟨1⟩
    name := "Lamp"
    attributes := [{ Attribute.new "mode" ⟨.scalar .int, (0 : Int32)⟩ .enumerable 0 with
      aliases := ["kind"], enumTexts := [(1, "narrow")] }]
    names := [("kind", 0), ("mode", 0)] }

/-- The statement at this class, with a key of it, and with another row declared later. -/
theorem tables_agree_modeSchema :
    modeSchema ∈ (run {} twoSchemas).classes ∧
      ⟨.scalar .int, ⟨⟨1⟩, 0⟩⟩ ∈ (run {} twoSchemas).keys ∧
      modeSchema.TablesAgree (run {} twoSchemas).keys ∧
      ∃ c ∈ (run {} (twoSchemas ++ [.edit ⟨1⟩ (.declare "size" ⟨.scalar .bool, true⟩ .empty),
        .edit ⟨1⟩ .finalize])).classes, modeSchema.Grows c := by
  have seen : modeSchema ∈ (run {} twoSchemas).classes := by decide +kernel
  have issued : ⟨.scalar .int, ⟨⟨1⟩, 0⟩⟩ ∈ (run {} twoSchemas).keys := by decide +kernel
  obtain ⟨agree, later, -⟩ := tables_agree twoSchemas
    [.edit ⟨1⟩ (.declare "size" ⟨.scalar .bool, true⟩ .empty), .edit ⟨1⟩ .finalize] seen
  exact ⟨seen, issued, agree, later⟩

end Program

end SceneSchema
