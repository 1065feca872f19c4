import Mathlib.Data.List.Nodup
import Mathlib.Logic.Relation
import SceneSchema.Proofs.Object.WellTyped

/-!
# What can become of a class

Editing an open class appends rows, adds names, and writes annotations; closing it changes no row at
all. `SceneClass.Change` has one constructor for each of these, and everything else about edits is
read off from it.

* `change_of_edit` — a successful edit is a change. An edit that describes a value has to come with
  a key that keeps its promise (`Edit.Honest`), since the class does not look at the type of the
  row.
* `Becomes.grows` — **no number of changes moves, renames, retypes or removes a row**: the row stays
  where it is, with its name, type, default, flags and number, and its aliases stay in front of any
  new ones (`SceneClass.Grows`).
* `Grows.vouches` — so a key that keeps its promise keeps it for good.
-/

namespace SceneSchema

/-! ### Rows -/

namespace Attribute

/-- What stays of a row for good. -/
structure KeptIn (a b : Attribute) : Prop where
  name_eq : b.name = a.name
  type_eq : b.type = a.type
  default_eq : b.default = a.default
  flags_eq : b.flags = a.flags
  index_eq : b.index = a.index
  /-- Aliases only come to be added at the end. -/
  aliases_prefix : a.aliases <+: b.aliases

/-- Everything of a row stays if nothing is done to it. -/
theorem KeptIn.refl (a : Attribute) : a.KeptIn a :=
  ⟨rfl, rfl, rfl, rfl, rfl, List.prefix_refl _⟩

/-- What stays twice stays. -/
theorem KeptIn.trans {a b d : Attribute} (h : a.KeptIn b) (h' : b.KeptIn d) : a.KeptIn d where
  name_eq := h'.name_eq.trans h.name_eq
  type_eq := h'.type_eq.trans h.type_eq
  default_eq := h'.default_eq.trans h.default_eq
  flags_eq := h'.flags_eq.trans h.flags_eq
  index_eq := h'.index_eq.trans h.index_eq
  aliases_prefix := h.aliases_prefix.trans h'.aliases_prefix

/-- No value is described twice, and only an enumerable integer has described values. -/
structure TextsSound (a : Attribute) : Prop where
  /-- No value has two texts, -/
  nodup : a.enumTexts.keys.Nodup
  /-- and only an enumerable attribute of integers has any. -/
  enumerable : a.enumTexts ≠ [] → a.type = .scalar .int ∧ a.isEnumerable = true

/-- A row without described values is sound. -/
theorem textsSound_of_nil {a : Attribute} (none : a.enumTexts = []) : a.TextsSound where
  nodup := by simp [none, Table.keys]
  enumerable some := absurd none some

/-- Describing a value of an enumerable integer keeps its row sound. -/
theorem TextsSound.put {a : Attribute} (h : a.TextsSound) (type : a.type = .scalar .int)
    (enumerable : a.isEnumerable = true) (value : Int32) (text : String) :
    TextsSound { a with enumTexts := a.enumTexts.put value text } where
  nodup := by
    show (Table.keys (a.enumTexts.put value text)).Nodup
    rw [Table.keys_put]
    split
    · exact h.nodup
    · rename_i new
      rw [List.contains_iff_mem] at new
      simpa using h.nodup.concat new
  enumerable _ := ⟨type, enumerable⟩

end Attribute

/-- A row of a table with one row changed is a row that was there, changed if it is the one. -/
theorem getElem?_modify_eq_some {α : Type} {f : α → α} {l : List α} {i j : Nat} {b : α}
    (there : (l.modify i f)[j]? = some b) : ∃ a, l[j]? = some a ∧ b = if i = j then f a else a := by
  rw [List.getElem?_modify, Option.map_eq_map, Option.map_eq_some_iff] at there
  obtain ⟨a, row, rfl⟩ := there
  refine ⟨a, row, ?_⟩
  split <;> rfl

namespace SceneClass

variable {c c' d : SceneClass}

/-! ### Growing -/

/-- The one class is what has become of the other: all its rows are there, each in its place. -/
structure Grows (c c' : SceneClass) : Prop where
  id_eq : c'.id = c.id
  name_eq : c'.name = c.name
  /-- Each row stays in its place, with what is kept of it. -/
  row (i : Nat) (a : Attribute) : c.attributes[i]? = some a →
    ∃ a', c'.attributes[i]? = some a' ∧ a.KeptIn a'

/-- A class has grown from itself. -/
theorem Grows.refl (c : SceneClass) : c.Grows c := ⟨rfl, rfl, fun _ a h => ⟨a, h, .refl a⟩⟩

/-- What has grown from a class that has grown has grown from the first. -/
theorem Grows.trans (h : c.Grows c') (h' : c'.Grows d) : c.Grows d where
  id_eq := h'.id_eq.trans h.id_eq
  name_eq := h'.name_eq.trans h.name_eq
  row i a there := by
    obtain ⟨a', there', kept⟩ := h.row i a there
    obtain ⟨a'', there'', kept'⟩ := h'.row i a' there'
    exact ⟨a'', there'', kept.trans kept'⟩

/-- A class whose rows are the same, all else aside. -/
theorem grows_of_attributes_eq (id : c'.id = c.id) (name : c'.name = c.name)
    (rows : c'.attributes = c.attributes) : c.Grows c' :=
  ⟨id, name, fun _ a h => ⟨a, rows ▸ h, .refl a⟩⟩

/-- **A key that keeps its promise keeps it for good.** -/
theorem Grows.vouches (h : c.Grows c') {t : ValueType} {k : Key t} (vouches : c.Vouches k) :
    c'.Vouches k := by
  intro own
  obtain ⟨a, there, type⟩ := types_getElem?_eq_some_iff.1 (vouches (own.trans h.id_eq))
  obtain ⟨a', there', kept⟩ := h.row _ a there
  exact types_getElem?_eq_some_iff.2 ⟨a', there', kept.type_eq.trans type⟩

/-- The class issued the key, and it has the row, of the type that the key promises. -/
def Issued (c : SceneClass) {t : ValueType} (k : Key t) : Prop :=
  k.owner = c.id ∧ c.types[k.index]? = some t

/-- A key that a class has issued is issued by whatever has become of it. -/
theorem Grows.issued (h : c.Grows c') {t : ValueType} {k : Key t} (issued : c.Issued k) :
    c'.Issued k :=
  have own := issued.1.trans h.id_eq.symm
  ⟨own, h.vouches (fun _ => issued.2) own⟩

/-! ### Changes -/

/-- The class with one more row. -/
def appendRow (c : SceneClass) (name : String) (default : Value) (flags : AttributeFlags) :
    SceneClass :=
  { c with
    attributes := c.attributes ++ [.new name default flags c.count]
    names := (name, c.count) :: c.names }

/-- The class with one more name for a row. -/
def appendAlias (c : SceneClass) (index : Nat) (name : String) : SceneClass :=
  { c.modifyRow index fun a => { a with aliases := a.aliases ++ [name] } with
    names := (name, index) :: c.names }

/-- What may become of a class in one step. -/
inductive Change (c : SceneClass) : SceneClass → Prop where
  | newRow (name : String) (default : Value) (flags : AttributeFlags)
      (free : c.names.lookup name = none) : Change c (c.appendRow name default flags)
  | newAlias {i : Nat} {a : Attribute} (name : String) (row : c.attributes[i]? = some a)
      (free : c.names.lookup name = none) : Change c (c.appendAlias i name)
  /-- An annotation leaves all names alone, and does not spoil the descriptions of the row that is
  annotated. -/
  | note {i : Nat} {a : Attribute} (f : Attribute → Attribute) (row : c.attributes[i]? = some a)
      (keeps : ∀ b : Attribute, b.KeptIn (f b)) (aliases : ∀ b, (f b).aliases = b.aliases)
      (texts : a.TextsSound → (f a).TextsSound) : Change c (c.modifyRow i f)
  | close : Change c c.finalize
  | roles (i : Interface) : Change c (c.withInterface i)

/-- Changing rows in what does not stay for good lets a class grow. -/
theorem grows_modifyRow (i : Nat) {f : Attribute → Attribute}
    (keeps : ∀ a : Attribute, a.KeptIn (f a)) : c.Grows (c.modifyRow i f) where
  id_eq := rfl
  name_eq := rfl
  row j a there := by
    refine ⟨if i = j then f a else a, ?_, ?_⟩
    · simp only [modifyRow, List.getElem?_modify, there]
      split <;> rfl
    · split
      · exact keeps a
      · exact .refl a

/-- **No change moves, renames, retypes or removes a row.** -/
theorem Change.grows (h : c.Change c') : c.Grows c' := by
  cases h with
  | newRow name default flags free =>
    refine ⟨rfl, rfl, fun i a there => ⟨a, ?_, .refl a⟩⟩
    rw [appendRow, List.getElem?_append_left (List.getElem?_eq_some_iff.1 there).1]
    exact there
  | @newAlias i _ name =>
    have renamed : c.Grows (c.modifyRow i fun a => { a with aliases := a.aliases ++ [name] }) :=
      grows_modifyRow i fun a => ⟨rfl, rfl, rfl, rfl, rfl, List.prefix_append _ _⟩
    exact renamed.trans (grows_of_attributes_eq rfl rfl rfl)
  | note f _ keeps => exact grows_modifyRow _ keeps
  | close => exact grows_of_attributes_eq rfl rfl rfl
  | roles i => exact grows_of_attributes_eq rfl rfl rfl

/-- What may become of a class in any number of steps. -/
def Becomes : SceneClass → SceneClass → Prop := Relation.ReflTransGen Change

/-- One more change. -/
theorem Becomes.change (h : c.Becomes c') (change : c'.Change d) : c.Becomes d := h.tail change

/-- Changes only let a class grow, by induction on them. -/
theorem Becomes.grows (h : c.Becomes c') : c.Grows c' := by
  induction h with
  | refl => exact .refl c
  | tail _ change ih => exact ih.trans change.grows

/-! ### Edits are changes -/

/-- A name is free exactly if the name table does not have it. -/
theorem checkFree_eq_ok_iff {name : String} :
    c.checkFree name = .ok () ↔ c.names.lookup name = none := by
  unfold checkFree
  cases c.names.lookup name <;> simp

/-- A key is accepted if the class issued it and has the row. -/
theorem checkKey_eq_ok_iff {k : SlotKey} {a : Attribute} :
    c.checkKey k = .ok a ↔ k.owner = c.id ∧ c.attributes[k.index]? = some a := by
  unfold checkKey row?
  by_cases own : k.owner = c.id
  · rcases c.attributes[k.index]? with _ | b <;> simp [own]
  · simp [own]

/-- A declaration that succeeds appends a row under a free name. -/
theorem change_of_declare {name : String} {default : Value} {flags : AttributeFlags}
    (run : c.declare name default flags = .ok c') :
    c.names.lookup name = none ∧ c' = c.appendRow name default flags := by
  obtain ⟨⟨⟩, -, run⟩ := bind_eq_ok_iff.1 run
  obtain ⟨⟨⟩, free, run⟩ := bind_eq_ok_iff.1 run
  exact ⟨checkFree_eq_ok_iff.1 free, (Except.ok.inj run).symm⟩

/-- The last key names the row that was declared last. -/
theorem row_lastKey (c : SceneClass) (name : String) (default : Value) (flags : AttributeFlags)
    (t : ValueType) :
    (c.appendRow name default flags).attributes[
      ((c.appendRow name default flags).lastKey t).index]? =
      some (.new name default flags c.count) := by
  simp [appendRow, lastKey, count]

/-- The key that a declaration gives is issued. -/
theorem issued_lastKey {name : String} {default : Value} {flags : AttributeFlags}
    (run : c.declare name default flags = .ok c') : c'.Issued (c'.lastKey default.type) := by
  obtain ⟨-, rfl⟩ := change_of_declare run
  exact ⟨rfl, types_getElem?_eq_some_iff.2 ⟨_, c.row_lastKey name default flags _, rfl⟩⟩

/-- An annotation goes to the row of a key that the class accepts. -/
theorem annotation_eq_ok {k : SlotKey} {f : Attribute → Attribute}
    (run : (do c.checkOpen (← c.checkKey k).name; .ok (c.modifyRow k.index f)) = .ok c') :
    ∃ a, c.checkKey k = .ok a ∧ c' = c.modifyRow k.index f := by
  obtain ⟨a, accepted, run⟩ := bind_eq_ok_iff.1 run
  obtain ⟨⟨⟩, -, run⟩ := bind_eq_ok_iff.1 run
  exact ⟨a, accepted, (Except.ok.inj run).symm⟩

end SceneClass

/-- A key that the edit describes a value by keeps its promise. -/
def Edit.Honest (c : SceneClass) : Edit → Prop
  | .setEnumText key _ _ => c.Vouches key
  | _ => True

namespace SceneClass

variable {c c' : SceneClass}

/-- A successful edit is a change. -/
theorem change_of_edit {e : Edit} (honest : e.Honest c) (run : c.edit e = .ok c') :
    c.Change c' := by
  cases e with
  | declare name default flags =>
    obtain ⟨free, rfl⟩ := change_of_declare run
    exact .newRow name default flags free
  | addAlias k name =>
    obtain ⟨⟨⟩, -, run⟩ := bind_eq_ok_iff.1 run
    obtain ⟨a, row, run⟩ := bind_eq_ok_iff.1 run
    obtain ⟨⟨⟩, free, run⟩ := bind_eq_ok_iff.1 run
    obtain rfl := Except.ok.inj run
    exact .newAlias name (checkKey_eq_ok_iff.1 row).2 (checkFree_eq_ok_iff.1 free)
  | setMetadata k entry text =>
    obtain ⟨a, accepted, rfl⟩ := annotation_eq_ok run
    have row := (checkKey_eq_ok_iff.1 accepted).2
    exact .note _ row (fun b => ⟨rfl, rfl, rfl, rfl, rfl, List.prefix_refl _⟩) (fun _ => rfl)
      fun sound => ⟨sound.nodup, sound.enumerable⟩
  | setGroup k group =>
    obtain ⟨a, accepted, rfl⟩ := annotation_eq_ok run
    have row := (checkKey_eq_ok_iff.1 accepted).2
    exact .note _ row (fun b => ⟨rfl, rfl, rfl, rfl, rfl, List.prefix_refl _⟩) (fun _ => rfl)
      fun sound => ⟨sound.nodup, sound.enumerable⟩
  | setEnumText k value text =>
    obtain ⟨a, row, run⟩ := bind_eq_ok_iff.1 run
    obtain ⟨own, row⟩ := checkKey_eq_ok_iff.1 row
    obtain ⟨⟨⟩, -, run⟩ := bind_eq_ok_iff.1 run
    split at run
    · rename_i enumerable
      obtain rfl := Except.ok.inj run
      -- the type of the row is known from the key alone
      obtain ⟨b, row', type⟩ := types_getElem?_eq_some_iff.1 (honest own)
      obtain rfl := Option.some.inj (row.symm.trans row')
      exact .note _ row (fun b => ⟨rfl, rfl, rfl, rfl, rfl, List.prefix_refl _⟩) (fun _ => rfl)
        fun sound => sound.put type enumerable value text
    · cases run
  | finalize =>
    obtain rfl := Except.ok.inj run
    exact .close

/-- An edit that succeeds is a change. -/
theorem becomes_of_edit {e : Edit} (honest : e.Honest c) (run : c.edit e = .ok c') :
    c.Becomes c' := .single (change_of_edit honest run)

end SceneClass

end SceneSchema
