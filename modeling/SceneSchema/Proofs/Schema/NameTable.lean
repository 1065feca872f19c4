import SceneSchema.Proofs.Schema.Growth

/-!
# The attribute table and the table of names

A class keeps the names of its attributes in two places, in the rows of its attribute table and in a
second table that leads from names to rows, and each change updates them in an order of its own.
`SceneClass.Sound` is the invariant that ties them together: **the second table holds exactly the
names and aliases of the rows, each with the number of its row, and no name twice**; besides, every
row carries its own number and the type of its default, and values are described only in rows of
enumerable integers.

* `Sound.becomes` — what may become of a sound class is sound.
* `Sound.find?_eq_some_iff`, `Sound.allNames_nodup` — what the table of names is for.
* `key_eq_ok_iff`, `Sound.key_of_vouches` — a key is issued under every name of its row, and it is
  the only key of that row.
-/

namespace SceneSchema

/-! ### Tables -/

section modify

variable {α β : Type} {f : α → α} {g : α → List β} {l : List α} {i : Nat}

/-- Adding to what one element contributes adds to the whole. -/
theorem flatMap_modify_perm {a : α} {more : List β} (here : l[i]? = some a)
    (adds : (g (f a)).Perm (more ++ g a)) :
    ((l.modify i f).flatMap g).Perm (more ++ l.flatMap g) := by
  induction l generalizing i with
  | nil => simp at here
  | cons x rest ih =>
    cases i with
    | zero =>
      obtain rfl : x = a := by simpa using here
      rw [List.modify_zero_cons, List.flatMap_cons, List.flatMap_cons, ← List.append_assoc]
      exact adds.append_right _
    | succ i =>
      rw [List.modify_succ_cons, List.flatMap_cons, List.flatMap_cons]
      refine ((ih (by simpa using here)).append_left (g x)).trans ?_
      rw [← List.append_assoc, ← List.append_assoc]
      exact List.perm_append_comm.append_right _

/-- Changing an element in what does not matter changes nothing that matters. -/
theorem flatMap_modify_of_eq (same : ∀ a, g (f a) = g a) :
    (l.modify i f).flatMap g = l.flatMap g := by
  induction l generalizing i with
  | nil => simp
  | cons x rest ih =>
    cases i with
    | zero => simp [same]
    | succ i => simp [ih]

end modify

/-! ### Names of rows -/

namespace Attribute

/-- All names of the attribute: its own, then its aliases. -/
def allNames (a : Attribute) : List String := a.name :: a.aliases

/-- The entries that the attribute has in a table of names. -/
def nameEntries (a : Attribute) : List (String × Nat) := a.allNames.map fun n => (n, a.index)

/-- The entries of a row are its names, each with the number of the row. -/
theorem mem_nameEntries {a : Attribute} {n : String} {i : Nat} :
    (n, i) ∈ a.nameEntries ↔ n ∈ a.allNames ∧ a.index = i := by
  simp [nameEntries]

/-- The names of the entries are the names of the row. -/
theorem nameEntries_fst (a : Attribute) : a.nameEntries.map Prod.fst = a.allNames := by
  simp [nameEntries, Function.comp_def]

/-- What stays of a row for good includes its entries, if no alias is added. -/
theorem KeptIn.nameEntries_eq {a b : Attribute} (h : a.KeptIn b) (aliases : b.aliases = a.aliases) :
    b.nameEntries = a.nameEntries := by
  rw [nameEntries, nameEntries, allNames, allNames, h.name_eq, h.index_eq, aliases]

end Attribute

namespace SceneClass

/-- The two tables of the class agree, and the rows are sound. -/
structure Sound (c : SceneClass) : Prop where
  /-- Rows have the numbers of their places. -/
  index_eq (i : Nat) (a : Attribute) : c.attributes[i]? = some a → a.index = i
  /-- The name table has the entries of the rows, in some order. -/
  names_perm : c.names.Perm (c.attributes.flatMap Attribute.nameEntries)
  /-- No name is there twice, be it as a name or as an alias. -/
  names_nodup : (c.names.map Prod.fst).Nodup
  /-- The texts of values are sound. -/
  texts : ∀ a ∈ c.attributes, a.TextsSound
  /-- Defaults are of the types of their rows. -/
  typed : c.RowsTyped

/-- A new class is sound: it has no rows and no names. -/
theorem sound_new (id : ClassId) (name : String) : (new id name).Sound where
  index_eq i a there := by simp [new] at there
  names_perm := .refl _
  names_nodup := List.nodup_nil
  texts a there := by simp [new] at there
  typed a there := by simp [new] at there

variable {c c' : SceneClass}

/-! ### Changes keep the tables in step -/

/-- A name that is free can be put into the table of names. -/
theorem Sound.nodup_cons (h : c.Sound) {name : String} (free : c.names.lookup name = none)
    (i : Nat) : (((name, i) :: c.names).map Prod.fst).Nodup :=
  List.nodup_cons.2 ⟨lookup_eq_none_iff_not_mem.1 free, h.names_nodup⟩

/-- A row under a free name may be appended. -/
theorem Sound.appendRow (h : c.Sound) {name : String} (default : Value) (flags : AttributeFlags)
    (free : c.names.lookup name = none) : (c.appendRow name default flags).Sound where
  index_eq i a there := by
    rw [SceneClass.appendRow, List.getElem?_append] at there
    split at there
    · exact h.index_eq i a there
    · rename_i behind
      -- behind the rows that were there is only the new one
      obtain ⟨last, rfl⟩ := List.getElem?_eq_some_iff.1 there
      have first : i - c.attributes.length = 0 := by simpa using last
      simp only [first, List.getElem_cons_zero, Attribute.new, count]
      omega
  names_perm := by
    refine (h.names_perm.cons (name, c.count)).trans ?_
    rw [SceneClass.appendRow, List.flatMap_append]
    show ([(name, c.count)] ++ _).Perm (_ ++ [(name, c.count)])
    exact List.perm_append_comm
  names_nodup := h.nodup_cons free _
  texts a there := by
    rcases List.mem_append.1 there with old | new
    · exact h.texts a old
    · obtain rfl := List.mem_singleton.1 new
      exact Attribute.textsSound_of_nil rfl
  typed a there := by
    rcases List.mem_append.1 there with old | new
    · exact h.typed a old
    · obtain rfl := List.mem_singleton.1 new
      rfl

/-- Changing a row keeps the rows sound if it keeps what stays for good and the row itself sound. -/
theorem Sound.texts_modify (h : c.Sound) {i : Nat} {a : Attribute} {f : Attribute → Attribute}
    (row : c.attributes[i]? = some a) (texts : a.TextsSound → (f a).TextsSound) :
    ∀ b ∈ c.attributes.modify i f, b.TextsSound := by
  intro b' there
  obtain ⟨j, at'⟩ := List.mem_iff_getElem?.1 there
  obtain ⟨b, at_, rfl⟩ := getElem?_modify_eq_some at'
  have sound := h.texts b (List.mem_of_getElem? at_)
  split
  · rename_i here
    subst here
    obtain rfl := Option.some.inj (row.symm.trans at_)
    exact texts sound
  · exact sound

/-- Rows keep their numbers if one of them is changed in something else. -/
theorem Sound.index_modify (h : c.Sound) {i : Nat} {f : Attribute → Attribute}
    (keeps : ∀ a, (f a).index = a.index) (j : Nat) (b : Attribute)
    (there : (c.attributes.modify i f)[j]? = some b) : b.index = j := by
  obtain ⟨a, at_, rfl⟩ := getElem?_modify_eq_some there
  split
  · rw [keeps]
    exact h.index_eq j a at_
  · exact h.index_eq j a at_

/-- Changing a row in what does not stay for good leaves its type that of its default. -/
theorem Sound.typed_modify (h : c.Sound) {i : Nat} {f : Attribute → Attribute}
    (keeps : ∀ a : Attribute, a.KeptIn (f a)) : (c.modifyRow i f).RowsTyped := by
  intro b' there
  obtain ⟨j, at'⟩ := List.mem_iff_getElem?.1 there
  obtain ⟨b, at_, rfl⟩ := getElem?_modify_eq_some at'
  have typed := h.typed b (List.mem_of_getElem? at_)
  split
  · rw [(keeps b).type_eq, (keeps b).default_eq]
    exact typed
  · exact typed

/-- A free name may be an alias of a row that is there. -/
theorem Sound.appendAlias (h : c.Sound) {i : Nat} {a : Attribute} {name : String}
    (row : c.attributes[i]? = some a) (free : c.names.lookup name = none) :
    (c.appendAlias i name).Sound where
  index_eq := h.index_modify fun _ => rfl
  names_perm := by
    refine (h.names_perm.cons (name, i)).trans (.symm ?_)
    show ((c.attributes.modify i _).flatMap _).Perm ([(name, i)] ++ _)
    refine flatMap_modify_perm row ?_
    -- the row's new entry is its last one
    have entries : Attribute.nameEntries { a with aliases := a.aliases ++ [name] } =
        a.nameEntries ++ [(name, i)] := by
      simp [Attribute.nameEntries, Attribute.allNames, h.index_eq i a row]
    rw [entries]
    exact List.perm_append_comm
  names_nodup := h.nodup_cons free _
  texts := h.texts_modify row fun sound => ⟨sound.nodup, sound.enumerable⟩
  typed := h.typed_modify fun _ => ⟨rfl, rfl, rfl, rfl, rfl, List.prefix_append _ _⟩

/-- One step keeps a class sound. -/
theorem Sound.change (h : c.Sound) (change : c.Change c') : c'.Sound := by
  cases change with
  | newRow name default flags free => exact h.appendRow default flags free
  | newAlias name row free => exact h.appendAlias row free
  | note f row keeps aliases texts =>
    refine ⟨h.index_modify fun a => (keeps a).index_eq, ?_, h.names_nodup, h.texts_modify row texts,
      h.typed_modify keeps⟩
    rw [modifyRow, flatMap_modify_of_eq fun a => (keeps a).nameEntries_eq (aliases a)]
    exact h.names_perm
  | close => exact ⟨h.index_eq, h.names_perm, h.names_nodup, h.texts, h.typed⟩
  | roles i => exact ⟨h.index_eq, h.names_perm, h.names_nodup, h.texts, h.typed⟩

/-- **What may become of a sound class is sound.** -/
theorem Sound.becomes (h : c.Sound) (becomes : c.Becomes c') : c'.Sound := by
  induction becomes with
  | refl => exact h
  | tail _ change ih => exact ih.change change

/-! ### What the table of names is for -/

/-- All names and aliases of the class differ. -/
theorem Sound.allNames_nodup (h : c.Sound) :
    (c.attributes.flatMap Attribute.allNames).Nodup := by
  have names : (c.names.map Prod.fst).Perm (c.attributes.flatMap Attribute.allNames) := by
    refine (h.names_perm.map Prod.fst).trans (.of_eq ?_)
    rw [List.map_flatMap]
    exact List.flatMap_congr fun a _ => a.nameEntries_fst
  exact names.nodup_iff.1 h.names_nodup

/-- The table of names leads to the row that has the name. -/
theorem Sound.lookup_eq_some_iff (h : c.Sound) {n : String} {i : Nat} :
    c.names.lookup n = some i ↔ ∃ a, c.attributes[i]? = some a ∧ n ∈ a.allNames := by
  rw [lookup_eq_some_iff_mem h.names_nodup, h.names_perm.mem_iff, List.mem_flatMap]
  constructor
  · rintro ⟨a, there, entry⟩
    obtain ⟨j, at_⟩ := List.mem_iff_getElem?.1 there
    obtain ⟨named, rfl⟩ := Attribute.mem_nameEntries.1 entry
    rw [h.index_eq j a at_]
    exact ⟨a, at_, named⟩
  · rintro ⟨a, at_, named⟩
    exact ⟨a, List.mem_of_getElem? at_, Attribute.mem_nameEntries.2 ⟨named, h.index_eq i a at_⟩⟩

/-- **A name leads to the attribute that has it, as its name or as an alias.** -/
theorem Sound.find?_eq_some_iff (h : c.Sound) {n : String} {a : Attribute} :
    c.find? n = some a ↔ a ∈ c.attributes ∧ n ∈ a.allNames := by
  simp only [find?, Option.bind_eq_bind, Option.bind_eq_some_iff, h.lookup_eq_some_iff]
  constructor
  · rintro ⟨i, ⟨b, row, named⟩, at_⟩
    obtain rfl := Option.some.inj (row.symm.trans at_)
    exact ⟨List.mem_of_getElem? row, named⟩
  · rintro ⟨there, named⟩
    obtain ⟨i, at_⟩ := List.mem_iff_getElem?.1 there
    exact ⟨i, ⟨a, at_, named⟩, at_⟩

/-- A key is issued under the name of an attribute of its type. -/
theorem key_eq_ok_iff {n : String} {t : ValueType} {k : Key t} :
    c.key n t = .ok k ↔ ∃ a, c.find? n = some a ∧ a.type = t ∧ k = ⟨⟨c.id, a.index⟩⟩ := by
  unfold key
  rcases found : c.find? n with _ | a
  · simp
  · by_cases type : a.type = t
    · simp [type, eq_comm]
    · simp [type]

/-- A key that keeps its promise is the key under every name of its row. -/
theorem Sound.key_of_issued (h : c.Sound) {t : ValueType} {k : Key t} (issued : c.Issued k) :
    ∃ a, c.attributes[k.index]? = some a ∧ ∀ n ∈ a.allNames, c.key n t = .ok k := by
  obtain ⟨own, type⟩ := issued
  obtain ⟨a, at_, type⟩ := types_getElem?_eq_some_iff.1 type
  refine ⟨a, at_, fun n named => key_eq_ok_iff.2 ⟨a, ?_, type, ?_⟩⟩
  · exact h.find?_eq_some_iff.2 ⟨List.mem_of_getElem? at_, named⟩
  · obtain ⟨⟨owner, index⟩⟩ := k
    rw [h.index_eq _ a at_, ← own]

/-- A key that is issued under a name names a row of its type. -/
theorem Sound.issued_of_key (h : c.Sound) {n : String} {t : ValueType} {k : Key t}
    (run : c.key n t = .ok k) : c.Issued k := by
  obtain ⟨a, found, type, rfl⟩ := key_eq_ok_iff.1 run
  obtain ⟨there, -⟩ := h.find?_eq_some_iff.1 found
  obtain ⟨i, at_⟩ := List.mem_iff_getElem?.1 there
  refine ⟨rfl, types_getElem?_eq_some_iff.2 ⟨a, ?_, type⟩⟩
  rw [h.index_eq i a at_]
  exact at_

end SceneClass

end SceneSchema
