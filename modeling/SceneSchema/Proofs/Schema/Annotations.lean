import SceneSchema.Proofs.Schema.Growth
import SceneSchema.Proofs.Text.ByteOrder

/-!
# What the annotations of an attribute say

A row of an attribute table carries aliases, described values, metadata and a heading. They are kept
in four different ways: in a list that grows, in a table whose entries change where they stand, in a
table sorted by key, and in one optional text. Edits of all kinds, of several rows and of other
classes, come in any order, and some of them fail.

* `Table.latest` — what a key was given last, of a list of settings; `Table.IsUpdate`, the two laws
  from which a table comes to say just that (`IsUpdate.lookup_eq_latest`). Both ways to put an entry
  into a table obey them (`isUpdate_put`, `isUpdate_insertSorted`).
* `Attribute.AnnotatedBy` — what a row says after a list of edits, all of them of this row.
* `SceneClass.effect_of_edit` — what one successful edit does to the rows (`SceneClass.Effect`).
  Everything below is read off from it.
* `SceneClass.done` — the edits that succeed; `SceneClass.Recorded`, the invariant of a run: each
  row says what those of its own edits say that have succeeded.

**Main statement** (`annotations_of_edits`): so it is for each row of a class after any edits, and
a further edit, of another row or of none, leaves the row as it is.
-/

namespace SceneSchema

/-! ### Tables and what was put into them -/

namespace Table

variable {κ β : Type} [DecidableEq κ] {t : Table κ β} {settings : List (κ × β)}
  {put : κ → β → Table κ β → Table κ β}

/-- What the key was given last. -/
def latest (settings : List (κ × β)) (key : κ) : Option β := settings.reverse.lookup key

/-- What a key was given last is what the last setting says, if it is about the key. -/
theorem latest_concat (settings : List (κ × β)) (k key : κ) (value : β) :
    latest (settings ++ [(k, value)]) key =
      if key = k then some value else latest settings key := by
  rw [latest, List.reverse_concat, List.lookup_cons]
  by_cases same : key = k
  · simp [same]
  · have apart : (key == k) = false := beq_eq_false_iff_ne.2 same
    rw [apart, if_neg same, latest]

/-- A way to put entries into a table that affects the key of the entry and no other. -/
structure IsUpdate (put : κ → β → Table κ β → Table κ β) : Prop where
  /-- What was put under a key is found under it. -/
  self (key : κ) (value : β) (t : Table κ β) : (put key value t).lookup key = some value
  /-- Under other keys the same is found as before. -/
  others (key name : κ) (value : β) (t : Table κ β) :
    name ≠ key → (put key value t).lookup name = t.lookup name

/-- A table that says what the keys were given last still does so after one more setting. -/
theorem IsUpdate.lookup_eq_latest (h : IsUpdate put)
    (before : ∀ key, t.lookup key = latest settings key) (k : κ) (value : β) (key : κ) :
    (put k value t).lookup key = latest (settings ++ [(k, value)]) key := by
  rw [latest_concat]
  split
  · rename_i same
    rw [same]
    exact h.self k value t
  · rename_i other
    rw [h.others k key value t other]
    exact before key

/-- Putting an entry obeys the two laws. -/
theorem isUpdate_put : IsUpdate (@Table.put κ β _) where
  self := lookup_put_self
  others _ _ value t other := lookup_put_of_ne other value t

/-- Keys that come in the order in which they were first set do so after one more setting. -/
theorem keys_put_eq_eraseDups (order : t.keys = (settings.map Prod.fst).eraseDups) (k : κ)
    (value : β) :
    (Table.put k value t).keys = ((settings ++ [(k, value)]).map Prod.fst).eraseDups := by
  rw [keys_put, order, List.map_append, List.eraseDups_append]
  by_cases old : k ∈ settings.map Prod.fst
  · simp [old, List.removeAll]
  · simp [old, List.removeAll, List.eraseDups_cons]

end Table

section insertSorted

variable {entries : Table String String} {key : String}

/-- Inserting an entry in order affects no other key. -/
theorem lookup_insertSorted_of_ne {name : String} (other : name ≠ key) (text : String)
    (entries : Table String String) :
    (insertSorted key text entries).lookup name = entries.lookup name := by
  have apart : (name == key) = false := beq_eq_false_iff_ne.2 other
  induction entries with
  | nil => simp [insertSorted, List.lookup_cons, apart]
  | cons e rest ih =>
    obtain ⟨k, old⟩ := e
    rw [insertSorted]
    split_ifs with before same
    · simp [List.lookup_cons, apart]
    · rw [List.lookup_cons, List.lookup_cons, ← same, apart]
    · rw [List.lookup_cons, List.lookup_cons, ih]

/-- Inserting an entry in order obeys the two laws. -/
theorem isUpdate_insertSorted : Table.IsUpdate insertSorted where
  self := lookup_insertSorted_self
  others _ _ text entries other := lookup_insertSorted_of_ne other text entries

/-- The keys after an insertion are the new one and those that were there. -/
theorem mem_keys_insertSorted {name text : String} :
    name ∈ (insertSorted key text entries).keys → name = key ∨ name ∈ entries.keys := by
  intro there
  by_contra neither
  obtain ⟨other, absent⟩ := not_or.1 neither
  have none := lookup_eq_none_iff_not_mem.2 absent
  rw [← lookup_insertSorted_of_ne other text] at none
  exact lookup_eq_none_iff_not_mem.1 none there

/-- An entry goes where the keys stay in order. -/
theorem sorted_insertSorted (sorted : entries.keys.Pairwise (· < ·)) (key text : String) :
    (insertSorted key text entries).keys.Pairwise (· < ·) := by
  induction entries with
  | nil => exact List.pairwise_singleton _ _
  | cons e rest ih =>
    obtain ⟨k, old⟩ := e
    obtain ⟨first, others⟩ := List.pairwise_cons.1 sorted
    rw [insertSorted]
    split_ifs with before same
    · refine List.pairwise_cons.2 ⟨?_, sorted⟩
      intro name there
      rcases List.mem_cons.1 there with rfl | there
      · exact before
      · exact before.trans (first name there)
    · subst same
      exact sorted
    · refine List.pairwise_cons.2 ⟨?_, ih others⟩
      intro name there
      rcases mem_keys_insertSorted there with rfl | there
      · exact lt_of_le_of_ne (not_lt.1 before) (Ne.symm same)
      · exact first name there

end insertSorted

/-! ### What an edit says of a row -/

namespace Edit

/-- The key of the row that the edit is about. -/
def target? : Edit → Option SlotKey
  | .addAlias key _ | .setMetadata key _ _ | .setGroup key _ => some key
  | .setEnumText key _ _ => some key.toSlotKey
  | .declare _ _ _ | .finalize => none

/-- The alias that the edit adds. -/
def alias? : Edit → Option String
  | .addAlias _ name => some name
  | _ => none

/-- The heading under which the edit puts the row. -/
def heading? : Edit → Option String
  | .setGroup _ group => some group
  | _ => none

/-- The value that the edit describes, with the description. -/
def description? : Edit → Option (Int32 × String)
  | .setEnumText _ value text => some (value, text)
  | _ => none

/-- The key and the text of the metadata that the edit sets. -/
def note? : Edit → Option (String × String)
  | .setMetadata _ entry text => some (entry, text)
  | _ => none

/-- The row with what the edit says. -/
def annotate (e : Edit) (a : Attribute) : Attribute :=
  match e with
  | .addAlias _ name => { a with aliases := a.aliases ++ [name] }
  | .setMetadata _ entry text => { a with metadata := insertSorted entry text a.metadata }
  | .setGroup _ group => { a with group := some group }
  | .setEnumText _ value text => { a with enumTexts := a.enumTexts.put value text }
  | .declare _ _ _ | .finalize => a

/-- Those of the edits that are about the row of the key. -/
def about (k : SlotKey) (es : List Edit) : List Edit := es.filter (·.target? = some k)

/-- One more edit of the row is the last one about it. -/
theorem about_concat_self {e : Edit} {k : SlotKey} (same : e.target? = some k) (es : List Edit) :
    about k (es ++ [e]) = about k es ++ [e] := by
  simp [about, same]

/-- An edit of another row is not about this one. -/
theorem about_concat_of_ne {e : Edit} {k : SlotKey} (other : e.target? ≠ some k) (es : List Edit) :
    about k (es ++ [e]) = about k es := by
  simp [about, other]

variable (e : Edit) (a : Attribute)

/-! An edit writes to one of the four, if at all. -/

/-- An edit adds its alias, if it gives one, behind the others. -/
theorem aliases_annotate : (e.annotate a).aliases = a.aliases ++ e.alias?.toList := by
  cases e <;> simp [annotate, alias?]

/-- The group is the one that was given last. -/
theorem group_annotate : (e.annotate a).group = e.heading?.or a.group := by
  cases e <;> rfl

/-- An edit that describes a value puts its text into the table of texts. -/
theorem enumTexts_annotate :
    (e.annotate a).enumTexts =
      e.description?.elim a.enumTexts fun s => a.enumTexts.put s.1 s.2 := by
  cases e <;> rfl

/-- An edit that makes a note inserts it into the table of notes. -/
theorem metadata_annotate :
    (e.annotate a).metadata = e.note?.elim a.metadata fun s => insertSorted s.1 s.2 a.metadata := by
  cases e <;> rfl

end Edit

namespace Attribute

variable {a : Attribute} {es : List Edit}

/-- The row says what the edits say, which came one after the other. -/
structure AnnotatedBy (a : Attribute) (es : List Edit) : Prop where
  /-- Aliases are listed as they were added. -/
  aliases_eq : a.aliases = es.filterMap Edit.alias?
  /-- The last heading counts, -/
  group_eq : a.group = (es.filterMap Edit.heading?).getLast?
  /-- and so does the last description of each value. -/
  enumText?_eq (value : Int32) :
    a.enumText? value = Table.latest (es.filterMap Edit.description?) value
  /-- Values are listed in the order in which they were first described. -/
  enumTexts_keys : a.enumTexts.keys = ((es.filterMap Edit.description?).map Prod.fst).eraseDups
  /-- The last text under each key of the metadata counts. -/
  metadata?_eq (entry : String) :
    a.metadata? entry = Table.latest (es.filterMap Edit.note?) entry
  /-- The keys are listed in the order of their bytes. -/
  metadata_keys : a.metadata.keys.Pairwise (utf8Bytes · < utf8Bytes ·)

/-- A row as it was declared, before any edit. -/
theorem annotatedBy_nil (aliases : a.aliases = []) (group : a.group = none)
    (enumTexts : a.enumTexts = []) (metadata : a.metadata = []) : a.AnnotatedBy [] where
  aliases_eq := aliases
  group_eq := group
  enumText?_eq value := by
    rw [enumText?, enumTexts]
    rfl
  enumTexts_keys := by
    rw [enumTexts]
    rfl
  metadata?_eq entry := by
    rw [metadata?, metadata]
    rfl
  metadata_keys := by
    rw [metadata]
    exact List.Pairwise.nil

/-- **One more edit**: the row then says what this edit says, and what was said before. -/
theorem AnnotatedBy.annotate (h : a.AnnotatedBy es) (e : Edit) :
    (e.annotate a).AnnotatedBy (es ++ [e]) where
  aliases_eq := by
    rw [e.aliases_annotate, h.aliases_eq, List.filterMap_append]
    rcases said : e.alias? with _ | name <;> simp [said]
  group_eq := by
    rw [e.group_annotate, h.group_eq, List.filterMap_append, List.getLast?_append]
    rcases said : e.heading? with _ | group <;> simp [said]
  enumText?_eq value := by
    rw [enumText?, e.enumTexts_annotate, List.filterMap_append]
    rcases said : e.description? with _ | ⟨v, text⟩
    · simpa [said, enumText?] using h.enumText?_eq value
    · simpa [said] using Table.isUpdate_put.lookup_eq_latest h.enumText?_eq v text value
  enumTexts_keys := by
    rw [e.enumTexts_annotate, List.filterMap_append]
    rcases said : e.description? with _ | ⟨v, text⟩
    · simpa [said] using h.enumTexts_keys
    · simpa [said] using Table.keys_put_eq_eraseDups h.enumTexts_keys v text
  metadata?_eq entry := by
    rw [metadata?, e.metadata_annotate, List.filterMap_append]
    rcases said : e.note? with _ | ⟨k, text⟩
    · simpa [said, metadata?] using h.metadata?_eq entry
    · simpa [said] using isUpdate_insertSorted.lookup_eq_latest h.metadata?_eq k text entry
  metadata_keys := by
    have sorted := h.metadata_keys
    simp only [utf8Bytes_lt_iff] at sorted ⊢
    rw [e.metadata_annotate]
    rcases e.note? with _ | ⟨k, text⟩
    · exact sorted
    · exact sorted_insertSorted sorted k text

/-- Each described value is listed once, with its description. -/
theorem AnnotatedBy.mem_enumTexts_iff (h : a.AnnotatedBy es) {value : Int32} {text : String} :
    (value, text) ∈ a.enumTexts ↔ a.enumText? value = some text := by
  have nodup : a.enumTexts.keys.Nodup := by
    rw [h.enumTexts_keys]
    exact nodup_eraseDups _
  exact (lookup_eq_some_iff_mem nodup).symm

/-- Each key of the metadata is listed once, with its text. -/
theorem AnnotatedBy.mem_metadata_iff (h : a.AnnotatedBy es) {entry text : String} :
    (entry, text) ∈ a.metadata ↔ a.metadata? entry = some text := by
  have nodup : a.metadata.keys.Nodup := by
    apply h.metadata_keys.imp
    rintro k _ less rfl
    exact List.lt_irrefl _ less
  exact (lookup_eq_some_iff_mem nodup).symm

end Attribute

/-! ### Runs -/

namespace SceneClass

variable {c c' : SceneClass} {log : List Edit}

/-- What an edit does to the rows if it succeeds. -/
inductive Effect (c : SceneClass) (e : Edit) (c' : SceneClass) : Prop where
  /-- It is about a row, which is then annotated. -/
  | annotates {i : Nat} (inside : i < c.count) (target : e.target? = some ⟨c.id, i⟩)
      (rows : c'.attributes = c.attributes.modify i e.annotate)
  /-- It is about none, and the rows that it adds, if any, have no annotations. -/
  | adds {new : List Attribute} (target : e.target? = none)
      (rows : c'.attributes = c.attributes ++ new) (bare : ∀ a ∈ new, a.AnnotatedBy [])

/-- The row of a key that the class accepts is one of its rows. -/
theorem effect_of_checkKey {e : Edit} {k : SlotKey} {a : Attribute}
    (accepted : c.checkKey k = .ok a) (target : e.target? = some k)
    (rows : c'.attributes = c.attributes.modify k.index e.annotate) : c.Effect e c' := by
  obtain ⟨own, row⟩ := checkKey_eq_ok_iff.1 accepted
  apply Effect.annotates (List.getElem?_eq_some_iff.1 row).1 _ rows
  rw [target, ← own]

/-- **A successful edit** keeps the identity of the class, and changes one row at most. -/
theorem effect_of_edit {e : Edit} (run : c.edit e = .ok c') : c'.id = c.id ∧ c.Effect e c' := by
  cases e with
  | declare name default flags =>
    obtain ⟨-, rfl⟩ := change_of_declare run
    refine ⟨rfl, .adds rfl rfl ?_⟩
    intro a there
    obtain rfl := List.mem_singleton.1 there
    exact Attribute.annotatedBy_nil rfl rfl rfl rfl
  | addAlias k name =>
    obtain ⟨⟨⟩, -, run⟩ := bind_eq_ok_iff.1 run
    obtain ⟨a, accepted, run⟩ := bind_eq_ok_iff.1 run
    obtain ⟨⟨⟩, -, run⟩ := bind_eq_ok_iff.1 run
    obtain rfl := Except.ok.inj run
    exact ⟨rfl, effect_of_checkKey accepted rfl rfl⟩
  | setMetadata k entry text =>
    obtain ⟨a, accepted, rfl⟩ := annotation_eq_ok run
    exact ⟨rfl, effect_of_checkKey accepted rfl rfl⟩
  | setGroup k group =>
    obtain ⟨a, accepted, rfl⟩ := annotation_eq_ok run
    exact ⟨rfl, effect_of_checkKey accepted rfl rfl⟩
  | setEnumText k value text =>
    obtain ⟨a, accepted, run⟩ := bind_eq_ok_iff.1 run
    obtain ⟨⟨⟩, -, run⟩ := bind_eq_ok_iff.1 run
    split at run
    · obtain rfl := Except.ok.inj run
      exact ⟨rfl, effect_of_checkKey accepted rfl rfl⟩
    · cases run
  | finalize =>
    obtain rfl := Except.ok.inj run
    exact ⟨rfl, .adds rfl (List.append_nil _).symm (by simp)⟩

/-- A row stays as it is under an edit that is not about it. -/
theorem row_of_edit_of_ne {e : Edit} {i : Nat} {a : Attribute} (run : c.edit e = .ok c')
    (other : e.target? ≠ some ⟨c.id, i⟩) (row : c.attributes[i]? = some a) :
    c'.attributes[i]? = some a := by
  obtain ⟨-, effect⟩ := effect_of_edit run
  cases effect with
  | @annotates j _ target rows =>
    have apart : j ≠ i := by
      rintro rfl
      exact other target
    rw [rows, List.getElem?_modify, row]
    simp [apart]
  | adds _ rows =>
    rw [rows, List.getElem?_append_left (List.getElem?_eq_some_iff.1 row).1, row]

/-- The edits that succeed when they are made one after the other. -/
def done (c : SceneClass) : List Edit → List Edit
  | [] => []
  | e :: rest =>
      match c.edit e with
      | .ok c' => e :: c'.done rest
      | .error _ => c.done rest

/-- Each row of the class says what those edits of the log say that are about it. -/
structure Recorded (c : SceneClass) (log : List Edit) : Prop where
  /-- Each row says what the edits say that are about it. -/
  annotated (i : Nat) (a : Attribute) :
    c.attributes[i]? = some a → a.AnnotatedBy (Edit.about ⟨c.id, i⟩ log)
  /-- No edit is about a row that is yet to come. -/
  inside (i : Nat) : Edit.about ⟨c.id, i⟩ log ≠ [] → i < c.count

/-- A new class has no rows, and nothing is said of them. -/
theorem recorded_new (id : ClassId) (name : String) : (new id name).Recorded [] where
  annotated _ _ row := nomatch row
  inside _ known := absurd rfl known

/-- **A successful edit is recorded.** -/
theorem Recorded.edit (h : c.Recorded log) {e : Edit} (run : c.edit e = .ok c') :
    c'.Recorded (log ++ [e]) := by
  obtain ⟨id, effect⟩ := effect_of_edit run
  cases effect with
  | @annotates i inside target rows =>
    constructor
    · intro j a row
      rw [rows] at row
      obtain ⟨b, before, rfl⟩ := getElem?_modify_eq_some row
      rw [id]
      split
      · rename_i same
        subst same
        rw [Edit.about_concat_self target]
        exact (h.annotated i b before).annotate e
      · rename_i apart
        have other : e.target? ≠ some ⟨c.id, j⟩ := by
          rw [target]
          simpa using apart
        rw [Edit.about_concat_of_ne other]
        exact h.annotated j b before
    · intro j known
      rw [count, rows, List.length_modify]
      by_cases same : i = j
      · exact same ▸ inside
      · have other : e.target? ≠ some ⟨c.id, j⟩ := by
          rw [target]
          simpa using same
        rw [id, Edit.about_concat_of_ne other] at known
        exact h.inside j known
  | @adds new target rows bare =>
    have other (i : Nat) : e.target? ≠ some ⟨c.id, i⟩ := by
      rw [target]
      exact (Option.some_ne_none _).symm
    constructor
    · intro i a row
      rw [id, Edit.about_concat_of_ne (other i)]
      rw [rows, List.getElem?_append] at row
      split at row
      · exact h.annotated i a row
      · rename_i outside
        -- the log has nothing about a row that was not there
        have silent : Edit.about ⟨c.id, i⟩ log = [] := not_not.1 (mt (h.inside i) outside)
        rw [silent]
        exact bare a (List.mem_of_getElem? row)
    · intro i known
      rw [id, Edit.about_concat_of_ne (other i)] at known
      rw [count, rows, List.length_append]
      exact Nat.lt_add_right _ (h.inside i known)

/-- Edits leave a class its identity. -/
theorem id_edits (c : SceneClass) (es : List Edit) : (c.edits es).id = c.id := by
  induction es generalizing c with
  | nil => rfl
  | cons e rest ih =>
    unfold edits
    rcases run : c.edit e with error | c'
    · exact ih c
    · exact (ih c').trans (effect_of_edit run).1

/-- Edits after others go on from where those ended. -/
theorem edits_append (c : SceneClass) (es more : List Edit) :
    c.edits (es ++ more) = (c.edits es).edits more := by
  induction es generalizing c with
  | nil => rfl
  | cons e rest ih =>
    rw [List.cons_append, edits, edits]
    rcases c.edit e with error | c'
    · exact ih c
    · exact ih c'

/-- A run is recorded by the edits that succeed. -/
theorem Recorded.edits (h : c.Recorded log) (es : List Edit) :
    (c.edits es).Recorded (log ++ c.done es) := by
  induction es generalizing c log with
  | nil =>
    rw [done, List.append_nil]
    exact h
  | cons e rest ih =>
    rw [SceneClass.edits, done]
    rcases run : c.edit e with error | c'
    · exact ih h
    · have step := ih (h.edit run)
      rw [List.append_assoc] at step
      exact step

/-- **Annotations are what they were last set to.** Take a class after any edits, of which some may
have failed. Each row of it says what those of the edits say that were about this row and succeeded:
its aliases as they were added, the last heading, of each value that was described the last
description, in the order in which the values were first described, and of each key of its metadata
the last text, in the order of the bytes of the keys; nothing is listed twice, and nothing else is
listed. A further edit that is not about the row leaves it as it is. -/
theorem annotations_of_edits (id : ClassId) (name : String) (es : List Edit) {i : Nat}
    {a : Attribute} (row : ((new id name).edits es).attributes[i]? = some a) :
    a.AnnotatedBy (Edit.about ⟨id, i⟩ ((new id name).done es)) ∧
    (∀ value text, (value, text) ∈ a.enumTexts ↔ a.enumText? value = some text) ∧
    (∀ entry text, (entry, text) ∈ a.metadata ↔ a.metadata? entry = some text) ∧
    ∀ e : Edit, e.target? ≠ some ⟨id, i⟩ →
      ((new id name).edits (es ++ [e])).attributes[i]? = some a := by
  have annotated : a.AnnotatedBy (Edit.about ⟨id, i⟩ ((new id name).done es)) := by
    have run := ((recorded_new id name).edits es).annotated i a row
    rw [id_edits] at run
    exact run
  refine ⟨annotated, ?_, ?_, ?_⟩
  · intro value text
    exact annotated.mem_enumTexts_iff
  · intro entry text
    exact annotated.mem_metadata_iff
  · intro e other
    rw [edits_append, SceneClass.edits]
    rcases run : ((new id name).edits es).edit e with error | c'
    · exact row
    · apply row_of_edit_of_ne run _ row
      rw [id_edits]
      exact other

/-- Edits of two rows in turns. Of the first row two values are described, one of them twice, and
metadata are set under two keys, the later one in order first. The second row is no enumeration, one
key is of another class, and the last edit finds the class closed. -/
def labelling : List Edit := [
  .declare "mode" ⟨.scalar .int, (0 : Int32)⟩ .enumerable,
  .declare "level" ⟨.scalar .int, (0 : Int32)⟩ .empty,
  .setEnumText ⟨⟨3⟩, 0⟩ 2 "two", .setMetadata ⟨⟨3⟩, 0⟩ "é" "accent",
  .setEnumText ⟨⟨3⟩, 0⟩ 1 "one", .setEnumText ⟨⟨3⟩, 1⟩ 2 "unlisted",
  .setGroup ⟨⟨3⟩, 1⟩ "Levels", .setMetadata ⟨⟨3⟩, 0⟩ "z" "plain",
  .setEnumText ⟨⟨3⟩, 0⟩ 2 "zwei", .setGroup ⟨⟨4⟩, 0⟩ "Foreign", .finalize,
  .setGroup ⟨⟨3⟩, 0⟩ "Late"]

/-- The first row in the end. -/
def modeRow : Attribute :=
  { Attribute.new "mode" ⟨.scalar .int, (0 : Int32)⟩ .enumerable 0 with
    metadata := [("z", "plain"), ("é", "accent")], enumTexts := [(2, "zwei"), (1, "one")] }

/-- The statement at this row. -/
theorem annotations_of_labelling :
    ((new ⟨3⟩ "Mixer").edits labelling).attributes[0]? = some modeRow ∧
    modeRow.enumTexts.keys = [2, 1] ∧ modeRow.enumText? 2 = some "zwei" ∧
    modeRow.metadata.keys.Pairwise (utf8Bytes · < utf8Bytes ·) ∧ modeRow.group = none ∧
    ((new ⟨3⟩ "Mixer").edits (labelling ++ [.setGroup ⟨⟨3⟩, 1⟩ "Late"])).attributes[0]? =
      some modeRow := by
  have row : ((new ⟨3⟩ "Mixer").edits labelling).attributes[0]? = some modeRow := by
    decide +kernel
  have log : Edit.about ⟨⟨3⟩, 0⟩ ((new ⟨3⟩ "Mixer").done labelling) =
      [.setEnumText ⟨⟨3⟩, 0⟩ 2 "two", .setMetadata ⟨⟨3⟩, 0⟩ "é" "accent",
        .setEnumText ⟨⟨3⟩, 0⟩ 1 "one", .setMetadata ⟨⟨3⟩, 0⟩ "z" "plain",
        .setEnumText ⟨⟨3⟩, 0⟩ 2 "zwei"] := by
    decide +kernel
  obtain ⟨annotated, -, -, stays⟩ := annotations_of_edits ⟨3⟩ "Mixer" labelling row
  rw [log] at annotated
  refine ⟨row, ?_, ?_, annotated.metadata_keys, annotated.group_eq, ?_⟩
  · exact annotated.enumTexts_keys.trans (by decide)
  · exact (annotated.enumText?_eq 2).trans (by decide)
  · exact stays _ (by decide)

end SceneClass

end SceneSchema
