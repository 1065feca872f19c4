import SceneSchema.Proofs.Schema.Declaration

/-!
# A declaration does not depend on the identity

Each class is made with an identity of its own, which goes into the keys that it issues and is
compared with those that it is given. A declaration gets at keys only through the words that its own
steps have bound, so it cannot tell which identity that is.

* `SceneClass.edit_withId` — an edit does the same to a class of another identity, if its keys are
  those of that class instead.
* `Script.runSteps_withId` — and so do any number of steps, whatever they do and however they end.
* `Script.run_withId` — **a declaration ends in the same way for every identity, and leaves the same
  class but for the identity**.
-/

namespace SceneSchema

/-! ### Another identity -/

/-- The class with another identity. -/
def SceneClass.withId (c : SceneClass) (id : ClassId) : SceneClass := { c with id }

/-- The key with another owner. -/
def SlotKey.withOwner (k : SlotKey) (id : ClassId) : SlotKey := { k with owner := id }

/-- The key with another owner. -/
def AnyKey.withOwner (k : AnyKey) (id : ClassId) : AnyKey :=
  ⟨k.type, ⟨k.key.toSlotKey.withOwner id⟩⟩

/-- The edit with a key of another owner. -/
def Edit.withOwner (id : ClassId) : Edit → Edit
  | .declare name default flags => .declare name default flags
  | .addAlias k name => .addAlias (k.withOwner id) name
  | .setMetadata k entry text => .setMetadata (k.withOwner id) entry text
  | .setGroup k group => .setGroup (k.withOwner id) group
  | .setEnumText k value text => .setEnumText ⟨k.toSlotKey.withOwner id⟩ value text
  | .finalize => .finalize

/-- The key of the edit, if there is one, is a key of the class. -/
def Edit.Own (c : SceneClass) : Edit → Prop
  | .addAlias k _ | .setMetadata k _ _ | .setGroup k _ => k.owner = c.id
  | .setEnumText k _ _ => k.owner = c.id
  | .declare .. | .finalize => True

namespace SceneClass

variable {c c' : SceneClass} {id : ClassId}

/-- A key of the class passes the check of the class with another identity if it gets that
identity, too. -/
theorem checkKey_withId {k : SlotKey} (own : k.owner = c.id) :
    (c.withId id).checkKey (k.withOwner id) = c.checkKey k := by
  simp only [checkKey, row?, withId, SlotKey.withOwner, own, if_true]

/-- **An edit does the same to a class of another identity.** -/
theorem edit_withId {e : Edit} (own : e.Own c) :
    (c.withId id).edit (e.withOwner id) = (·.withId id) <$> c.edit e := by
  have isOpen (name : String) : (c.withId id).checkOpen name = c.checkOpen name := rfl
  have free (name : String) : (c.withId id).checkFree name = c.checkFree name := rfl
  cases e with
  | declare name default flags =>
    simp only [edit, Edit.withOwner, declare, isOpen, free, map_bind]
    rfl
  | addAlias k name =>
    simp only [edit, Edit.withOwner, addAlias, isOpen, free, checkKey_withId own, map_bind]
    rfl
  | setMetadata k entry text =>
    simp only [edit, Edit.withOwner, setMetadata, isOpen, checkKey_withId own, map_bind]
    rfl
  | setGroup k group =>
    simp only [edit, Edit.withOwner, setGroup, isOpen, checkKey_withId own, map_bind]
    rfl
  | setEnumText k value text =>
    simp only [edit, Edit.withOwner, setEnumText, isOpen, checkKey_withId own, map_bind]
    refine congrArg _ (funext fun a => congrArg _ (funext fun _ => ?_))
    split <;> rfl
  | finalize => rfl

end SceneClass

/-! ### Other keys under the same words -/

namespace Script

variable {c c' : SceneClass} {keys : KeyTable} {a : Action} {id : ClassId}

/-- The bound keys with another owner. -/
def renameKeys (id : ClassId) (keys : KeyTable) : KeyTable :=
  keys.map fun b => (b.1, b.2.withOwner id)

/-- A word leads to the same key with another identity. -/
theorem lookup_renameKeys (id : ClassId) (keys : KeyTable) (word : String) :
    (renameKeys id keys).lookup word = (keys.lookup word).map (·.withOwner id) := by
  induction keys with
  | nil => rfl
  | cons b rest ih =>
    obtain ⟨word', k⟩ := b
    simp only [renameKeys, List.map_cons, List.lookup_cons] at ih ⊢
    split
    · rfl
    · exact ih

/-- A word is bound to the same key with another identity, or to none in both. -/
theorem boundKey_withId (word : String) :
    boundKey (c.withId id) (renameKeys id keys) word =
      (·.withOwner id) <$> boundKey c keys word := by
  simp only [boundKey, lookup_renameKeys]
  rcases keys.lookup word with _ | k <;> rfl

/-- A step asks for the same edit, with keys of the other class. -/
theorem toEdit_withId : toEdit (c.withId id) (renameKeys id keys) a =
    (·.withOwner id) <$> toEdit c keys a := by
  cases a with
  | addAlias word name | setMetadata word entry text | setGroup word group =>
    simp only [toEdit, boundKey_withId, map_bind, bind_map_left]
    rfl
  | setEnumText word value text =>
    simp only [toEdit, boundKey_withId, map_bind, bind_map_left]
    refine congrArg _ (funext fun ⟨t, k⟩ => ?_)
    by_cases type : t = .scalar .int
    · cases type
      rfl
    · rw [dif_neg type, AnyKey.withOwner, dif_neg type]
      rfl
  | declare | finalize | fail | notFound | panic => rfl

/-- To bind a key and then to give all keys another identity is to do it the other way round. -/
theorem bindKey_withId : bindKey (c.withId id) (renameKeys id keys) a =
    renameKeys id (bindKey c keys a) := by
  unfold bindKey
  split <;> rfl

/-! ### Steps -/

variable {e : Edit}

/-- An edit that a step asks for has a key of the class. -/
theorem own_of_toEdit (issued : ∀ b ∈ keys, c.Issued b.2.key) (asked : toEdit c keys a = .ok e) :
    e.Own c := by
  cases a with
  | addAlias | setMetadata | setGroup =>
    obtain ⟨k, bound, asked⟩ := bind_eq_ok_iff.1 asked
    obtain rfl := Except.ok.inj asked
    exact (issued _ (mem_of_boundKey bound)).1
  | setEnumText word value text =>
    obtain ⟨⟨t, k⟩, bound, asked⟩ := bind_eq_ok_iff.1 asked
    split at asked
    · rename_i type
      obtain rfl := Except.ok.inj asked
      cases type
      exact (issued _ (mem_of_boundKey bound)).1
    · cases asked
  | declare | finalize =>
    obtain rfl := Except.ok.inj asked
    trivial
  | fail | notFound | panic => cases asked

/-- After a successful step, the bound keys are keys of the class that it left. -/
theorem issued_bindKey (issued : ∀ b ∈ keys, c.Issued b.2.key) (asked : toEdit c keys a = .ok e)
    (run : c.edit e = .ok c') : ∀ b ∈ bindKey c' keys a, c'.Issued b.2.key := by
  have honest := honest_of_toEdit (fun b there _ => (issued b there).2) asked
  have grows := (SceneClass.becomes_of_edit honest run).grows
  have old : ∀ b ∈ keys, c'.Issued b.2.key := fun b there => grows.issued (issued b there)
  unfold bindKey
  split
  · obtain rfl := Except.ok.inj asked
    rintro b (_ | ⟨_, there⟩)
    · exact SceneClass.issued_lastKey run
    · exact old b there
  · exact old

/-- Steps do the same to a class of another identity, whatever they do and however they end. -/
theorem runSteps_withId (result : Interface) (steps : List Step)
    (issued : ∀ b ∈ keys, c.Issued b.2.key) :
    runSteps result (c.withId id) (renameKeys id keys) steps =
      ((runSteps result c keys steps).1, (runSteps result c keys steps).2.withId id) := by
  induction steps generalizing c keys with
  | nil => rfl
  | cons s rest ih =>
    by_cases panic : s.action = .panic
    · simp only [runSteps, if_pos panic]
    have step : toEdit (c.withId id) (renameKeys id keys) s.action >>= (c.withId id).edit =
        (·.withId id) <$> (toEdit c keys s.action >>= c.edit) := by
      rw [toEdit_withId]
      rcases asked : toEdit c keys s.action with _ | e
      · rfl
      · exact SceneClass.edit_withId (own_of_toEdit issued asked)
    simp only [runSteps, if_neg panic, step]
    rcases ran : toEdit c keys s.action >>= c.edit with e | c'
    · simp only [Except.map_error]
      split
      · exact ih issued
      · rfl
    · obtain ⟨e, asked, run⟩ := bind_eq_ok_iff.1 ran
      simp only [Except.map_ok, bindKey_withId]
      exact ih (issued_bindKey issued asked run)

/-- **A declaration ends in the same way for every identity**, and leaves the same class but for the
identity. -/
theorem run_withId (s : Script) (c : SceneClass) (id : ClassId) :
    s.run (c.withId id) = ((s.run c).1, (s.run c).2.withId id) := by
  have issued : ∀ b ∈ ([] : KeyTable), c.Issued b.2.key :=
    fun _ none => absurd none List.not_mem_nil
  exact runSteps_withId s.interface s.steps issued

end Script

end SceneSchema
