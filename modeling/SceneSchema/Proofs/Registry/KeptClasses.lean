import SceneSchema.Proofs.Plugin.Crossing
import SceneSchema.Proofs.Schema.Declaration
import SceneSchema.Registry

/-!
# The classes that a registry keeps

A registry makes classes and throws away those whose declaration fails; the code of a class may make
further ones while it makes an object. Identities are never used twice, so this does not matter to
anybody who has hold of a class already:

* `Registry.advances_load`, `advances_declare`, `advances_create` — **an operation leaves the kept
  classes as they are, or adds one**, which is sound and has an identity that no class had before
  (`Registry.Advances`).
* `Registry.new_of_create` — an object that a registry makes, by a module or by built-in code, is a
  new object of a class that it keeps.
-/

namespace SceneSchema

variable {ids ids' : IdSource}

/-- An identity that was given out is not given out again. -/
theorem ClassId.ne_fresh {id : ClassId} (lt : id.number < ids.next) : id ≠ ids.fresh := by
  rintro rfl
  exact Nat.lt_irrefl _ lt

/-! ### Making an object -/

/-- What comes of an attempt to make an object of a class: if an object, then a new one of this very
class, provided that its identity was given out before. -/
structure Makes {ε : Type} (c : SceneClass) (ids : IdSource) (result : Except ε SceneObject)
    (ids' : IdSource) : Prop where
  /-- No identity is given back. -/
  next_le : ids.next ≤ ids'.next
  /-- An object is a new one of the class. -/
  new (o : SceneObject) : result = .ok o → c.id ≠ ids.fresh → ∃ n, o = .new c n

/-- A failure makes no object. -/
theorem Makes.failed {ε : Type} {c : SceneClass} {e : ε} (le : ids.next ≤ ids'.next) :
    Makes c ids (.error e) ids' := ⟨le, fun _ run => nomatch run⟩

/-- Only the objects matter, and not how a failure is told. -/
theorem Makes.of_objects {ε ε' : Type} {c : SceneClass} {x : Except ε SceneObject}
    {y : Except ε' SceneObject} (h : Makes c ids x ids') (same : ∀ o, y = .ok o → x = .ok o) :
    Makes c ids y ids' := ⟨h.next_le, fun o made => h.new o (same o made)⟩

/-- Code that makes an object gives back no identity. -/
theorem Creation.next_le_run (how : Creation) (c : SceneClass) (name : String) (ids : IdSource) :
    ids.next ≤ (how.run c name ids).2.next := by
  cases how <;> simp [Creation.run, IdSource.advance]

/-- An object counts if it is one of the class that was asked for, which tells it from an object of
a class that its maker has just made. -/
theorem Creation.makes_run {ε : Type} {how : Creation} {c : SceneClass} {name : String}
    {made : Option SceneObject} {result : Except ε SceneObject}
    (run : how.run c name ids = (made, ids'))
    (counts : ∀ o, result = .ok o → made = some o ∧ o.sceneClass.id = c.id) :
    Makes c ids result ids' where
  next_le := by
    have le := how.next_le_run c name ids
    rwa [run] at le
  new o ok old := by
    obtain ⟨rfl, same⟩ := counts o ok
    cases how with
    | plain =>
      cases run
      exact ⟨name, rfl⟩
    | renamed =>
      cases run
      exact ⟨"renamed:" ++ name, rfl⟩
    | foreign =>
      cases run
      exact absurd same.symm old
    | panic => cases run

/-- An object that passes the question for its class is a new one of the class. -/
theorem Creation.makes_own {ε : Type} {how : Creation} {c : SceneClass} {name : String}
    {o : SceneObject} (run : how.run c name ids = (some o, ids'))
    (same : o.sceneClass.id = c.id) : Makes c ids (.ok o : Except ε SceneObject) ids' := by
  refine makes_run run fun o' ok => ?_
  obtain rfl := Except.ok.inj ok
  exact ⟨rfl, same⟩

/-- Where the answer is an error, code has at most used up identities. -/
theorem Creation.makes_none {ε : Type} {how : Creation} {c : SceneClass} {name : String}
    {made : Option SceneObject} (run : how.run c name ids = (made, ids')) (e : ε) :
    Makes c ids (.error e) ids' := makes_run run fun _ ok => nomatch ok

/-- A module makes new objects of the class it is asked for: its answer is checked for the class.
-/
theorem Plugin.makes_create (p : Plugin) (scripts : Scripts) (c : SceneClass) (name : String)
    (ids : IdSource) :
    Makes c ids (p.create scripts c name ids).1 (p.create scripts c name ids).2.2 := by
  rw [p.create_eq]
  split
  · exact .failed (Nat.le_refl _)
  split
  · exact .failed (Nat.le_refl _)
  split
  · exact .failed (Nat.le_refl _)
  split
  · exact .failed (Nat.le_refl _)
  -- the module is ready and the name can be handed to it
  split
  all_goals rename_i run
  · exact Creation.makes_none run _
  · split
    · rename_i same
      exact Creation.makes_own run same
    · exact Creation.makes_none run _

/-- A loaded class stays what it is when it makes an object. -/
theorem LoadedClass.sceneClass_create (l : LoadedClass) (scripts : Scripts) (name : String)
    (ids : IdSource) : (l.create scripts name ids).2.1.sceneClass = l.sceneClass := by
  unfold LoadedClass.create
  split
  · split <;> rfl
  · split
    · rfl
    · split <;> rfl

/-- A loaded class makes new objects of itself, whatever code stands behind it. -/
theorem LoadedClass.makes_create (l : LoadedClass) (scripts : Scripts) (name : String)
    (ids : IdSource) :
    Makes l.sceneClass ids ((l.create scripts name ids).1.map OwnedObject.object)
      (l.create scripts name ids).2.2 := by
  unfold LoadedClass.create
  split
  · rename_i p _
    have makes := p.makes_create scripts l.sceneClass name ids
    split <;> rename_i run <;> rw [run] at makes
    · exact .failed makes.next_le
    · refine makes.of_objects fun o' made => ?_
      obtain rfl := Except.ok.inj made
      rfl
  · split
    all_goals rename_i run
    · exact Creation.makes_none run _
    · split
      · rename_i same
        exact Creation.makes_own run same
      · exact Creation.makes_none run _

/-! ### Keeping classes -/

namespace Registry

/-- The classes that the registry keeps. -/
def keptClasses (r : Registry) : List SceneClass := r.classes.map (·.2.sceneClass)

variable {r r' : Registry} {w : World} {name object : String}

/-- What is found under a name is among the kept classes. -/
theorem mem_keptClasses_of_get? {l : LoadedClass} (kept : r.get? name = some l) :
    l.sceneClass ∈ r.keptClasses :=
  List.mem_map.2 ⟨(name, l), Table.mem_of_lookup kept, rfl⟩

/-- To keep one more class adds that class and nothing else. -/
theorem mem_keptClasses_keep {l : LoadedClass} {c : SceneClass}
    (there : c ∈ (r.keep name l).keptClasses) : c ∈ r.keptClasses ∨ c = l.sceneClass := by
  obtain ⟨e, entry, rfl⟩ := List.mem_map.1 there
  rcases Table.mem_put entry with old | new
  · exact .inl (List.mem_map.2 ⟨e, old, rfl⟩)
  · exact .inr (by rw [new])

/-- What an operation on a registry leaves, with the source of identities as it was before and as it
is afterwards. -/
inductive Advances (r : Registry) (ids : IdSource) : Registry → IdSource → Prop where
  /-- No class is added. -/
  | same {r' : Registry} {ids' : IdSource} (le : ids.next ≤ ids'.next)
      (kept : r'.keptClasses ⊆ r.keptClasses) : Advances r ids r' ids'
  /-- One class may be added, which is new. -/
  | one {r' : Registry} {ids' : IdSource} (c : SceneClass) (id : c.id = ids.fresh) (sound : c.Sound)
      (lt : ids.next < ids'.next)
      (kept : ∀ d ∈ r'.keptClasses, d ∈ r.keptClasses ∨ d = c) : Advances r ids r' ids'

/-- What an operation leaves may be less, and identities may be used up. -/
theorem Advances.of_subset {r'' : Registry} {ids'' : IdSource} (h : r.Advances ids r' ids')
    (le : ids'.next ≤ ids''.next) (kept : r''.keptClasses ⊆ r'.keptClasses) :
    r.Advances ids r'' ids'' := by
  cases h with
  | same le' old => exact .same (Nat.le_trans le' le) (List.Subset.trans kept old)
  | one c id sound lt old =>
    exact .one c id sound (Nat.lt_of_lt_of_le lt le) fun d there => old d (kept there)

/-- All identities of kept classes have been given out. -/
theorem Advances.number_lt (h : r.Advances ids r' ids')
    (old : ∀ c ∈ r.keptClasses, c.id.number < ids.next) :
    ∀ c ∈ r'.keptClasses, c.id.number < ids'.next := by
  intro c there
  cases h with
  | same le kept => exact Nat.lt_of_lt_of_le (old c (kept there)) le
  | one new id sound lt kept =>
    rcases kept c there with there | rfl
    · exact Nat.lt_trans (old c there) lt
    · rw [id]
      exact lt

/-- What made a class whose declaration has succeeded: code that is built in, or a module. -/
inductive DeclaredBy (r : Registry) (w : World) (name : String) (ids : IdSource) :
    LoadedClass → Prop where
  /-- The code is built in, and the class is closed with the roles that come of it. -/
  | builtin {code : Code} {i : Interface} {c : SceneClass}
      (found : r.builtins.lookup name = some code)
      (run : (code.script w.scripts name).run (.new ids.fresh name) = (.declared i, c)) :
      DeclaredBy r w name ids ⟨(c.withInterface i).finalize, .builtin code⟩
  /-- The module was found and loaded, and has declared the class. -/
  | plugin {p q : Plugin} {i : Interface} {c : SceneClass} (foreign : r.builtins.lookup name = none)
      (acquired : Plugin.acquire w name r.dirs r.proxy = .ok p)
      (run : p.declare w.scripts (.new ids.fresh name) = (.ok i, c, q)) :
      DeclaredBy r w name ids ⟨c, .plugin q⟩

/-- **All that a declaration that succeeds can have done.** -/
theorem declaredBy_of_declareFresh {l : LoadedClass}
    (run : (r.declareFresh w name ids).1 = .ok l) : r.DeclaredBy w name ids l := by
  unfold declareFresh at run
  dsimp only at run
  split at run
  · rename_i found
    split at run
    · rename_i ended
      obtain rfl := Except.ok.inj run
      exact .builtin found ended
    · cases run
    · cases run
  · rename_i foreign
    split at run
    · cases run
    · rename_i acquired
      split at run
      · rename_i ended
        obtain rfl := Except.ok.inj run
        exact .plugin foreign acquired ended
      · cases run

/-- A declaration that succeeds gives what a new class has become. -/
theorem becomes_of_declareFresh {l : LoadedClass} (run : (r.declareFresh w name ids).1 = .ok l) :
    (SceneClass.new ids.fresh name).Becomes l.sceneClass := by
  cases declaredBy_of_declareFresh run with
  | @builtin code i c found ended =>
    have left := (code.script w.scripts name).becomes_run (.new ids.fresh name)
    rw [ended] at left
    exact (left.change (.roles i)).change .close
  | @plugin p q i c foreign acquired ended =>
    have left := p.becomes_declare w.scripts (.new ids.fresh name)
    rw [ended] at left
    exact left

/-- So the class is sound and new. -/
theorem sound_of_declareFresh {l : LoadedClass} (run : (r.declareFresh w name ids).1 = .ok l) :
    l.sceneClass.Sound ∧ l.sceneClass.id = ids.fresh := by
  have becomes := becomes_of_declareFresh run
  exact ⟨(SceneClass.sound_new _ _).becomes becomes, becomes.grows.id_eq⟩

/-- A registry that keeps a class which it has just declared. -/
theorem advances_keep {l : LoadedClass} (run : (r.declareFresh w name ids).1 = .ok l) :
    r.Advances ids (r.keep name l) ids.advance := by
  obtain ⟨sound, id⟩ := sound_of_declareFresh run
  exact .one l.sceneClass id sound (Nat.lt_succ_self _) fun d there => mem_keptClasses_keep there

/-- An operation that fails leaves the kept classes as they are, and may have used up an identity.
-/
theorem advances_failed (r : Registry) (ids : IdSource) : r.Advances ids r ids.advance :=
  .same (Nat.le_succ _) (List.Subset.refl _)

/-- Loading a class keeps the classes that were kept, and perhaps the one loaded. -/
theorem advances_load (r : Registry) (w : World) (name : String) (ids : IdSource) :
    r.Advances ids (r.load w name ids).2.1 (r.load w name ids).2.2 := by
  unfold load
  split
  · exact .same (Nat.le_refl _) (List.Subset.refl _)
  · rcases run : r.declareFresh w name ids with ⟨result, ids'⟩
    obtain rfl : ids' = ids.advance := (congrArg Prod.snd run).symm
    rcases result with e | l
    · exact r.advances_failed ids
    · exact advances_keep (congrArg Prod.fst run)

/-- A class that was loaded is kept. -/
theorem mem_keptClasses_of_load {l : LoadedClass}
    (run : r.load w name ids = (.ok l, r', ids')) : l.sceneClass ∈ r'.keptClasses := by
  unfold load at run
  split at run
  · rename_i kept
    obtain ⟨rfl, rfl, rfl⟩ : _ = l ∧ r = r' ∧ ids = ids' := by simpa using run
    exact mem_keptClasses_of_get? kept
  · split at run
    · obtain ⟨rfl, rfl, rfl⟩ : _ = l ∧ _ = r' ∧ _ = ids' := by simpa using run
      exact mem_keptClasses_of_get? (get?_keep_self r name _)
    · cases run

/-- Declaring a class again keeps the classes that were kept, and perhaps the one declared. -/
theorem advances_declare (r : Registry) (w : World) (name : String) (ids : IdSource) :
    r.Advances ids (r.declare w name ids).2.1 (r.declare w name ids).2.2 := by
  unfold declare
  rcases run : r.declareFresh w name ids with ⟨result, ids'⟩
  obtain rfl : ids' = ids.advance := (congrArg Prod.snd run).symm
  rcases result with e | l
  · exact r.advances_failed ids
  · dsimp only
    split
    · exact advances_keep (congrArg Prod.fst run)
    · split <;> exact r.advances_failed ids

/-- Keeping a class that is kept already adds none. -/
theorem keptClasses_keep_subset {l : LoadedClass} (kept : l.sceneClass ∈ r.keptClasses) :
    (r.keep name l).keptClasses ⊆ r.keptClasses := by
  intro c there
  rcases mem_keptClasses_keep there with old | rfl
  · exact old
  · exact kept

/-- Making an object keeps the classes that were kept, and perhaps the one loaded for it. -/
theorem advances_create (r : Registry) (w : World) (name object : String) (ids : IdSource) :
    r.Advances ids (r.create w name object ids).2.1 (r.create w name object ids).2.2 := by
  have loaded := r.advances_load w name ids
  unfold create
  rcases run : r.load w name ids with ⟨e | l, r', ids'⟩
  · rwa [run] at loaded
  · rw [run] at loaded
    refine loaded.of_subset (l.makes_create w.scripts object ids').next_le ?_
    refine keptClasses_keep_subset ?_
    rw [l.sceneClass_create w.scripts object ids']
    exact mem_keptClasses_of_load run

/-- **An object that a registry makes is a new object of a class that it keeps.** -/
theorem new_of_create (old : ∀ c ∈ r.keptClasses, c.id.number < ids.next) {o : OwnedObject}
    (made : (r.create w name object ids).1 = .ok o) :
    ∃ c ∈ (r.create w name object ids).2.1.keptClasses, ∃ n, o.object = .new c n := by
  have loaded := r.advances_load w name ids
  unfold create at made ⊢
  rcases run : r.load w name ids with ⟨e | l, r', ids'⟩
  · rw [run] at made
    cases made
  · rw [run] at made loaded
    have known := loaded.number_lt old _ (mem_keptClasses_of_load run)
    refine ⟨l.sceneClass, ?_, ?_⟩
    · rw [← l.sceneClass_create w.scripts object ids']
      exact mem_keptClasses_of_get? (get?_keep_self r' name _)
    · refine (l.makes_create w.scripts object ids').new o.object ?_ ?_
      · exact congrArg (Except.map OwnedObject.object) made
      · intro same
        rw [same] at known
        exact Nat.lt_irrefl _ known

end Registry

end SceneSchema
