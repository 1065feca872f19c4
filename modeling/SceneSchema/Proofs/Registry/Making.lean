import SceneSchema.Proofs.Registry.KeptClasses

/-!
# What comes of making an object

Whether an object is made by a module or by built-in code, it is made by the code of its class, and
it counts only if it is one of the very class that was asked for. `maker?` says which code that is,
if it comes to running any: a module may be loaded for its declaration only, it may lack an entry
point, and it cannot be handed every name. `verdict` says what comes of what the code of a module
makes, and `LoadedClass.verdict` what comes of what the code of a loaded class makes, which may also
be built in.

* `Plugin.create_of_maker`, `LoadedClass.create_of_maker` — **what comes of making an object is the
  verdict on what the code makes**. If that is an object of another class, or if the code of a
  module makes none, the call fails with `Error.createFailed`. If code that is built in makes none,
  it has broken down, and the call does not return (`LoadedClass.verdict_of_unwound`).
* `Plugin.create_of_no_maker`, `LoadedClass.create_of_no_maker` — where no code is run, making an
  object fails, and no identity is used up.
* `Plugin.Serves` — a module stays what it was loaded for, and a module that was loaded for its
  declaration only is asked for nothing else.
-/

namespace SceneSchema

variable {scripts : Scripts} {c : SceneClass} {name : String} {ids : IdSource} {how : Creation}

/-! ### The verdict -/

/-- What comes of what was made for a class: an object of this very class, or a failure. -/
def verdict (c : SceneClass) (failed : Error) : Option SceneObject → Except Error SceneObject
  | some o => if o.sceneClass = c then .ok o else .error failed
  | none => .error failed

/-- Anything but an object of the class is a failure. -/
theorem verdict_of_foreign {failed : Error} {made : Option SceneObject}
    (foreign : ∀ o, made = some o → o.sceneClass ≠ c) : verdict c failed made = .error failed := by
  rcases made with _ | o
  · rfl
  · exact if_neg (foreign o rfl)

/-- The identity alone tells whether what is made is of the class, as long as the class is older
than what the code makes besides. -/
theorem Creation.sceneClass_eq_iff (old : c.id ≠ ids.fresh) {o : SceneObject}
    (made : (how.run c name ids).1 = some o) : o.sceneClass.id = c.id ↔ o.sceneClass = c := by
  cases how with
  | plain | renamed =>
    obtain rfl := Option.some.inj made
    exact iff_of_true rfl rfl
  | foreign =>
    obtain rfl := Option.some.inj made
    exact iff_of_false old.symm fun same => old (congrArg SceneClass.id same).symm
  | panic => cases made

/-! ### Objects made by a module -/

namespace Plugin

/-- The module once the entry points for making objects have been looked up. -/
def ready (p : Plugin) : Plugin := ((p.resolve .create).2.resolve .destroy).2

/-- Looking up an entry point changes only what the module knows of its library. -/
theorem resolve_keeps (p : Plugin) (entry : EntryPoint) :
    (p.resolve entry).2.className = p.className ∧ (p.resolve entry).2.path = p.path := by
  unfold resolve
  split <;> exact ⟨rfl, rfl⟩

/-- A module that is ready is still that of its class. -/
theorem className_ready (p : Plugin) : p.ready.className = p.className :=
  (resolve_keeps _ .destroy).1.trans (p.resolve_keeps .create).1

/-- It is still that of its file. -/
theorem path_ready (p : Plugin) : p.ready.path = p.path :=
  (resolve_keeps _ .destroy).2.trans (p.resolve_keeps .create).2

/-- The code that makes an object when the module is asked for one, if it comes to that. -/
def maker? (p : Plugin) (scripts : Scripts) (c : SceneClass) (name : String) : Option Creation :=
  if p.proxy then none
  else
    match p.resolve .create with
    | (.error _, _) => none
    | (.ok code, p) =>
        match p.resolve .destroy with
        | (.error _, _) => none
        | (.ok _, _) =>
            if name.toList.contains '\x00' then none
            else some (code.script scripts c.name).creation

/-- Where code is run, all that comes before it has succeeded. -/
theorem create_eq_of_maker (p : Plugin) (made : p.maker? scripts c name = some how) :
    p.create scripts c name ids =
      match how.run c name ids with
      | (none, ids) => (.error (.createFailed p.ready.className name), p.ready.running .create, ids)
      | (some o, ids) =>
          if o.sceneClass.id = c.id then (.ok o, p.ready.running .create, ids)
          else (.error (.createFailed p.ready.className name),
            (p.ready.running .create).running .destroy, ids) := by
  unfold maker? at made
  rw [create_eq]
  unfold ready
  split at made
  · cases made
  rename_i makes
  rw [if_neg makes]
  generalize p.resolve .create = created at made ⊢
  rcases created with ⟨_ | code, p₁⟩
  · cases made
  dsimp only at made ⊢
  generalize p₁.resolve .destroy = destroyed at made ⊢
  rcases destroyed with ⟨_ | _, p₂⟩
  · cases made
  dsimp only at made ⊢
  split at made
  · cases made
  rename_i handed
  rw [if_neg handed]
  obtain rfl := Option.some.inj made
  rcases (code.script scripts c.name).creation.run c name ids with ⟨_ | o, ids'⟩ <;> rfl

/-- **What comes of an object made by a module is the verdict on it.** -/
theorem create_of_maker (p : Plugin) (old : c.id ≠ ids.fresh)
    (made : p.maker? scripts c name = some how) :
    (p.create scripts c name ids).1 =
        verdict c (.createFailed p.className name) (how.run c name ids).1 ∧
      (p.create scripts c name ids).2.1.path = p.path ∧
      (p.create scripts c name ids).2.2 = (how.run c name ids).2 := by
  rw [p.create_eq_of_maker made, p.className_ready]
  rcases run : how.run c name ids with ⟨_ | o, ids'⟩
  · exact ⟨rfl, p.path_ready, rfl⟩
  · have own := Creation.sceneClass_eq_iff old (congrArg Prod.fst run)
    dsimp only [verdict]
    by_cases same : o.sceneClass = c
    · rw [if_pos (own.2 same), if_pos same]
      exact ⟨rfl, p.path_ready, rfl⟩
    · rw [if_neg (mt own.1 same), if_neg same]
      exact ⟨rfl, p.path_ready, rfl⟩

/-- Where no code is run, there is no object, and nothing else is made. -/
theorem create_of_no_maker (p : Plugin) (ids : IdSource)
    (none : p.maker? scripts c name = none) :
    ∃ e q, p.create scripts c name ids = (.error e, q, ids) := by
  unfold maker? at none
  rw [create_eq]
  split at none
  · rename_i proxy
    exact ⟨_, _, if_pos proxy⟩
  rename_i makes
  rw [if_neg makes]
  generalize p.resolve .create = created at none ⊢
  rcases created with ⟨e | code, p₁⟩
  · exact ⟨_, _, rfl⟩
  dsimp only at none ⊢
  generalize p₁.resolve .destroy = destroyed at none ⊢
  rcases destroyed with ⟨e | code', p₂⟩
  · exact ⟨_, _, rfl⟩
  dsimp only at none ⊢
  split at none
  · rename_i nul
    exact ⟨_, _, if_pos nul⟩
  · cases none

/-! ### What a module is loaded for -/

/-- The module was loaded for a class, perhaps for its declaration only; in that case it has been
asked for nothing else. -/
structure Serves (p : Plugin) (className : String) (proxy : Bool) : Prop where
  /-- The module is that of the class, -/
  className_eq : p.className = className
  /-- in this mode. -/
  proxy_eq : p.proxy = proxy
  /-- If it is there for its declaration only, it was asked for nothing else. -/
  journal : proxy = true → ∀ contact ∈ p.journal,
    contact = .lookedUp .declare ∨ contact = .ran .declare

variable {p : Plugin} {className : String} {proxy : Bool}

/-- A module that was opened for a class serves it. -/
theorem serves_of_acquire {w : World} {dirs : List String}
    (acquired : acquire w className dirs proxy = .ok p) : p.Serves className proxy := by
  obtain ⟨path, l, rfl⟩ := opened_of_acquire acquired
  exact ⟨rfl, rfl, fun _ _ none => absurd none List.not_mem_nil⟩

/-- To look up an entry point that is allowed leaves a module serving its class. -/
theorem Serves.resolve (h : p.Serves className proxy) (entry : EntryPoint)
    (allowed : proxy = true → entry = .declare) :
    (p.resolve entry).2.Serves className proxy := by
  unfold Plugin.resolve
  split
  · exact h
  · refine ⟨h.className_eq, h.proxy_eq, fun only contact there => ?_⟩
    dsimp only at there
    split at there
    · rcases List.mem_cons.1 there with rfl | there
      · exact .inl (congrArg Contact.lookedUp (allowed only))
      · exact h.journal only contact there
    · exact h.journal only contact there

/-- So does running it. -/
theorem Serves.running (h : p.Serves className proxy) (entry : EntryPoint)
    (allowed : proxy = true → entry = .declare) : (p.running entry).Serves className proxy := by
  refine ⟨h.className_eq, h.proxy_eq, fun only contact there => ?_⟩
  rcases List.mem_cons.1 there with rfl | there
  · exact .inr (congrArg Contact.ran (allowed only))
  · exact h.journal only contact there

/-- So does a declaration. -/
theorem Serves.declare (h : p.Serves className proxy) (scripts : Scripts) (c : SceneClass) :
    (p.declare scripts c).2.2.Serves className proxy := by
  have resolved := h.resolve .declare fun _ => rfl
  unfold Plugin.declare
  generalize p.resolve .declare = declared at resolved ⊢
  rcases declared with ⟨_ | code, q⟩
  · exact resolved
  · have ran := Serves.running resolved .declare fun _ => rfl
    dsimp only
    split <;> exact ran

/-- A module that was loaded for its declaration only is left alone, whatever object is asked of it.
-/
theorem Serves.create (h : p.Serves className proxy) (scripts : Scripts) (c : SceneClass)
    (name : String) (ids : IdSource) :
    (p.create scripts c name ids).2.1.Serves className proxy := by
  by_cases only : p.proxy = true
  · rw [create_of_proxy only]
    exact h
  have allowed (entry : EntryPoint) : proxy = true → entry = .declare := fun is =>
    absurd (h.proxy_eq.trans is) only
  have first := h.resolve .create (allowed .create)
  rw [create_eq, if_neg only]
  generalize p.resolve .create = created at first ⊢
  rcases created with ⟨_ | code, p₁⟩
  · exact first
  have second := Serves.resolve first .destroy (allowed .destroy)
  dsimp only
  generalize p₁.resolve .destroy = destroyed at second ⊢
  rcases destroyed with ⟨_ | code', p₂⟩
  · exact second
  have ran := Serves.running second .create (allowed .create)
  dsimp only
  split
  · exact second
  split
  · exact ran
  · split
    · exact ran
    · exact ran.running .destroy (allowed .destroy)

end Plugin

/-! ### Objects of a loaded class -/

namespace LoadedClass

/-- What comes of what the code of the class has made: an object of this very class, or a failure.
If code that is built in has made none, then it has broken down. -/
def verdict (l : LoadedClass) (failed : Error) : Option SceneObject → Except Failure SceneObject
  | some o => if o.sceneClass = l.sceneClass then .ok o else .error (.returned failed)
  | none => .error (if l.isBuiltin then .unwound else .returned failed)

/-- The code that makes an object of the class, if it comes to running any. -/
def maker? (l : LoadedClass) (scripts : Scripts) (name : String) : Option Creation :=
  match l.source with
  | .plugin p => p.maker? scripts l.sceneClass name
  | .builtin code => some (code.script scripts l.sceneClass.name).creation

variable {l : LoadedClass}

/-- An object of the class passes. -/
theorem verdict_of_own {failed : Error} {made : Option SceneObject} {o : SceneObject}
    (some_made : made = some o) (own : o.sceneClass = l.sceneClass) :
    l.verdict failed made = .ok o := by
  rw [some_made]
  exact if_pos own

/-- An object of another class is an error of the call. -/
theorem verdict_of_other {failed : Error} {made : Option SceneObject} {o : SceneObject}
    (some_made : made = some o) (other : o.sceneClass ≠ l.sceneClass) :
    l.verdict failed made = .error (.returned failed) := by
  rw [some_made]
  exact if_neg other

/-- And so it is if the code of a module makes none. -/
theorem verdict_of_module {failed : Error} {made : Option SceneObject} (none_made : made = none)
    (fromModule : l.isBuiltin = false) : l.verdict failed made = .error (.returned failed) := by
  rw [none_made, verdict, fromModule]
  rfl

/-- Code that is built in and makes no object has broken down. -/
theorem verdict_of_unwound {failed : Error} {made : Option SceneObject} (none_made : made = none)
    (builtin : l.isBuiltin = true) : l.verdict failed made = .error .unwound := by
  rw [none_made, verdict, builtin]
  rfl

/-- The verdict on what a module has made is that of the module. -/
theorem verdict_of_plugin {p : Plugin} {c : SceneClass} (failed : Error)
    (made : Option SceneObject) : (LoadedClass.mk c (.plugin p)).verdict failed made =
      (SceneSchema.verdict c failed made).mapError .returned := by
  rcases made with _ | o
  · rfl
  · by_cases own : o.sceneClass = c
    · rw [verdict_of_own rfl own, SceneSchema.verdict, if_pos own]
      rfl
    · rw [SceneSchema.verdict, if_neg own]
      exact if_neg own

/-- **What comes of an object of a loaded class is the verdict on it**, wherever the class is from.
-/
theorem create_of_maker (named : ∀ p, l.source = .plugin p → p.className = l.sceneClass.name)
    (old : l.sceneClass.id ≠ ids.fresh) (made : l.maker? scripts name = some how) :
    (l.create scripts name ids).1 =
        (l.verdict (.createFailed l.sceneClass.name name)
          (how.run l.sceneClass name ids).1).map (⟨·, l.modulePath?⟩) ∧
      (l.create scripts name ids).2.2 = (how.run l.sceneClass name ids).2 := by
  obtain ⟨c, _ | code⟩ := l
  · rename_i p
    have comes := p.create_of_maker old made
    rw [named p rfl] at comes
    simp only [create, modulePath?, verdict_of_plugin]
    generalize p.create scripts c name ids = created at comes ⊢
    obtain ⟨result, q, ids'⟩ := created
    obtain ⟨rfl, path, rfl⟩ := comes
    dsimp only at path ⊢
    rcases SceneSchema.verdict c (.createFailed c.name name) (how.run c name ids).1 with _ | o
    · exact ⟨rfl, rfl⟩
    · simp only [path, Except.map, Except.mapError, and_self]
  · obtain rfl := Option.some.inj made
    simp only [create, modulePath?]
    rcases run : (code.script scripts c.name).creation.run c name ids with ⟨_ | o, ids'⟩
    · exact ⟨rfl, rfl⟩
    · have own := Creation.sceneClass_eq_iff old (congrArg Prod.fst run)
      dsimp only
      by_cases same : o.sceneClass = c
      · rw [if_pos (own.2 same), verdict_of_own rfl same]
        exact ⟨rfl, rfl⟩
      · rw [if_neg (mt own.1 same), verdict, if_neg same]
        exact ⟨rfl, rfl⟩

/-- Where no code is run, there is no object, and nothing else is made. -/
theorem create_of_no_maker (ids : IdSource) (none : l.maker? scripts name = none) :
    ∃ e l', l.create scripts name ids = (.error (.returned e), l', ids) := by
  obtain ⟨c, _ | code⟩ := l
  · rename_i p
    obtain ⟨e, q, failed⟩ := p.create_of_no_maker ids none
    simp only [create, failed]
    exact ⟨_, _, rfl⟩
  · cases none

end LoadedClass

end SceneSchema
