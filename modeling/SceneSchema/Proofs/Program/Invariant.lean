import SceneSchema.Proofs.Program.Basic

/-!
# What holds in every state of a program

`Program.Sound` is the invariant of programs: classes are told apart by their identities, the tables
of each class agree, every issued key keeps its promise to every class, and objects and registries
have classes that the program has seen, objects with values of the declared types.

* `Program.Advances` — a later state is sound, has all classes of the earlier one, grown, and all
  keys. Each way in which operations change the state comes first, with a lemma that says so.
* `Sound.perform`, `Sound.run` — so does one operation, and so do many, one after the other.
* `sound_run` — **every state of a program is sound**.
-/

namespace SceneSchema

namespace Program

/-- The state of a program makes sense. -/
structure Sound (p : Program) : Prop where
  /-- The identities of all classes have been given out, -/
  numbered : ∀ c ∈ p.classes, c.id.number < p.ids.next
  /-- and each to one class. -/
  unique : ∀ c ∈ p.classes, ∀ d ∈ p.classes, c.id = d.id → c = d
  /-- Every class is sound. -/
  classes : ∀ c ∈ p.classes, c.Sound
  /-- Every key is from a class that was made, and keeps its promise to the class if it is seen.
  -/
  keys : ∀ k ∈ p.keys, k.key.owner.number < p.ids.next ∧ ∀ c ∈ p.classes, c.Vouches k.key
  /-- Every object is well typed, and its class is seen. -/
  objects : ∀ o ∈ p.objects, o.sceneClass ∈ p.classes ∧ o.WellTyped
  /-- The classes that registries keep are seen. -/
  registries : ∀ r ∈ p.registries, ∀ c ∈ r.keptClasses, c ∈ p.classes

/-- A later state is sound, and has what the earlier one had: the classes, grown, and the keys. -/
structure Advances (p p' : Program) : Prop where
  /-- The later state is sound, -/
  sound : p'.Sound
  /-- each class is there, as it has grown, -/
  classes : ∀ c ∈ p.classes, ∃ c' ∈ p'.classes, c.Grows c'
  /-- and so is each key. -/
  keys : p.keys ⊆ p'.keys

variable {p p' p'' : Program} {c c' : SceneClass} {ids : IdSource}

/-- A sound state that has the classes and keys of an earlier one goes on from it. -/
theorem Sound.advances (h : p'.Sound) (classes : p.classes ⊆ p'.classes)
    (keys : p.keys ⊆ p'.keys) : p.Advances p' :=
  ⟨h, fun c there => ⟨c, classes there, .refl c⟩, keys⟩

/-- A sound state goes on from itself. -/
theorem Sound.stays (h : p.Sound) : p.Advances p :=
  h.advances (List.Subset.refl _) (List.Subset.refl _)

/-- What goes on from a state that goes on from another goes on from the first. -/
theorem Advances.trans (h : p.Advances p') (h' : p'.Advances p'') : p.Advances p'' where
  sound := h'.sound
  classes c there := by
    obtain ⟨d, there', grows⟩ := h.classes c there
    obtain ⟨e, there'', grows'⟩ := h'.classes d there'
    exact ⟨e, there'', grows.trans grows'⟩
  keys := List.Subset.trans h.keys h'.keys

/-! ### Ways to change the state -/

/-- Identities may be used up, and a class be added that has the next one. -/
theorem Sound.adopt (h : p.Sound) (le : p.ids.next ≤ ids.next) {news : List SceneClass}
    (new : ∀ d ∈ news, d.Sound ∧ d.id = p.ids.fresh ∧ p.ids.next < ids.next)
    (only : ∀ d ∈ news, ∀ e ∈ news, d = e) :
    p.Advances { p with ids, classes := p.classes ++ news } := by
  -- neither a class nor a key that was there has the identity
  have old : ∀ d ∈ news, ∀ id : ClassId, id.number < p.ids.next → id ≠ d.id := by
    rintro d there id lt rfl
    rw [(new d there).2.1] at lt
    exact Nat.lt_irrefl _ lt
  refine Sound.advances ⟨?_, ?_, ?_, ?_, ?_, ?_⟩ (List.subset_append_left _ _)
    (List.Subset.refl _)
  · intro d there
    rcases List.mem_append.1 there with there | there
    · exact Nat.lt_of_lt_of_le (h.numbered d there) le
    · obtain ⟨-, id, lt⟩ := new d there
      rw [id]
      exact lt
  · intro d there e there' same
    rcases List.mem_append.1 there with there | there
    · rcases List.mem_append.1 there' with there' | there'
      · exact h.unique d there e there' same
      · exact absurd same (old e there' _ (h.numbered d there))
    · rcases List.mem_append.1 there' with there' | there'
      · exact absurd same.symm (old d there _ (h.numbered e there'))
      · exact only d there e there'
  · intro d there
    rcases List.mem_append.1 there with there | there
    · exact h.classes d there
    · exact (new d there).1
  · intro k there
    obtain ⟨lt, vouched⟩ := h.keys k there
    refine ⟨Nat.lt_of_lt_of_le lt le, fun d there' => ?_⟩
    rcases List.mem_append.1 there' with there' | there'
    · exact vouched d there'
    · exact fun own => absurd own (old d there' _ lt)
  · exact fun o there => ⟨List.mem_append_left _ (h.objects o there).1, (h.objects o there).2⟩
  · exact fun r there c kept => List.mem_append_left _ (h.registries r there c kept)

/-- Identities may be used up for nothing. -/
theorem Sound.withIds (h : p.Sound) (le : p.ids.next ≤ ids.next) :
    p.Advances { p with ids } := by
  have none : p.Advances { p with ids, classes := p.classes ++ [] } :=
    h.adopt le (by simp) (by simp)
  rwa [List.append_nil] at none

/-- The objects may be others if they are well typed and of classes that are seen. -/
theorem Sound.withObjects (h : p.Sound) {objects : List SceneObject}
    (typed : ∀ o ∈ objects, o.sceneClass ∈ p.classes ∧ o.WellTyped) :
    p.Advances { p with objects } :=
  Sound.advances ⟨h.numbered, h.unique, h.classes, h.keys, typed, h.registries⟩
    (List.Subset.refl _) (List.Subset.refl _)

/-- The registries may be others if the classes that they keep are seen. -/
theorem Sound.withRegistries (h : p.Sound) {registries : List Registry}
    (kept : ∀ r ∈ registries, ∀ c ∈ r.keptClasses, c ∈ p.classes) :
    p.Advances { p with registries } :=
  Sound.advances ⟨h.numbered, h.unique, h.classes, h.keys, h.objects, kept⟩
    (List.Subset.refl _) (List.Subset.refl _)

/-- Classes issue keys that keep their promise. -/
theorem Sound.issue (h : p.Sound) {keys : List AnyKey}
    (issued : ∀ k ∈ keys, ∃ c ∈ p.classes, c.Issued k.key) : p.Advances (p.issue keys) := by
  refine Sound.advances ⟨h.numbered, h.unique, h.classes, ?_, h.objects, h.registries⟩
    (List.Subset.refl _) (List.subset_append_right _ _)
  intro k there
  rcases List.mem_append.1 there with there | there
  · obtain ⟨c, seen, own, type⟩ := issued k there
    refine ⟨?_, fun d seen' own' => ?_⟩
    · rw [own]
      exact h.numbered c seen
    · obtain rfl := h.unique c seen d seen' (own.symm.trans own')
      exact type
  · exact h.keys k there

/-- A class that nothing shares may become another. -/
theorem Sound.update (h : p.Sound) {id : ClassId} (own : p.own? id = some c)
    (becomes : c.Becomes c') : p.Advances (p.update c') ∧ c' ∈ (p.update c').classes := by
  obtain ⟨there, -, noObject, noRegistry⟩ := own?_eq_some own
  have grows := becomes.grows
  have here : c' ∈ (p.update c').classes :=
    mem_classes_update.2 (.inl ⟨rfl, c, there, grows.id_eq.symm⟩)
  have stays : ∀ d ∈ p.classes, d.id ≠ c.id → d ∈ (p.update c').classes := fun d seen other =>
    mem_classes_update.2 (.inr ⟨seen, grows.id_eq ▸ other⟩)
  refine ⟨⟨⟨?_, ?_, ?_, ?_, ?_, ?_⟩, ?_, List.Subset.refl _⟩, here⟩
  · intro d seen
    rcases mem_classes_update.1 seen with ⟨rfl, -⟩ | ⟨seen, -⟩
    · rw [grows.id_eq]
      exact h.numbered c there
    · exact h.numbered d seen
  · intro d seen e seen' same
    rcases mem_classes_update.1 seen with ⟨rfl, -⟩ | ⟨seen, other⟩
    · rcases mem_classes_update.1 seen' with ⟨rfl, -⟩ | ⟨-, other'⟩
      · rfl
      · exact absurd same.symm other'
    · rcases mem_classes_update.1 seen' with ⟨rfl, -⟩ | ⟨seen', -⟩
      · exact absurd same other
      · exact h.unique d seen e seen' same
  · intro d seen
    rcases mem_classes_update.1 seen with ⟨rfl, -⟩ | ⟨seen, -⟩
    · exact (h.classes c there).becomes becomes
    · exact h.classes d seen
  · intro k issued
    obtain ⟨lt, vouched⟩ := h.keys k issued
    refine ⟨lt, fun d seen => ?_⟩
    rcases mem_classes_update.1 seen with ⟨rfl, -⟩ | ⟨seen, -⟩
    · exact grows.vouches (vouched c there)
    · exact vouched d seen
  · exact fun o held => ⟨stays _ (h.objects o held).1 (noObject o held), (h.objects o held).2⟩
  · exact fun r held d kept => stays d (h.registries r held d kept) (noRegistry r held d kept)
  · intro d seen
    by_cases same : d.id = c.id
    · obtain rfl := h.unique d seen c there same
      exact ⟨c', here, grows⟩
    · exact ⟨d, stays d seen same, .refl d⟩

/-- Whatever is given, the next state is sound. -/
theorem Sound.given (h : p.Sound) {α : Type} {x : Option α} {next : α → Program}
    (each : ∀ a, x = some a → p.Advances (next a)) : p.Advances (p.given x next) := by
  rcases x with _ | a
  · exact h.stays
  · exact each a rfl

/-- What is left of a result without its failure is the result. -/
theorem eq_ok_of_toOption {ε α : Type} {x : Except ε α} {a : α} (some : x.toOption = some a) :
    x = .ok a := by
  rcases x with e | b
  · cases some
  · cases some
    rfl

/-- One more object may be held if it is well typed and of a class that is seen. -/
theorem Sound.hold (h : p.Sound) {o : SceneObject} (seen : o.sceneClass ∈ p.classes)
    (typed : o.WellTyped) : p.Advances (p.hold o) := by
  refine h.withObjects fun o' held => ?_
  rcases List.mem_append.1 held with held | made
  · exact h.objects o' held
  · obtain rfl := List.mem_singleton.1 made
    exact ⟨seen, typed⟩

/-- A registry may become another, which may keep a class that it has just made. -/
theorem Sound.putRegistry (h : p.Sound) {place : Nat} {r r' : Registry}
    (there : p.registries[place]? = some r) (advances : r.Advances p.ids r' ids) :
    p.Advances (p.putRegistry place r' ids) := by
  have seen : ∀ c ∈ r.keptClasses, c ∈ p.classes := h.registries r (List.mem_of_getElem? there)
  have adopted : p.Advances { p with ids, classes := p.classesWith r' } := by
    rw [classesWith]
    cases advances with
    | same le kept =>
      have none : r'.keptClasses.filter (· ∉ p.classes) = [] := by
        simpa using fun c there => seen c (kept there)
      rw [none, List.append_nil]
      exact h.withIds le
    | one c id sound lt kept =>
      have new : ∀ d ∈ r'.keptClasses.filter (· ∉ p.classes), d = c := by
        intro d there
        obtain ⟨kept', unseen⟩ := List.mem_filter.1 there
        refine (kept d kept').resolve_left fun old => ?_
        exact absurd (seen d old) (by simpa using unseen)
      refine h.adopt (Nat.le_of_lt lt) (fun d there => ?_) fun d there e there' => ?_
      · rw [new d there]
        exact ⟨sound, id, lt⟩
      · rw [new d there, new e there']
  refine adopted.trans (adopted.sound.withRegistries fun q held c kept => ?_)
  rcases List.mem_or_eq_of_mem_set held with held | rfl
  · exact List.mem_append_left _ (h.registries q held c kept)
  · exact mem_classesWith kept

/-! ### Steps and runs -/

/-- **One operation leads from a sound state to a sound state.** -/
theorem Sound.perform (h : p.Sound) (op : Operation) : p.Advances (p.perform op) := by
  have vouched : ∀ c ∈ p.classes, ∀ k ∈ p.keys, c.Vouches k.key := fun c seen k there =>
    (h.keys k there).2 c seen
  cases op with
  | newClass name =>
    refine h.adopt (Nat.le_succ _) (fun d there => ?_) fun d there e there' => ?_
    · obtain rfl := List.mem_singleton.1 there
      exact ⟨SceneClass.sound_new _ _, rfl, Nat.lt_succ_self _⟩
    · rw [List.mem_singleton.1 there, List.mem_singleton.1 there']
  | edit id e =>
    refine h.given fun c own => ?_
    split
    · rename_i among
      refine h.given fun c' run => ?_
      have run := eq_ok_of_toOption run
      have honest := Edit.honest_of_keyAmong (vouched c (own?_eq_some own).1) among
      obtain ⟨updated, here⟩ := h.update own (SceneClass.becomes_of_edit honest run)
      refine updated.trans (updated.sound.issue fun k there => ?_)
      exact ⟨c', here, Edit.issued_of_edit run k there⟩
    · exact h.stays
  | ask id name t =>
    refine h.given fun c found => h.given fun k asked => h.issue fun k' there => ?_
    obtain rfl := List.mem_singleton.1 there
    have seen := (class?_eq_some found).1
    exact ⟨c, seen, (h.classes c seen).issued_of_key (eq_ok_of_toOption asked)⟩
  | newObject id name =>
    refine h.given fun c found => ?_
    have seen := (class?_eq_some found).1
    exact h.hold seen (SceneObject.wellTyped_new (h.classes c seen).typed name)
  | copyObject place =>
    refine h.given fun o there => ?_
    obtain ⟨seen, typed⟩ := h.objects o (List.mem_of_getElem? there)
    exact h.hold seen typed
  | dropObject place =>
    exact h.withObjects fun o held => h.objects o (List.mem_of_mem_eraseIdx held)
  | call place k =>
    refine h.given fun o there => ?_
    obtain ⟨seen, typed⟩ := h.objects o (List.mem_of_getElem? there)
    split
    · rename_i among
      refine h.withObjects fun o' held => ?_
      rcases List.mem_or_eq_of_mem_set held with held | rfl
      · exact h.objects o' held
      · rw [o.sceneClass_afterwards k]
        exact ⟨seen, typed.afterwards (Call.honest_of_keyAmong (vouched _ seen) among)⟩
    · exact h.stays
  | declareBy id plugin scripts =>
    exact h.given fun c own => (h.update own (plugin.becomes_declare scripts c)).1
  | createBy id plugin scripts name =>
    refine h.given fun c found => ?_
    have seen := (class?_eq_some found).1
    have makes := plugin.makes_create scripts c name p.ids
    have passed := h.withIds makes.next_le
    refine passed.trans (passed.sound.given fun o made => ?_)
    have old := ClassId.ne_fresh (h.numbered c seen)
    obtain ⟨n, rfl⟩ := makes.new o (eq_ok_of_toOption made) old
    exact passed.sound.hold seen (SceneObject.wellTyped_new (h.classes c seen).typed n)
  | newRegistry dirs proxy =>
    refine h.withRegistries fun r held c kept => ?_
    rcases List.mem_append.1 held with held | new
    · exact h.registries r held c kept
    · obtain rfl := List.mem_singleton.1 new
      exact absurd kept List.not_mem_nil
  | dropRegistry place =>
    exact h.withRegistries fun r held => h.registries r (List.mem_of_mem_eraseIdx held)
  | addBuiltin place name code =>
    refine h.given fun r there => ?_
    exact h.putRegistry there (.same (Nat.le_refl _) (List.Subset.refl _))
  | load place w name =>
    exact h.given fun r there => h.putRegistry there (r.advances_load w name p.ids)
  | declareIn place w name =>
    exact h.given fun r there => h.putRegistry there (r.advances_declare w name p.ids)
  | createIn place w name object =>
    refine h.given fun r there => ?_
    have put := h.putRegistry there (r.advances_create w name object p.ids)
    refine put.trans (put.sound.given fun owned made => ?_)
    have numbered : ∀ c ∈ r.keptClasses, c.id.number < p.ids.next := fun c kept =>
      h.numbered c (h.registries r (List.mem_of_getElem? there) c kept)
    obtain ⟨c, kept, n, new⟩ := Registry.new_of_create numbered (eq_ok_of_toOption made)
    rw [new]
    have seen := mem_classesWith (p := p) kept
    exact put.sound.hold seen (SceneObject.wellTyped_new (put.sound.classes c seen).typed n)

/-- Many operations lead from a sound state to a sound state. -/
theorem Sound.run (h : p.Sound) (ops : List Operation) : p.Advances (p.run ops) := by
  induction ops generalizing p with
  | nil => exact h.stays
  | cons op rest ih =>
    have step := h.perform op
    exact step.trans (ih step.sound)

/-- A program starts with nothing. -/
theorem sound_empty : ({} : Program).Sound := by
  constructor <;> simp

/-- **Every state of a program is sound.** -/
theorem sound_run (ops : List Operation) : (run {} ops).Sound := (sound_empty.run ops).sound

end Program

end SceneSchema
