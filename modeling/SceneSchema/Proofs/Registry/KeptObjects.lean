import SceneSchema.Proofs.Object.Keys
import SceneSchema.Proofs.Registry.Lasting

/-!
# Objects of a kept class

An object that a registry makes is one of the class that the registry keeps, not just of a class of
that name. So all keys that callers have been given, or will be, fit the object.

* `Session.target?` — the loaded class that a turn makes an object of, once that is loaded.
* `Session.target_spec`, `Session.target_of_made` — what the turn gives is what making an object of
  this class gives, and the class is kept.
* `LoadedClass.Fits.new_of_create` — an object that is made is a new one of the loaded class.

**Main statement** (`Session.objects_of_kept_class`): objects have the class that is kept; where
code makes anything else, the call fails, or does not return if the code is built in and has broken
down, and no class is changed; and where modules are loaded for their declaration only, they make
nothing and are asked for nothing. -/

namespace SceneSchema

/-- The object takes all keys that the class issues, and goes on to do so after any calls. -/
def SceneObject.TakesKeysOf (o : SceneObject) (c : SceneClass) : Prop :=
  ∀ (n : String) (t : ValueType) (k : Key t), c.key n t = .ok k →
    ∀ calls : List Call, (∀ call ∈ calls, call.Honest o.sceneClass) → (o.afterAll calls).Accepts k

/-- A new object takes the keys of its class. -/
theorem SceneClass.Sound.takesKeys_new {c : SceneClass} (h : c.Sound) (name : String) :
    (SceneObject.new c name).TakesKeysOf c := fun _ _ _ asked _ honest =>
  (SceneObject.wellTyped_new h.typed name).accepts_afterAll (h.issued_of_key asked) honest

/-! ### What a turn makes an object of -/

/-- The turn asks for an object of the class of a name. -/
def Turn.MakesOf (t : Turn) (name object : String) : Prop :=
  t.request = .create name object ∨ t.request = .make name object

variable {l : LoadedClass} {name object : String} {scripts : Scripts} {proxy : Bool}
  {ids : IdSource}

/-- The identity of a class that is kept is not given out again. -/
theorem LoadedClass.Fits.id_ne_fresh (h : l.Fits name proxy ids) : l.sceneClass.id ≠ ids.fresh :=
  ClassId.ne_fresh h.number_lt

/-- An object that is made is a new one of the loaded class. -/
theorem LoadedClass.Fits.new_of_create (h : l.Fits name proxy ids) {o : OwnedObject}
    (made : (l.create scripts object ids).1 = .ok o) : ∃ n, o.object = .new l.sceneClass n := by
  refine (l.makes_create scripts object ids).new o.object ?_ h.id_ne_fresh
  exact congrArg (Except.map OwnedObject.object) made

/-- If code of the class is run, what comes of it is the verdict on what it makes. -/
theorem LoadedClass.Fits.create_of_maker (h : l.Fits name proxy ids) {how : Creation}
    (runs : l.maker? scripts object = some how) :
    (l.create scripts object ids).1 =
      (l.verdict (.createFailed name object) (how.run l.sceneClass object ids).1).map
        (⟨·, l.modulePath?⟩) := by
  have named : ∀ p, l.source = .plugin p → p.className = l.sceneClass.name := fun p source =>
    (h.serves p source).className_eq.trans h.name_eq.symm
  rw [(l.create_of_maker named h.id_ne_fresh runs).1, h.name_eq]

/-- Where modules are loaded for their declaration only, no module makes an object. -/
theorem LoadedClass.Fits.origin_of_create (h : l.Fits name true ids) {o : OwnedObject}
    (made : (l.create scripts object ids).1 = .ok o) : o.origin = none := by
  obtain ⟨c, p | code⟩ := l
  · have only := (h.serves p rfl).proxy_eq
    simp only [LoadedClass.create, p.create_of_proxy only] at made
    cases made
  · unfold LoadedClass.create at made
    dsimp only at made
    split at made
    · cases made
    · split at made
      · obtain rfl := Except.ok.inj made
        rfl
      · cases made

namespace Session

variable {s : Session} {t : Turn}

/-- The loaded class that a turn makes an object of, with the source of identities by then. -/
def target? (s : Session) (t : Turn) : Option (LoadedClass × IdSource) :=
  match t.request with
  | .create name _ =>
      match s.registry.load t.world name (s.ids.skip t.elsewhere) with
      | (.ok l, _, ids) => some (l, ids)
      | (.error _, _, _) => none
  | .make name _ => (s.registry.get? name).map (·, s.ids.skip t.elsewhere)
  | _ => none

/-- What comes of the turn is what comes of making an object of the loaded class. -/
theorem target_spec (h : s.Sound) (asks : t.MakesOf name object)
    (found : s.target? t = some (l, ids)) :
    l.Fits name s.registry.proxy ids ∧
      s.answer t = .made (l.create t.world.scripts object ids).1 ∧
      (s.next t).registry.get? name = some (l.create t.world.scripts object ids).2.1 := by
  obtain ⟨request, w, elsewhere⟩ := t
  obtain rfl | rfl := asks
  · have sound := (h.skip elsewhere).load w name
    have proxy := (s.registry.keeps_load w name (s.ids.skip elsewhere)).proxy_eq
    simp only [target?] at found
    simp only [answer, next, turn, Registry.create]
    rcases run : s.registry.load w name (s.ids.skip elsewhere) with ⟨e | l', r, ids'⟩
    all_goals rw [run] at found; cases found
    rw [run] at proxy
    have kept := Registry.get?_of_load run
    simp only [skip, run] at sound
    exact ⟨proxy ▸ sound name l kept, rfl, r.get?_keep_self name _⟩
  · obtain ⟨l', kept, same⟩ := Option.map_eq_some_iff.1 found
    cases same
    refine ⟨h.skip elsewhere name l kept, ?_, ?_⟩
    · simp only [answer, turn, Registry.make, kept]
    · simp only [next, turn, Registry.make, kept]
      exact s.registry.get?_keep_self name _

/-- If an object is made, it is made of a loaded class. -/
theorem target_of_made (asks : t.MakesOf name object) {o : OwnedObject}
    (made : s.answer t = .made (.ok o)) : ∃ l ids, s.target? t = some (l, ids) := by
  obtain ⟨request, w, elsewhere⟩ := t
  obtain rfl | rfl := asks
  · simp only [answer, turn, Registry.create] at made
    simp only [target?]
    rcases run : s.registry.load w name (s.ids.skip elsewhere) with ⟨e | l, r, ids'⟩
    · rw [run] at made
      cases made
    · exact ⟨l, ids', rfl⟩
  · simp only [answer, turn, Registry.make] at made
    rcases kept : s.registry.get? name with _ | l
    · rw [kept] at made
      cases made
    · exact ⟨l, s.ids.skip elsewhere, by simp only [target?, kept, Option.map_some]⟩

/-- The class is still kept, whatever comes of the object. -/
theorem class?_of_target (h : s.Sound) (asks : t.MakesOf name object)
    (found : s.target? t = some (l, ids)) :
    (s.next t).registry.class? name = some l.sceneClass := by
  obtain ⟨-, -, kept⟩ := target_spec h asks found
  rw [Registry.class?, kept, Option.map_some, l.sceneClass_create t.world.scripts object ids]

/-- If no code of the class is run, the turn gives an error. -/
theorem answer_of_no_maker (h : s.Sound) (asks : t.MakesOf name object)
    (found : s.target? t = some (l, ids)) (none : l.maker? t.world.scripts object = none) :
    ∃ e, s.answer t = .made (.error (.returned e)) := by
  obtain ⟨-, answer, -⟩ := target_spec h asks found
  obtain ⟨e, l', failed⟩ := l.create_of_no_maker ids none
  exact ⟨e, by rw [answer, failed]⟩

/-- If code of the class is run, the turn gives the verdict on what that makes. -/
theorem answer_of_maker (h : s.Sound) (asks : t.MakesOf name object)
    (found : s.target? t = some (l, ids)) {how : Creation}
    (runs : l.maker? t.world.scripts object = some how) :
    s.answer t = .made ((l.verdict (.createFailed name object)
      (how.run l.sceneClass object ids).1).map (⟨·, l.modulePath?⟩)) := by
  obtain ⟨fits, answer, -⟩ := target_spec h asks found
  rw [answer, fits.create_of_maker runs]

/-! ### What callers are given -/

/-- At one of the turns, a caller is given the class under the name. -/
def Gives (s : Session) (turns : List Turn) (name : String) (c : SceneClass) : Prop :=
  ∃ early t late, turns = early ++ t :: late ∧ t.AsksFor name ∧
    ((s.run early).answer t).class? = some c

/-- What a caller is given at any of the turns is kept in the end. -/
theorem class?_of_gives {turns : List Turn} {c : SceneClass} (gives : s.Gives turns name c) :
    (s.run turns).registry.class? name = some c := by
  obtain ⟨early, t, late, rfl, asked, given⟩ := gives
  rw [run_append]
  exact (keeps_run _ late).class?_eq name c (class?_of_answer asked given)

/-- **An object has the class that is kept**, which is the class that anybody is given under the
name, before or after, so that it takes all keys of that class. If code makes an object of another
class, or if the code of a module makes none, then the call fails, and the error names the class and
the object. Code that is built in makes none only by breaking down, and then the call does not
return. If no code comes to be run, the call fails. The class is kept in any case. Where modules are
loaded for their declaration only, no object comes from a module, and no kept module has been asked
for anything else. The same holds of an object that a module is asked for directly, with any class
there is. -/
theorem objects_of_kept_class {dirs : List String} {before : List Turn}
    (now : (opened dirs proxy).run before = s) (asks : t.MakesOf name object) (after : List Turn) :
    (∀ o, s.answer t = .made (.ok o) →
      (s.next t).registry.class? name = some o.object.sceneClass ∧
        ∀ c, (opened dirs proxy).Gives (before ++ t :: after) name c →
          o.object.sceneClass = c ∧ o.object.TakesKeysOf c) ∧
      (∀ l ids, s.target? t = some (l, ids) →
        l.sceneClass.name = name ∧ (s.next t).registry.class? name = some l.sceneClass ∧
          (∀ how, l.maker? t.world.scripts object = some how →
            (∀ o, (how.run l.sceneClass object ids).1 = some o → o.sceneClass = l.sceneClass →
              s.answer t = .made (.ok ⟨o, l.modulePath?⟩)) ∧
            (∀ o, (how.run l.sceneClass object ids).1 = some o → o.sceneClass ≠ l.sceneClass →
              s.answer t = .made (.error (.returned (.createFailed name object)))) ∧
            ((how.run l.sceneClass object ids).1 = none → l.isBuiltin = false →
              s.answer t = .made (.error (.returned (.createFailed name object)))) ∧
            ((how.run l.sceneClass object ids).1 = none → l.isBuiltin = true →
              s.answer t = .made (.error .unwound))) ∧
          (l.maker? t.world.scripts object = none →
            ∃ e, s.answer t = .made (.error (.returned e)))) ∧
      (proxy = true →
        (∀ o, s.answer t = .made (.ok o) → o.origin = none) ∧
          ∀ n l p, (s.next t).registry.get? n = some l → l.source = .plugin p →
            ∀ contact ∈ p.journal, contact = .lookedUp .declare ∨ contact = .ran .declare) ∧
      ∀ (p : Plugin) (scripts : Scripts) (c : SceneClass), c.Sound → c.id.number < s.ids.next →
        (∀ o, (p.create scripts c object s.ids).1 = .ok o → o.sceneClass = c ∧ o.TakesKeysOf c) ∧
          (∀ how, p.maker? scripts c object = some how →
            (∀ o, (how.run c object s.ids).1 = some o → o.sceneClass ≠ c) →
            (p.create scripts c object s.ids).1 = .error (.createFailed p.className object)) ∧
          (p.proxy = true →
            p.create scripts c object s.ids = (.error (.proxyMode p.className), p, s.ids)) := by
  have sound : s.Sound := now ▸ (sound_opened dirs proxy).run before
  have same : s.registry.proxy = proxy := by
    rw [← now]
    exact ((opened dirs proxy).keeps_run before).proxy_eq
  refine ⟨fun o made => ?_, fun l ids found => ?_, fun only => ⟨fun o made => ?_, ?_⟩,
    fun p scripts c known lt => ⟨fun o made => ?_, fun how runs foreign => ?_, ?_⟩⟩
  · obtain ⟨l, ids, found⟩ := target_of_made asks made
    obtain ⟨fits, answer, -⟩ := target_spec sound asks found
    obtain ⟨n, new⟩ := fits.new_of_create (Answer.made.inj (answer.symm.trans made))
    have kept := class?_of_target sound asks found
    rw [new]
    refine ⟨kept, fun c gives => ?_⟩
    -- both are kept in the end
    have given := class?_of_gives gives
    have stays := (keeps_run (s.next t) after).class?_eq name _ kept
    rw [run_append, now] at given
    obtain rfl := Option.some.inj (stays.symm.trans given)
    exact ⟨rfl, fits.sound.takesKeys_new n⟩
  · refine ⟨(target_spec sound asks found).1.name_eq, class?_of_target sound asks found,
      fun how runs => ?_, answer_of_no_maker sound asks found⟩
    rw [answer_of_maker sound asks found runs]
    refine ⟨fun o made own => ?_, fun o made other => ?_, fun none_made fromModule => ?_,
      fun none_made builtin => ?_⟩
    · rw [LoadedClass.verdict_of_own made own]
      rfl
    · rw [LoadedClass.verdict_of_other made other]
      rfl
    · rw [LoadedClass.verdict_of_module none_made fromModule]
      rfl
    · rw [LoadedClass.verdict_of_unwound none_made builtin]
      rfl
  · obtain ⟨l, ids, found⟩ := target_of_made asks made
    obtain ⟨fits, answer, -⟩ := target_spec sound asks found
    rw [same, only] at fits
    exact fits.origin_of_create (Answer.made.inj (answer.symm.trans made))
  · intro n l p kept source
    have serves := ((sound.next t) n l kept).serves p source
    rw [(s.keeps_next t).proxy_eq, same] at serves
    exact serves.journal only
  · obtain ⟨n, rfl⟩ := (p.makes_create scripts c object s.ids).new o made (ClassId.ne_fresh lt)
    exact ⟨rfl, known.takesKeys_new n⟩
  · rw [(p.create_of_maker (ClassId.ne_fresh lt) runs).1, verdict_of_foreign foreign]
  · exact fun only => p.create_of_proxy only scripts c object s.ids

/-! ### A registry for declarations only -/

/-- The class is built in, with a script that may make objects in any way. -/
def lampTurns : List Turn :=
  [⟨.addBuiltin "Lamp" .scripted, lampWorld "on", 0⟩, ⟨.load "Lamp", lampWorld "on", 0⟩]

/-- A module whose code makes objects of a class of its own. -/
def strayPlugin : Plugin :=
  { className := "Torch", path := "./Torch.so", proxy := false
    library := some ⟨.present, .present, .present, .fixed { creation := .foreign }⟩ }

/-- The class that the registry keeps. -/
def lampKept : SceneClass := { litClass with id := ⟨1⟩ }

/-- An object of the class is asked for, when the code of the class makes its objects in some way.
-/
def lampTurn (how : Creation) : Turn :=
  { request := .make "Lamp" "key"
    world := bareWorld [("Lamp", { creation := how })] }

/-- Later, a caller asks for the class. -/
def lampRequest : Turn := ⟨.get "Lamp", bareWorld [], 3⟩

/-- The statement at an object of the class, which takes the keys of the class that is given later;
at the same request when the code makes an object of another class, and when it breaks down; and at
the module, which is asked for an object of that class and makes another. -/
theorem objects_of_kept_class_lamp :
    ((opened [] true).run lampTurns).answer (lampTurn .renamed) =
        .made (.ok ⟨.new lampKept "renamed:key", none⟩) ∧
      (opened [] true).Gives (lampTurns ++ [lampTurn .renamed, lampRequest]) "Lamp" lampKept ∧
      (SceneObject.new lampKept "renamed:key").TakesKeysOf lampKept ∧
      ((opened [] true).run lampTurns).answer (lampTurn .foreign) =
        .made (.error (.returned (.createFailed "Lamp" "key"))) ∧
      ((opened [] true).run lampTurns).answer (lampTurn .panic) = .made (.error .unwound) ∧
      (strayPlugin.create [] lampKept "key" ((opened [] true).run lampTurns).ids).1 =
        .error (.createFailed "Torch" "key") := by
  have made : ((opened [] true).run lampTurns).answer (lampTurn .renamed) =
      .made (.ok ⟨.new lampKept "renamed:key", none⟩) := rfl
  have gives :
      (opened [] true).Gives (lampTurns ++ [lampTurn .renamed, lampRequest]) "Lamp" lampKept :=
    ⟨lampTurns ++ [lampTurn .renamed], lampRequest, [], rfl, .inr (.inr rfl), rfl⟩
  have known : lampKept.Sound :=
    ((sound_opened [] true).run lampTurns "Lamp" ⟨lampKept, .builtin .scripted⟩ rfl).sound
  have general (how : Creation) := @objects_of_kept_class "Lamp" "key" true _ (lampTurn how) []
    lampTurns rfl (.inr rfl) [lampRequest]
  obtain ⟨ofTurn, -, -, direct⟩ := general .renamed
  obtain ⟨-, stray, -⟩ := direct strayPlugin [] lampKept known (by decide)
  have coded (how : Creation) :=
    ((general how).2.1 ⟨lampKept, .builtin .scripted⟩ _ rfl).2.2.1 how rfl
  refine ⟨made, gives, ((ofTurn _ made).2 lampKept gives).2, ?_, ?_, stray .foreign rfl ?_⟩
  · obtain ⟨-, other, -, -⟩ := coded .foreign
    exact other _ rfl (by decide)
  · obtain ⟨-, -, -, unwound⟩ := coded .panic
    exact unwound rfl rfl
  · intro o other
    obtain rfl := Option.some.inj other
    decide

end Session

end SceneSchema
