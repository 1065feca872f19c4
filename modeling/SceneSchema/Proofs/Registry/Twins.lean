import SceneSchema.Plugin.LoaderPath
import SceneSchema.Proofs.Registry.KeptObjects
import SceneSchema.Proofs.Schema.Renaming

/-!
# The same class, built in or from a module

The code of a class may be built into a program or stand in a module. The two ways to run it have
little in common: built-in code gives its result at once, while a module is found on the search
path, asked for its entry points, and lent the class. Still the two make the same class of a script,
but for the identity, and the same objects.

* `Script.finished`, `Script.created` — what comes of declaring a class by a script, and of creating
  an object, where the call returns. `like_finished` and `like_created`: but for the identity of the
  class, it does not depend on that.
* `Registry.Offers` — the registry would declare a class by some code. `offers_builtin` and
  `offers_module` say so of the two ways.
* `Session.answer_load`, `Session.answer_create` — what callers are given follows from the code
  alone.

**Main statement** (`Session.builtin_like_module`): whoever loads the class, or creates an object of
it, cannot tell which of the two it was.
-/

namespace SceneSchema

/-! ### What comes of a script -/

/-- The class that a script declares, for a caller to whom a breakdown is told as an error. -/
def Script.finished (s : Script) (c : SceneClass) : Except Error SceneClass :=
  match s.run c with
  | (.declared i, c') => .ok (c'.withInterface i).finalize
  | (.failed e, _) => .error e
  | (.panicked, c') => .error (.declarationFailed c'.name "declare panicked")

/-- A class that is declared is closed. -/
theorem Script.finalized_of_finished {s : Script} {c d : SceneClass} (run : s.finished c = .ok d) :
    d.finalized = true := by
  unfold finished at run
  split at run
  · obtain rfl := Except.ok.inj run
    rfl
  · cases run
  · cases run

/-- What comes of a script does not depend on the identity of the class. -/
theorem Script.finished_withId (s : Script) (c : SceneClass) (id : ClassId) :
    s.finished (c.withId id) = (s.finished c).map (·.withId id) := by
  unfold finished
  rw [s.run_withId]
  rcases s.run c with ⟨_ | _ | _, c'⟩ <;> rfl

/-- Whoever lends a class to a module that runs the script gets what comes of the script. -/
theorem Script.take_declareEntry (s : Script) (c : SceneClass) :
    (LentClass.take (s.declareEntry ⟨c, none⟩)).1.map
      (fun _ => (LentClass.take (s.declareEntry ⟨c, none⟩)).2.sceneClass) = s.finished c := by
  unfold declareEntry finished
  rcases s.run c with ⟨_ | _ | _, c'⟩ <;> rfl

/-- The object that code makes, if it makes one of the class, for a caller to whom a breakdown is
told as an error. -/
def Creation.finished (how : Creation) (c : SceneClass) (object : String) :
    Except Error SceneObject :=
  match how with
  | .plain => .ok (.new c object)
  | .renamed => .ok (.new c ("renamed:" ++ object))
  | .foreign | .panic => .error (.createFailed c.name object)

/-- The verdict on what code makes that does not break down, wherever the class is from. -/
theorem LoadedClass.verdict_run {l : LoadedClass} {how : Creation} {object : String}
    {ids : IdSource} (calm : how ≠ .panic) (old : l.sceneClass.id ≠ ids.fresh) :
    l.verdict (.createFailed l.sceneClass.name object) (how.run l.sceneClass object ids).1 =
      (how.finished l.sceneClass object).mapError .returned := by
  cases how with
  | plain | renamed => exact verdict_of_own rfl rfl
  | foreign =>
    have other : (SceneObject.new (.new ids.fresh "Other") object).sceneClass ≠ l.sceneClass :=
      fun same => old (congrArg SceneClass.id same).symm
    exact verdict_of_other rfl other
  | panic => exact absurd rfl calm

/-- The object that comes of a script: of the class that it declares, if it declares one. -/
def Script.created (s : Script) (id : ClassId) (name object : String) (origin : Option String) :
    Except Error OwnedObject := do
  let c ← s.finished (.new id name)
  (s.creation.finished c object).map (⟨·, origin⟩)

/-! ### Modules that have all there is to ask for -/

namespace Plugin

variable {p : Plugin} {code : Code} {scripts : Scripts} {c : SceneClass} {name : String}

/-- Every entry point is there, with the code behind it, and nothing else has been found out. -/
structure Equipped (p : Plugin) (code : Code) : Prop where
  /-- The library has each entry point. -/
  ask (entry : EntryPoint) : p.ask entry = .ok code
  /-- Whatever was found out is the code. -/
  known (a : EntryPoint × Except Error Code) : a ∈ p.known → a.2 = .ok code

/-- An equipped module finds the code of the entry point, and stays equipped. -/
theorem Equipped.resolve (h : p.Equipped code) (entry : EntryPoint) :
    (p.resolve entry).1 = .ok code ∧ (p.resolve entry).2.Equipped code := by
  unfold Plugin.resolve
  split
  · rename_i known
    exact ⟨h.known _ (Table.mem_of_lookup known), h⟩
  · refine ⟨h.ask entry, fun entry' => h.ask entry', fun a there => ?_⟩
    rcases List.mem_cons.1 there with rfl | there
    · exact h.ask entry
    · exact h.known a there

/-- Running an entry point finds out nothing. -/
theorem Equipped.running (h : p.Equipped code) (entry : EntryPoint) :
    (p.running entry).Equipped code := ⟨h.ask, h.known⟩

/-- Nor does declaring a class find out anything but the code. -/
theorem Equipped.declare (h : p.Equipped code) (scripts : Scripts) (c : SceneClass) :
    (p.declare scripts c).2.2.Equipped code := by
  have resolved := (h.resolve .declare).2
  unfold Plugin.declare
  generalize p.resolve .declare = declared at resolved ⊢
  rcases declared with ⟨_ | code', q⟩
  · exact resolved
  · have ran := Equipped.running resolved .declare
    dsimp only
    split <;> exact ran

/-- The code is run for any name that can be handed over, unless the module is there for its
declaration only. -/
theorem Equipped.maker?_eq (h : p.Equipped code) (makes : p.proxy = false)
    (free : '\x00' ∉ name.toList) :
    p.maker? scripts c name = some (code.script scripts c.name).creation := by
  obtain ⟨created, h'⟩ := h.resolve .create
  unfold maker?
  rw [makes]
  generalize p.resolve .create = answer at created h' ⊢
  obtain ⟨_, q⟩ := answer
  obtain rfl := created
  have destroyed := (Equipped.resolve h' .destroy).1
  dsimp only at destroyed ⊢
  generalize q.resolve .destroy = answer at destroyed ⊢
  obtain ⟨_, q'⟩ := answer
  obtain rfl := destroyed
  simp [free]

/-- What comes of letting a module declare a class is what comes of its script. -/
theorem finished_of_resolve (found : (p.resolve .declare).1 = .ok code) (scripts : Scripts)
    (c : SceneClass) : (p.declare scripts c).1.map (fun _ => (p.declare scripts c).2.1) =
      (code.script scripts c.name).finished c := by
  rw [← (code.script scripts c.name).take_declareEntry c, p.declare_eq_take found scripts c]

/-- A module that has just been loaded has all that its library exports. -/
theorem equipped_opened (className path : String) (proxy : Bool) {l : Library}
    (exports : ∀ entry, l.exports entry = .present) :
    (opened className path proxy l).Equipped l.code where
  ask entry := by simp [Plugin.ask, opened, exports entry]
  known _ there := absurd there List.not_mem_nil

end Plugin

/-! ### Registries that would declare a class -/

/-- The objects are made by the code. -/
inductive Source.RunsBy (code : Code) : Source → Prop where
  | builtin : RunsBy code (.builtin code)
  | plugin {p : Plugin} (equipped : p.Equipped code) (makes : p.proxy = false) :
      RunsBy code (.plugin p)

/-- So the code is what runs for any name that can be handed to a module. -/
theorem Source.RunsBy.maker?_eq {l : LoadedClass} {code : Code} (h : l.source.RunsBy code)
    {name : String} (free : '\x00' ∉ name.toList) (scripts : Scripts) :
    l.maker? scripts name = some (code.script scripts l.sceneClass.name).creation := by
  obtain ⟨c, source⟩ := l
  cases h with
  | builtin => rfl
  | plugin equipped makes => exact equipped.maker?_eq makes free

namespace Registry

variable {r : Registry} {w : World} {name : String} {code : Code}

/-- The registry does not keep the class yet, and would declare it by the code, in a call that
returns. -/
structure Offers (r : Registry) (w : World) (name : String) (code : Code) : Prop where
  /-- The class is not kept. -/
  new : r.get? name = none
  /-- A declaration gives what comes of the script, in a class behind which the code is run. -/
  declares (ids : IdSource) : ∃ source : Source, source.RunsBy code ∧
    (r.declareFresh w name ids).1 =
      (((code.script w.scripts name).finished (.new ids.fresh name)).map (⟨·, source⟩)).mapError
        .returned

/-- A fresh registry offers a class that is built in, if its declaration does not break down. -/
theorem offers_builtin (dirs : List String) (proxy : Bool)
    (calm : ∀ id, ((code.script w.scripts name).run (.new id name)).1 ≠ .panicked) :
    ((Registry.new dirs proxy).addBuiltin name code).Offers w name code where
  new := rfl
  declares ids := by
    refine ⟨.builtin code, .builtin, ?_⟩
    have calm := calm ids.fresh
    unfold declareFresh addBuiltin Registry.new Script.finished
    simp only [Table.lookup_put_self]
    generalize (code.script w.scripts name).run (.new ids.fresh name) = ended at calm ⊢
    rcases ended with ⟨_ | _ | _, c⟩
    · rfl
    · rfl
    · exact absurd rfl calm

/-- A fresh registry offers a class whose module it finds, with all entry points. -/
theorem offers_module {dirs : List String} {path : String} {l : Library}
    (found : Plugin.locate w.files name dirs false = .ok path)
    (loads : w.load path = some l) (exports : ∀ entry, l.exports entry = .present) :
    (Registry.new dirs false).Offers w name l.code where
  new := rfl
  declares ids := by
    have equipped := Plugin.equipped_opened name path false exports
    have acquired : Plugin.acquire w name dirs false = .ok (Plugin.opened name path false l) := by
      simp only [Plugin.acquire, found, loads, bind, Except.bind]
    have serves := (Plugin.serves_of_acquire acquired).declare w.scripts (.new ids.fresh name)
    have finished :=
      Plugin.finished_of_resolve (equipped.resolve .declare).1 w.scripts (.new ids.fresh name)
    have declared := equipped.declare w.scripts (.new ids.fresh name)
    refine ⟨.plugin _, .plugin declared serves.proxy_eq, ?_⟩
    unfold declareFresh Registry.new
    dsimp only [List.lookup_nil]
    rw [acquired]
    refine Eq.trans ?_ (congrArg (fun x => (Except.map _ x).mapError Failure.returned) finished)
    dsimp only
    generalize Plugin.declare _ w.scripts (.new ids.fresh name) = ended
    rcases ended with ⟨_ | _, c, q⟩ <;> rfl

/-- A load gives the class that the script declares, and keeps it. -/
theorem Offers.load (h : r.Offers w name code) (ids : IdSource) :
    (∃ e, (code.script w.scripts name).finished (.new ids.fresh name) = .error e ∧
        r.load w name ids = (.error (.returned e), r, ids.advance)) ∨
      ∃ c source, (code.script w.scripts name).finished (.new ids.fresh name) = .ok c ∧
        source.RunsBy code ∧ LoadedClass.Fits ⟨c, source⟩ name r.proxy ids.advance ∧
        r.load w name ids = (.ok ⟨c, source⟩, r.keep name ⟨c, source⟩, ids.advance) := by
  obtain ⟨source, runs, declared⟩ := h.declares ids
  rcases r.load_cases w name ids with ⟨l, kept, -⟩ | ⟨-, ⟨e, failed, run⟩ | ⟨l, made, run⟩⟩
  · rw [h.new] at kept
    cases kept
  · rw [declared] at failed
    rcases finished : (code.script w.scripts name).finished (.new ids.fresh name) with e' | c
    all_goals rw [finished] at failed; cases failed
    exact .inl ⟨e', rfl, run⟩
  · have fits := fits_of_declareFresh made
    rw [declared] at made
    rcases finished : (code.script w.scripts name).finished (.new ids.fresh name) with e' | c
    all_goals rw [finished] at made; cases made
    exact .inr ⟨c, source, rfl, runs, fits, run⟩

end Registry

/-- What comes of making an object of a class whose objects the code makes without breaking down. -/
theorem LoadedClass.Fits.create_of_runsBy {l : LoadedClass} {name object : String} {proxy : Bool}
    {ids : IdSource} {code : Code} (h : l.Fits name proxy ids) (runs : l.source.RunsBy code)
    (scripts : Scripts) (free : '\x00' ∉ object.toList)
    (calm : (code.script scripts name).creation ≠ .panic) :
    (l.create scripts object ids).1 =
      (((code.script scripts name).creation.finished l.sceneClass object).map
        (⟨·, l.modulePath?⟩)).mapError .returned := by
  rw [h.create_of_maker (runs.maker?_eq free scripts), ← h.name_eq] at *
  rw [l.verdict_run calm h.id_ne_fresh]
  rcases Creation.finished _ l.sceneClass object with _ | _ <;> rfl

/-! ### What callers are given -/

namespace Session

variable {s : Session} {w : World} {name object : String} {code : Code}

/-- What a caller gets who loads the class follows from the script. -/
theorem answer_load (h : s.registry.Offers w name code) (k : Nat) :
    s.answer ⟨.load name, w, k⟩ =
      .given (((code.script w.scripts name).finished (.new (s.ids.skip k).fresh name)).mapError
        .returned) := by
  simp only [answer, turn]
  rcases h.load (s.ids.skip k) with ⟨e, finished, run⟩ | ⟨c, source, finished, -, -, run⟩
  all_goals
    rw [run, finished]
    rfl

/-- What a caller gets who has an object created follows from the script. -/
theorem answer_create (h : s.registry.Offers w name code) (free : '\x00' ∉ object.toList)
    (calm : (code.script w.scripts name).creation ≠ .panic) (k : Nat) :
    ∃ id origin, s.answer ⟨.create name object, w, k⟩ =
      .made (((code.script w.scripts name).created id name object origin).mapError .returned) := by
  refine ⟨(s.ids.skip k).fresh, ?_⟩
  simp only [answer, turn, Registry.create, Script.created]
  rcases h.load (s.ids.skip k) with ⟨e, finished, run⟩ | ⟨c, source, finished, runs, fits, run⟩
  · rw [run, finished]
    exact ⟨none, rfl⟩
  · rw [run, finished]
    exact ⟨_, congrArg Answer.made (fits.create_of_runsBy runs w.scripts free calm)⟩

/-- And so it does if the class was loaded before, or could not be. -/
theorem answer_create_of_loaded (h : s.registry.Offers w name code)
    (free : '\x00' ∉ object.toList) (calm : (code.script w.scripts name).creation ≠ .panic)
    (k k' : Nat) :
    ∃ id origin, (s.next ⟨.load name, w, k⟩).answer ⟨.create name object, w, k'⟩ =
      .made (((code.script w.scripts name).created id name object origin).mapError .returned) := by
  rcases h.load (s.ids.skip k) with ⟨e, -, run⟩ | ⟨c, source, finished, runs, fits, run⟩
  · -- the registry is as it was, and loads again
    refine answer_create ?_ free calm k'
    simp only [next, turn, run]
    exact h
  · have kept := s.registry.get?_keep_self name ⟨c, source⟩
    have later := (fits.mono (Nat.le_add_right _ k')).create_of_runsBy runs w.scripts free calm
    refine ⟨(s.ids.skip k).fresh, LoadedClass.modulePath? ⟨c, source⟩, ?_⟩
    simp only [answer, next, turn, run, Registry.create, Registry.load_of_get? kept w _,
      Script.created, finished]
    exact congrArg Answer.made later

end Session

/-! ### Two outcomes -/

/-- Both fail, with the same error, or both succeed, and what they give is related. -/
inductive SameOutcome {α β : Type} (related : α → β → Prop) : Except Error α → Except Error β → Prop
  | failed (e : Error) : SameOutcome related (.error e) (.error e)
  | gave {a : α} {b : β} (like : related a b) : SameOutcome related (.ok a) (.ok b)

/-- If steps come out alike, and so do those after them, then the two runs come out alike. -/
theorem SameOutcome.bind {α α' β β' : Type} {related : α → α' → Prop} {related' : β → β' → Prop}
    {x : Except Error α} {y : Except Error α'} {f : α → Except Error β} {g : α' → Except Error β'}
    (h : SameOutcome related x y) (each : ∀ a b, related a b → SameOutcome related' (f a) (g b)) :
    SameOutcome related' (x >>= f) (y >>= g) := by
  cases h with
  | failed e => exact .failed e
  | gave like => exact each _ _ like

/-- Both classes are closed, and they are alike in all but their identities. -/
structure SceneClass.Like (c d : SceneClass) : Prop where
  finalized : c.finalized = true ∧ d.finalized = true
  name_eq : c.name = d.name
  interface_eq : c.interface = d.interface
  attributes_eq : c.attributes = d.attributes
  /-- Each name leads to the same row. -/
  find?_eq (n : String) : c.find? n = d.find? n

/-- Both objects have the same values and marks, and classes of the same name. -/
structure OwnedObject.Like (o o' : OwnedObject) : Prop where
  className_eq : o.object.sceneClass.name = o'.object.sceneClass.name
  name_eq : o.object.name = o'.object.name
  interface_eq : o.object.interface = o'.object.interface
  slots_eq : o.object.slots = o'.object.slots

/-- What a script makes of two new classes is alike, up to their identities. -/
theorem Script.like_finished (s : Script) (name : String) (id id' : ClassId) :
    SameOutcome SceneClass.Like (s.finished (.new id name)) (s.finished (.new id' name)) := by
  have renamed := s.finished_withId (.new id name) id'
  rw [show (SceneClass.new id name).withId id' = .new id' name from rfl] at renamed
  rw [renamed]
  rcases run : s.finished (.new id name) with e | c
  · exact .failed e
  · have closed := Script.finalized_of_finished run
    exact .gave ⟨⟨closed, closed⟩, rfl, rfl, rfl, fun _ => rfl⟩

/-- The same code makes like objects of like classes. -/
theorem Creation.like_finished {how : Creation} (calm : how ≠ .panic) {c d : SceneClass}
    (like : c.Like d) (object : String) (origin origin' : Option String) :
    SameOutcome OwnedObject.Like ((how.finished c object).map (⟨·, origin⟩))
      ((how.finished d object).map (⟨·, origin'⟩)) := by
  have new (n : String) : OwnedObject.Like ⟨.new c n, origin⟩ ⟨.new d n, origin'⟩ := by
    refine ⟨like.name_eq, rfl, like.interface_eq, ?_⟩
    simp only [SceneObject.new, SceneClass.defaults, like.attributes_eq]
  cases how with
  | plain => exact .gave (new object)
  | renamed => exact .gave (new ("renamed:" ++ object))
  | foreign =>
    simp only [finished, like.name_eq]
    exact .failed _
  | panic => exact absurd rfl calm

/-- So are the objects that it makes, unless it breaks down. -/
theorem Script.like_created (s : Script) (calm : s.creation ≠ .panic) (name object : String)
    (id id' : ClassId) (origin origin' : Option String) :
    SameOutcome OwnedObject.Like (s.created id name object origin)
      (s.created id' name object origin') :=
  (s.like_finished name id id').bind fun _ _ like =>
    Creation.like_finished calm like object origin origin'

namespace Session

/-- A fresh registry that has a class built in. -/
def withBuiltin (dirs : List String) (proxy : Bool) (name : String) (code : Code) (ids : IdSource) :
    Session := ⟨(Registry.new dirs proxy).addBuiltin name code, ids⟩

/-- A fresh registry that has to find all classes. -/
def withModules (dirs : List String) (ids : IdSource) : Session := ⟨.new dirs false, ids⟩

/-- **A class is the same whether it is built in or from a module.** Let a registry have it built
in, and let another find a module of it on its search path that has all the entry points; and let
the same script be behind both, which does not break down. Then a load returns with both, and with
the same error, or with classes that are alike in all but their identities. And so it is with an
object of any name that can be handed to a module: both calls return with the same error, or with
objects that are alike, whether the class has been loaded before or is loaded for it. -/
theorem builtin_like_module {name path : String} {code : Code} {l : Library} {s : Script}
    {w w' : World} {dirs' : List String}
    (found : Plugin.locate w'.files name dirs' false = .ok path)
    (loads : w'.load path = some l) (exports : ∀ entry, l.exports entry = .present)
    (script : code.script w.scripts name = s) (script' : l.code.script w'.scripts name = s)
    (calm : ∀ id, (s.run (.new id name)).1 ≠ .panicked)
    (dirs : List String) (proxy : Bool) (ids ids' : IdSource) (k k' : Nat) :
    (∃ x x', (withBuiltin dirs proxy name code ids).answer ⟨.load name, w, k⟩ =
          .given (x.mapError .returned) ∧
        (withModules dirs' ids').answer ⟨.load name, w', k'⟩ = .given (x'.mapError .returned) ∧
        SameOutcome SceneClass.Like x x') ∧
      ∀ object : String, '\x00' ∉ object.toList → s.creation ≠ .panic →
        ∀ (b m : Session) (j j' : Nat),
        b = withBuiltin dirs proxy name code ids ∨
          b = (withBuiltin dirs proxy name code ids).next ⟨.load name, w, k⟩ →
        m = withModules dirs' ids' ∨ m = (withModules dirs' ids').next ⟨.load name, w', k'⟩ →
        ∃ x x', b.answer ⟨.create name object, w, j⟩ = .made (x.mapError .returned) ∧
          m.answer ⟨.create name object, w', j'⟩ = .made (x'.mapError .returned) ∧
          SameOutcome OwnedObject.Like x x' := by
  have offers : (withBuiltin dirs proxy name code ids).registry.Offers w name code :=
    Registry.offers_builtin dirs proxy (script ▸ calm)
  have offers' : (withModules dirs' ids').registry.Offers w' name l.code :=
    Registry.offers_module found loads exports
  refine ⟨⟨_, _, answer_load offers k, answer_load offers' k', ?_⟩, ?_⟩
  · rw [script, script']
    exact s.like_finished name _ _
  intro object free makes b m j j' reached reached'
  obtain ⟨id, origin, answer⟩ : ∃ id origin, b.answer ⟨.create name object, w, j⟩ =
      .made ((s.created id name object origin).mapError .returned) := by
    subst script
    rcases reached with rfl | rfl
    · exact answer_create offers free makes j
    · exact answer_create_of_loaded offers free makes k j
  obtain ⟨id', origin', answer'⟩ : ∃ id origin, m.answer ⟨.create name object, w', j'⟩ =
      .made ((s.created id name object origin).mapError .returned) := by
    subst script'
    rcases reached' with rfl | rfl
    · exact answer_create offers' free makes j'
    · exact answer_create_of_loaded offers' free makes k' j'
  exact ⟨_, _, answer, answer', s.like_created makes name object id id' origin origin'⟩

/-! ### A module on a disk -/

/-- The name of a module file. -/
def lampFile : EntryName := ⟨"Lamp.so", by decide +kernel⟩

/-- A library whose code runs the script that is kept under the class's name. -/
def lampLibrary : Library := ⟨.present, .present, .present, .scripted⟩

/-- A script that has a step fail, and goes on. Its objects have names of their own. -/
def lampScript : Script :=
  { steps := [{ action := .declare "on" ⟨.scalar .bool, true⟩ .empty (some "k") },
      { action := .addAlias "none" "lit", ignore := true },
      { action := .addAlias "k" "lit" }]
    interface := ⟨6⟩
    creation := .renamed }

/-- A disk with the module's file in the root, and the script. -/
def lampDisk : World :=
  .onDisk { root := [(lampFile, .file (.library lampLibrary))], workDir := [], programDir := [] }
    [("Lamp", lampScript)]

/-- The library of the lamp is at this path. -/
theorem content?_lampDisk : lampDisk.files.content? "/Lamp.so" = some (.library lampLibrary) := by
  have moves : Path.moves "/Lamp.so" = [.stay, .down lampFile] := by decide +kernel
  have short : ¬ ("/Lamp.so" = "" ∨ FileTree.maxPathBytes < "/Lamp.so".utf8ByteSize) := by
    decide +kernel
  have leads : lampDisk.files.resolve? "/Lamp.so" = some [lampFile] := by
    rw [FileTree.resolve?, if_neg short, moves]
    simp [FileTree.walk, FileTree.node?, Node.find?, FileTree.start, Path.isAbsolute, lampDisk,
      World.onDisk, FileTree.anywhere]
  rw [FileTree.content?, FileTree.find?, leads]
  rfl

/-- The statement at this module, with the same script behind a built-in class. An object is created
of the one class after it has been loaded, and of the other at once. -/
theorem builtin_like_module_lamp :
    Plugin.locate lampDisk.files "Lamp" ["/"] false = .ok "/Lamp.so" ∧
      lampDisk.load "/Lamp.so" = some lampLibrary ∧
      (∃ x x', (withBuiltin [] true "Lamp" .scripted {}).answer ⟨.load "Lamp", lampDisk, 0⟩ =
          .given (x.mapError .returned) ∧
        (withModules ["/"] {}).answer ⟨.load "Lamp", lampDisk, 5⟩ =
          .given (x'.mapError .returned) ∧
        SameOutcome SceneClass.Like x x') ∧
      ∃ x x', ((withBuiltin [] true "Lamp" .scripted {}).next ⟨.load "Lamp", lampDisk, 0⟩).answer
          ⟨.create "Lamp" "key", lampDisk, 2⟩ = .made (x.mapError .returned) ∧
        (withModules ["/"] {}).answer ⟨.create "Lamp" "key", lampDisk, 0⟩ =
          .made (x'.mapError .returned) ∧
        SameOutcome OwnedObject.Like x x' := by
  have content := content?_lampDisk
  have found : Plugin.locate lampDisk.files "Lamp" ["/"] false = .ok "/Lamp.so" := by
    have file : lampDisk.files.isFile "/Lamp.so" = true := by rw [FileTree.isFile, content]; rfl
    have path : Path.join "/" (ModuleFile.name "Lamp" false) = "/Lamp.so" := by decide +kernel
    simp [Plugin.locate, SearchPath.findFile?, path, file]
  have loads : lampDisk.load "/Lamp.so" = some lampLibrary := by
    have asIs : lampDisk.OpensAsIs "/Lamp.so" :=
      World.opensAsIs_onDisk _ _ (by decide +kernel) (by decide +kernel)
    rw [asIs]
    exact FileTree.library?_eq_some_iff.2 content
  have calm : ∀ id, (lampScript.run (.new id "Lamp")).1 ≠ .panicked := by
    intro id
    rw [show SceneClass.new id "Lamp" = (SceneClass.new ⟨1⟩ "Lamp").withId id from rfl,
      Script.run_withId]
    show (lampScript.run (.new ⟨1⟩ "Lamp")).1 ≠ .panicked
    decide +kernel
  have script : Code.script .scripted lampDisk.scripts "Lamp" = lampScript := rfl
  obtain ⟨load, create⟩ := builtin_like_module found loads (fun entry => by cases entry <;> rfl)
    script script calm [] true {} {} 0 5
  exact ⟨found, loads, load,
    create "key" (by decide +kernel) (by decide +kernel) _ _ 2 0 (.inr rfl) (.inl rfl)⟩

end Session

end SceneSchema
