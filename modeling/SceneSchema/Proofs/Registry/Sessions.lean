import SceneSchema.Proofs.Registry.Making

/-!
# Registries in use

A registry is shared by callers that do one thing at a time: what a call does to the registry, it
does under a lock. A `Session` is a registry together with the source of identities, and a `Turn` is
what one caller does while nobody else can do anything, in the world as it is by then. Between two
turns files and scripts may change, built-in code may be added, and classes may be made elsewhere.
Making an object takes a lock only to load its class, so there is a turn for the rest of it
(`Request.make`), and a call that loads and makes is these two turns (`Session.turn_create`),
between which others may have theirs.

* `Registry.load_cases`, `Registry.declare_cases`, `Registry.make_cases` — all that can come of one
  turn.
* `Session.Sound` — every kept class is as its declaration left it, closed, sound and of the name
  that it is kept under, and every kept module serves the class (`Sound.run`).
* `Session.Keeps` — no turn takes a kept class away or puts another in its place (`keeps_run`).
-/

namespace SceneSchema

/-! ### One turn at a time -/

namespace Registry

variable {r : Registry} {w : World} {name object : String} {ids : IdSource}

/-- The class kept under a name. -/
def class? (r : Registry) (name : String) : Option SceneClass :=
  (r.get? name).map LoadedClass.sceneClass

/-- Make an object of a class that is kept. -/
def make (r : Registry) (w : World) (name object : String) (ids : IdSource) :
    Except Failure OwnedObject × Registry × IdSource :=
  match r.get? name with
  | none => (.error (.returned (.classNotFound name)), r, ids)
  | some l =>
      match l.create w.scripts object ids with
      | (result, l, ids) => (result, r.keep name l, ids)

/-- A load gives the class that is kept, or makes one; that is kept if its declaration succeeds. -/
theorem load_cases (r : Registry) (w : World) (name : String) (ids : IdSource) :
    (∃ l, r.get? name = some l ∧ r.load w name ids = (.ok l, r, ids)) ∨
      (r.get? name = none ∧
        ((∃ e, (r.declareFresh w name ids).1 = .error e ∧
            r.load w name ids = (.error e, r, ids.advance)) ∨
          ∃ l, (r.declareFresh w name ids).1 = .ok l ∧
            r.load w name ids = (.ok l, r.keep name l, ids.advance))) := by
  unfold load
  rcases kept : r.get? name with _ | l
  · refine .inr ⟨rfl, ?_⟩
    rcases run : r.declareFresh w name ids with ⟨e | l, ids'⟩
    all_goals obtain rfl : ids' = ids.advance := (congrArg Prod.snd run).symm
    · exact .inl ⟨e, rfl, rfl⟩
    · exact .inr ⟨l, rfl, rfl⟩
  · exact .inl ⟨l, rfl, rfl⟩

/-- Declaring makes a class in any case; that is kept if there was none and its declaration
succeeds. -/
theorem declare_cases (r : Registry) (w : World) (name : String) (ids : IdSource) :
    (∃ e, r.declare w name ids = (.error e, r, ids.advance)) ∨
      (∃ l, r.get? name = some l ∧ r.declare w name ids = (.ok l.sceneClass, r, ids.advance)) ∨
      ∃ l, r.get? name = none ∧ (r.declareFresh w name ids).1 = .ok l ∧
        r.declare w name ids = (.ok l.sceneClass, r.keep name l, ids.advance) := by
  unfold declare
  rcases run : r.declareFresh w name ids with ⟨e | l, ids'⟩
  all_goals obtain rfl : ids' = ids.advance := (congrArg Prod.snd run).symm
  · exact .inl ⟨e, rfl⟩
  · rcases kept : r.get? name with _ | old
    · exact .inr (.inr ⟨l, rfl, rfl, rfl⟩)
    · dsimp only
      split
      · exact .inr (.inl ⟨old, rfl, rfl⟩)
      · exact .inl ⟨_, rfl⟩

/-- Making an object changes what the module of its class knows, if it is from one, and no class. -/
theorem make_cases (r : Registry) (w : World) (name object : String) (ids : IdSource) :
    (r.get? name = none ∧
        r.make w name object ids = (.error (.returned (.classNotFound name)), r, ids)) ∨
      ∃ l, r.get? name = some l ∧ r.make w name object ids =
        ((l.create w.scripts object ids).1, r.keep name (l.create w.scripts object ids).2.1,
          (l.create w.scripts object ids).2.2) := by
  unfold make
  rcases r.get? name with _ | l
  · exact .inl ⟨rfl, rfl⟩
  · exact .inr ⟨l, rfl, rfl⟩

/-- A class that was loaded is found under its name. -/
theorem get?_of_load {l : LoadedClass} {r' : Registry} {ids' : IdSource}
    (run : r.load w name ids = (.ok l, r', ids')) : r'.get? name = some l := by
  rcases r.load_cases w name ids with ⟨l', kept, run'⟩ | ⟨-, ⟨e, -, run'⟩ | ⟨l', -, run'⟩⟩
  all_goals rw [run'] at run; cases run
  · exact kept
  · exact get?_keep_self r name l

/-- To create an object is to load its class and then to make it. -/
theorem create_eq (r : Registry) (w : World) (name object : String) (ids : IdSource) :
    r.create w name object ids =
      match r.load w name ids with
      | (.error e, r, ids) => (.error e, r, ids)
      | (.ok _, r, ids) => r.make w name object ids := by
  unfold create make
  rcases run : r.load w name ids with ⟨e | l, r', ids'⟩
  · rfl
  · simp only [get?_of_load run]

/-! ### What is kept -/

end Registry

/-- A loaded class is fit to be kept under a name: it is closed, it has the name and an identity
that was given out, and its module serves it. -/
structure LoadedClass.Fits (l : LoadedClass) (name : String) (proxy : Bool) (ids : IdSource) :
    Prop where
  /-- The class has the name, -/
  name_eq : l.sceneClass.name = name
  /-- is closed, -/
  finalized : l.sceneClass.finalized = true
  /-- and is sound. -/
  sound : l.sceneClass.Sound
  /-- Its identity was given out. -/
  number_lt : l.sceneClass.id.number < ids.next
  /-- A module behind it serves the name. -/
  serves : ∀ p, l.source = .plugin p → p.Serves name proxy

/-- What was fit to be kept stays so when more identities are given out. -/
theorem LoadedClass.Fits.mono {l : LoadedClass} {name : String} {proxy : Bool} {ids ids' : IdSource}
    (h : l.Fits name proxy ids) (le : ids.next ≤ ids'.next) : l.Fits name proxy ids' :=
  { h with number_lt := Nat.lt_of_lt_of_le h.number_lt le }

/-- Making an object leaves a class fit to be kept. -/
theorem LoadedClass.Fits.create {l : LoadedClass} {name : String} {proxy : Bool} {ids : IdSource}
    (h : l.Fits name proxy ids) (scripts : Scripts) (object : String) :
    (l.create scripts object ids).2.1.Fits name proxy (l.create scripts object ids).2.2 := by
  have le := (l.makes_create scripts object ids).next_le
  have same := l.sceneClass_create scripts object ids
  have serves :
      ∀ p, (l.create scripts object ids).2.1.source = .plugin p → p.Serves name proxy := by
    obtain ⟨c, p | code⟩ := l
    · have after := (h.serves p rfl).create scripts c object ids
      unfold LoadedClass.create
      dsimp only
      generalize p.create scripts c object ids = created at after ⊢
      rcases created with ⟨_ | o, q, ids'⟩
      all_goals
        rintro _ ⟨⟩
        exact after
    · unfold LoadedClass.create
      dsimp only
      generalize (code.script scripts c.name).creation.run c object ids = created
      rcases created with ⟨_ | o, ids'⟩
      · exact fun p source => nomatch source
      · dsimp only
        split <;> exact fun p source => nomatch source
  exact ⟨same ▸ h.name_eq, same ▸ h.finalized, same ▸ h.sound,
    same ▸ Nat.lt_of_lt_of_le h.number_lt le, serves⟩

/-- A module closes the class that it declares. -/
theorem Plugin.finalized_of_declare {p : Plugin} {scripts : Scripts} {c : SceneClass}
    {i : Interface} (run : (p.declare scripts c).1 = .ok i) :
    (p.declare scripts c).2.1.finalized = true := by
  unfold Plugin.declare at run ⊢
  generalize p.resolve .declare = declared at run ⊢
  rcases declared with ⟨_ | code, q⟩
  · cases run
  dsimp only at run ⊢
  generalize (code.script scripts c.name).run c = ended at run ⊢
  rcases ended with ⟨_ | _ | _, c'⟩
  · rfl
  · cases run
  · cases run

namespace Registry

variable {r r' : Registry} {w : World} {name object : String} {ids : IdSource}

/-- A declaration that succeeds gives a class that is fit to be kept. -/
theorem fits_of_declareFresh {l : LoadedClass} (run : (r.declareFresh w name ids).1 = .ok l) :
    l.Fits name r.proxy ids.advance := by
  have becomes := becomes_of_declareFresh run
  obtain ⟨sound, id⟩ := sound_of_declareFresh run
  have rest : l.sceneClass.finalized = true ∧
      ∀ p, l.source = .plugin p → p.Serves name r.proxy := by
    cases declaredBy_of_declareFresh run with
    | builtin found ended => exact ⟨rfl, fun p source => nomatch source⟩
    | plugin foreign acquired ended =>
      have serves := (Plugin.serves_of_acquire acquired).declare w.scripts (.new ids.fresh name)
      have closed := Plugin.finalized_of_declare (congrArg Prod.fst ended)
      rw [ended] at closed serves
      refine ⟨closed, ?_⟩
      rintro _ ⟨⟩
      exact serves
  exact ⟨becomes.grows.name_eq, rest.1, sound, id ▸ Nat.lt_succ_self _, rest.2⟩

/-- Everything that is kept is fit to be kept where it is. -/
def Sound (r : Registry) (ids : IdSource) : Prop :=
  ∀ name l, r.get? name = some l → l.Fits name r.proxy ids

/-- The classes that the one registry keeps are kept by the other, under the same names. -/
structure Keeps (r r' : Registry) : Prop where
  /-- The mode is the same, -/
  proxy_eq : r'.proxy = r.proxy
  /-- and so is each class that was kept. -/
  class?_eq (name : String) (c : SceneClass) : r.class? name = some c → r'.class? name = some c

/-- A registry keeps its own classes. -/
theorem Keeps.refl (r : Registry) : r.Keeps r := ⟨rfl, fun _ _ kept => kept⟩

/-- What is kept by a registry that keeps the classes of another is kept throughout. -/
theorem Keeps.trans {r'' : Registry} (h : r.Keeps r') (h' : r'.Keeps r'') : r.Keeps r'' :=
  ⟨h'.proxy_eq.trans h.proxy_eq, fun name c kept => h'.class?_eq name c (h.class?_eq name c kept)⟩

/-- A sound registry stays so when more identities are given out. -/
theorem Sound.mono (h : r.Sound ids) {ids' : IdSource} (le : ids.next ≤ ids'.next) : r.Sound ids' :=
  fun name l kept => (h name l kept).mono le

/-- A class that is fit to be kept may be kept. -/
theorem Sound.keep (h : r.Sound ids) {l : LoadedClass} (fits : l.Fits name r.proxy ids) :
    (r.keep name l).Sound ids := by
  intro other l' kept
  by_cases same : other = name
  · subst same
    rw [get?_keep_self, Option.some.injEq] at kept
    exact kept ▸ fits
  · rw [get?_keep_of_ne r same] at kept
    exact h other l' kept

/-- A class that is kept is found under its name. -/
theorem class?_keep_self (r : Registry) (name : String) (l : LoadedClass) :
    (r.keep name l).class? name = some l.sceneClass := by
  rw [class?, get?_keep_self, Option.map_some]

/-- Under other names the same is found as before. -/
theorem class?_keep_of_ne (r : Registry) {name other : String} (h : other ≠ name)
    (l : LoadedClass) : (r.keep name l).class? other = r.class? other := by
  rw [class?, get?_keep_of_ne r h, class?]

/-- Keeping a class under a name where none was leaves all other classes. -/
theorem keeps_keep {l : LoadedClass} (new : r.get? name = none) : r.Keeps (r.keep name l) := by
  refine ⟨rfl, fun other c kept => ?_⟩
  have apart : other ≠ name := by
    rintro rfl
    rw [class?, new] at kept
    cases kept
  rw [class?_keep_of_ne r apart, kept]

/-- Keeping the class that is kept already changes no class. -/
theorem class?_keep {l l' : LoadedClass} (kept : r.get? name = some l)
    (same : l'.sceneClass = l.sceneClass) (other : String) :
    (r.keep name l').class? other = r.class? other := by
  by_cases here : other = name
  · subst here
    rw [class?_keep_self, class?, kept, same, Option.map_some]
  · exact class?_keep_of_ne r here l'

/-- Making an object changes no class that is kept. -/
theorem class?_make (r : Registry) (w : World) (name object : String) (ids : IdSource)
    (other : String) : (r.make w name object ids).2.1.class? other = r.class? other := by
  rcases r.make_cases w name object ids with ⟨-, run⟩ | ⟨l, kept, run⟩
  all_goals rw [run]
  exact class?_keep kept (l.sceneClass_create w.scripts object ids) other

/-- To make an object keeps the classes: the one that makes it stays what it is. -/
theorem keeps_make (r : Registry) (w : World) (name object : String) (ids : IdSource) :
    r.Keeps (r.make w name object ids).2.1 := by
  refine ⟨?_, fun other c kept => (r.class?_make w name object ids other).trans kept⟩
  rcases r.make_cases w name object ids with ⟨-, run⟩ | ⟨l, -, run⟩
  all_goals rw [run]
  rfl

/-- A load keeps the classes, since it adds one only where there is none. -/
theorem keeps_load (r : Registry) (w : World) (name : String) (ids : IdSource) :
    r.Keeps (r.load w name ids).2.1 := by
  rcases r.load_cases w name ids with ⟨l, -, run⟩ | ⟨new, ⟨e, -, run⟩ | ⟨l, -, run⟩⟩
  all_goals rw [run]
  · exact .refl r
  · exact .refl r
  · exact keeps_keep new

/-- So does a declaration, which replaces none that is kept. -/
theorem keeps_declare (r : Registry) (w : World) (name : String) (ids : IdSource) :
    r.Keeps (r.declare w name ids).2.1 := by
  rcases r.declare_cases w name ids with ⟨e, run⟩ | ⟨l, -, run⟩ | ⟨l, new, -, run⟩
  all_goals rw [run]
  · exact .refl r
  · exact .refl r
  · exact keeps_keep new

/-- A load keeps a registry sound. -/
theorem Sound.load (h : r.Sound ids) (w : World) (name : String) :
    (r.load w name ids).2.1.Sound (r.load w name ids).2.2 := by
  rcases r.load_cases w name ids with ⟨l, -, run⟩ | ⟨-, ⟨e, -, run⟩ | ⟨l, fresh, run⟩⟩
  all_goals rw [run]
  · exact h
  · exact h.mono (Nat.le_succ _)
  · exact (h.mono (Nat.le_succ _)).keep (fits_of_declareFresh fresh)

/-- A declaration keeps a registry sound. -/
theorem Sound.declare (h : r.Sound ids) (w : World) (name : String) :
    (r.declare w name ids).2.1.Sound (r.declare w name ids).2.2 := by
  rcases r.declare_cases w name ids with ⟨e, run⟩ | ⟨l, -, run⟩ | ⟨l, -, fresh, run⟩
  all_goals rw [run]
  · exact h.mono (Nat.le_succ _)
  · exact h.mono (Nat.le_succ _)
  · exact (h.mono (Nat.le_succ _)).keep (fits_of_declareFresh fresh)

/-- Making an object keeps a registry sound. -/
theorem Sound.make (h : r.Sound ids) (w : World) (name object : String) :
    (r.make w name object ids).2.1.Sound (r.make w name object ids).2.2 := by
  rcases r.make_cases w name object ids with ⟨-, run⟩ | ⟨l, kept, run⟩
  all_goals rw [run]
  · exact h
  · have le := (l.makes_create w.scripts object ids).next_le
    exact (h.mono le).keep ((h name l kept).create w.scripts object)

end Registry

/-- What a caller asks of a registry. -/
inductive Request where
  | load (name : String)
  | declare (name : String)
  | get (name : String)
  | create (name object : String)
  /-- Make an object of a class that is kept: the rest of `create`, once the class is loaded. -/
  | make (name object : String)
  | addBuiltin (name : String) (code : Code)

/-- What comes of a call: what the caller gets, or that it does not return (`Failure.unwound`). -/
inductive Answer where
  | given (result : Except Failure SceneClass)
  | found (kept : Option SceneClass)
  | made (result : Except Failure OwnedObject)
  | done

/-- What one caller does. -/
structure Turn where
  /-- What is asked. -/
  request : Request
  /-- The files and scripts, as they are by then. -/
  world : World
  /-- How many classes have been made elsewhere since the turn before. -/
  elsewhere : Nat := 0

/-- The source after so many more classes were made. -/
def IdSource.skip (ids : IdSource) (n : Nat) : IdSource := ⟨ids.next + n⟩

/-- A registry and the source of identities. -/
structure Session where
  /-- The registry that all callers share. -/
  registry : Registry
  /-- Where the identities of further classes come from. -/
  ids : IdSource := {}

namespace Session

/-- A session with a registry that knows no class yet. -/
def opened (dirs : List String) (proxy : Bool) : Session := { registry := .new dirs proxy }

/-- The session after classes were made elsewhere. -/
def skip (s : Session) (n : Nat) : Session := { s with ids := s.ids.skip n }

/-- One turn: what the caller gets, and what is left. -/
def turn (s : Session) (t : Turn) : Answer × Session :=
  let ids := s.ids.skip t.elsewhere
  match t.request with
  | .load name =>
      match s.registry.load t.world name ids with
      | (result, r, ids) => (.given (result.map (·.sceneClass)), ⟨r, ids⟩)
  | .declare name =>
      match s.registry.declare t.world name ids with
      | (result, r, ids) => (.given result, ⟨r, ids⟩)
  | .get name => (.found (s.registry.class? name), ⟨s.registry, ids⟩)
  | .create name object =>
      match s.registry.create t.world name object ids with
      | (result, r, ids) => (.made result, ⟨r, ids⟩)
  | .make name object =>
      match s.registry.make t.world name object ids with
      | (result, r, ids) => (.made result, ⟨r, ids⟩)
  | .addBuiltin name code => (.done, ⟨s.registry.addBuiltin name code, ids⟩)

/-- What the caller gets. -/
def answer (s : Session) (t : Turn) : Answer := (s.turn t).1

/-- The session after a turn. -/
def next (s : Session) (t : Turn) : Session := (s.turn t).2

/-- The session after many turns. -/
def run (s : Session) (turns : List Turn) : Session := turns.foldl next s

/-- Turns after others go on from where those ended. -/
theorem run_append (s : Session) (turns more : List Turn) :
    s.run (turns ++ more) = (s.run turns).run more := List.foldl_append

/-- Creating an object takes two turns, one that loads its class and one that makes it; if the first
fails there is no second. -/
theorem turn_create (s : Session) (w : World) (elsewhere : Nat) (name object : String) :
    s.turn ⟨.create name object, w, elsewhere⟩ =
      match s.turn ⟨.load name, w, elsewhere⟩ with
      | (.given (.error e), s) => (.made (.error e), s)
      | (_, s) => s.turn ⟨.make name object, w, 0⟩ := by
  simp only [turn, Registry.create_eq]
  rcases s.registry.load w name (s.ids.skip elsewhere) with ⟨e | l, r, ids⟩ <;> rfl

/-- So what is left after creating an object is left after one of these turns. -/
theorem next_create (s : Session) (w : World) (elsewhere : Nat) (name object : String) :
    s.next ⟨.create name object, w, elsewhere⟩ = s.next ⟨.load name, w, elsewhere⟩ ∨
      s.next ⟨.create name object, w, elsewhere⟩ =
        (s.next ⟨.load name, w, elsewhere⟩).next ⟨.make name object, w, 0⟩ := by
  simp only [next, turn_create]
  rcases s.turn ⟨.load name, w, elsewhere⟩ with ⟨⟨_ | _⟩ | _ | _ | _, s'⟩
  · exact .inl rfl
  all_goals exact .inr rfl

/-- Everything that is kept is fit to be kept. -/
def Sound (s : Session) : Prop := s.registry.Sound s.ids

/-- The registry keeps its classes. -/
def Keeps (s s' : Session) : Prop := s.registry.Keeps s'.registry

/-- A registry that was just opened keeps nothing. -/
theorem sound_opened (dirs : List String) (proxy : Bool) : (opened dirs proxy).Sound :=
  fun _ _ kept => nomatch kept

variable {s : Session}

/-- Identities that are given out elsewhere do no harm. -/
theorem Sound.skip (h : s.Sound) (n : Nat) : (s.skip n).Sound :=
  Registry.Sound.mono h (Nat.le_add_right _ _)

/-- One turn leaves everything that is kept fit to be kept. -/
theorem Sound.next (h : s.Sound) (t : Turn) : (s.next t).Sound := by
  obtain ⟨request, w, elsewhere⟩ := t
  have load {s : Session} (h : s.Sound) (name : String) (elsewhere : Nat) :
      (s.next ⟨.load name, w, elsewhere⟩).Sound := Registry.Sound.load (h.skip elsewhere) w name
  have make {s : Session} (h : s.Sound) (name object : String) (elsewhere : Nat) :
      (s.next ⟨.make name object, w, elsewhere⟩).Sound :=
    Registry.Sound.make (h.skip elsewhere) w name object
  cases request with
  | load name => exact load h name elsewhere
  | declare name => exact Registry.Sound.declare (h.skip elsewhere) w name
  | get name => exact h.skip elsewhere
  | create name object =>
    rcases s.next_create w elsewhere name object with same | same
    all_goals rw [same]
    · exact load h name elsewhere
    · exact make (load h name elsewhere) name object 0
  | make name object => exact make h name object elsewhere
  | addBuiltin name code => exact h.skip elsewhere

/-- **No turn takes a kept class away or puts another in its place.** -/
theorem keeps_next (s : Session) (t : Turn) : s.Keeps (s.next t) := by
  obtain ⟨request, w, elsewhere⟩ := t
  cases request with
  | load name => exact s.registry.keeps_load w name _
  | declare name => exact s.registry.keeps_declare w name _
  | get name => exact .refl _
  | create name object =>
    have load := s.registry.keeps_load w name (s.ids.skip elsewhere)
    rcases s.next_create w elsewhere name object with same | same
    all_goals rw [Keeps, same]
    · exact load
    · exact load.trans (Registry.keeps_make _ w name object _)
  | make name object => exact s.registry.keeps_make w name object _
  | addBuiltin name code => exact ⟨rfl, fun _ _ kept => kept⟩

/-- A session stays sound over any turns, by induction on them. -/
theorem Sound.run (h : s.Sound) (turns : List Turn) : (s.run turns).Sound := by
  induction turns generalizing s with
  | nil => exact h
  | cons t rest ih => exact ih (h.next t)

/-- A session keeps its classes over any turns, by induction on them. -/
theorem keeps_run (s : Session) (turns : List Turn) : s.Keeps (s.run turns) := by
  induction turns generalizing s with
  | nil => exact .refl _
  | cons t rest ih => exact (s.keeps_next t).trans (ih (s.next t))

/-- A session as it may come about: a registry was opened, and callers had their turns. -/
def Reached (s : Session) : Prop := ∃ dirs proxy turns, s = (opened dirs proxy).run turns

/-- Every session that can be reached is sound. -/
theorem Reached.sound (h : s.Reached) : s.Sound := by
  obtain ⟨dirs, proxy, turns, rfl⟩ := h
  exact (sound_opened dirs proxy).run turns

end Session

end SceneSchema
