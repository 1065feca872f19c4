import SceneSchema.Proofs.Plugin.Crossing

/-!
# What a module remembers of its library

A module asks its library for an entry point when the entry point is first needed, and goes by the
answer from then on, also if the answer is that there is none. A `PlainModule` keeps no answers: it
asks its library each time, and does with the answer what a module does.

* `Plugin.Coherent` — what a module remembers is what its library would answer now, and an open
  module has asked for nothing that it does not remember. Closing a module makes it forget.
* `Coherent.reply` — so one request, whatever it is, is replied to alike by the two, and leaves them
  alike. This is all that is shown of requests one by one; the rest is read off plain modules.
* `Coherent.serveAll` — and so are any number of requests.

**Main statement** (`Plugin.replies_opened`): whatever is asked of a module that was opened, and in
whatever order, it cannot be told from one that keeps no answers, but that it asks its library at
most once for each entry point; and once it is closed, it has no answers left but that it is closed.
-/

namespace SceneSchema

/-! ### Requests and replies -/

/-- Something that is asked of a module. -/
inductive ModuleRequest where
  | lookUp (entry : EntryPoint)
  | declare (scripts : Scripts) (c : SceneClass)
  | create (scripts : Scripts) (c : SceneClass) (name : String) (ids : IdSource)
  | close

/-- What comes of a request. -/
inductive ModuleReply where
  | entry (answer : Except Error Code)
  /-- Of a declaration, and the class as it was left. -/
  | declared (result : Except Error Interface) (left : SceneClass)
  /-- Of the making of an object, and the source of identities as it was left. -/
  | created (result : Except Error SceneObject) (left : IdSource)
  | closed

/-- The reply of a closed module of the class name, path and mode. -/
def ModuleRequest.refusal (className path : String) (proxy : Bool) : ModuleRequest → ModuleReply
  | .lookUp _ => .entry (.error (.moduleClosed path))
  | .declare _ c => .declared (.error (.moduleClosed path)) c
  | .create _ _ _ ids =>
      .created (.error (if proxy then .proxyMode className else .moduleClosed path)) ids
  | .close => .closed

/-- Requests one after the other: the replies, and what is left of what was asked. -/
def serveAll {σ : Type} (serve : σ → ModuleRequest → ModuleReply × σ) (s : σ) :
    List ModuleRequest → List ModuleReply × σ
  | [] => ([], s)
  | r :: rest =>
      let (replies, left) := serveAll serve (serve s r).2 rest
      ((serve s r).1 :: replies, left)

/-- Requests after others are served by what those left. -/
theorem serveAll_append {σ : Type} (serve : σ → ModuleRequest → ModuleReply × σ) (s : σ)
    (before after : List ModuleRequest) : (serveAll serve s (before ++ after)).2 =
      (serveAll serve (serveAll serve s before).2 after).2 := by
  induction before generalizing s with
  | nil => rfl
  | cons r rest ih => exact ih (serve s r).2

/-! ### Modules that keep no answers -/

/-- What the library that was loaded from a path answers when it is asked for an entry point. -/
def Library.answer (l : Library) (path : String) (entry : EntryPoint) : Except Error Code :=
  match l.exports entry with
  | .missing => .error (.symbolNotFound entry.symbol path .platform)
  | .null => .error (.symbolNotFound entry.symbol path .nullAddress)
  | .present => .ok l.code

/-- A module that asks its library each time. -/
structure PlainModule where
  className : String
  path : String
  proxy : Bool
  library : Option Library
  /-- The entry points that were run, the latest first. -/
  ran : List EntryPoint

namespace PlainModule

variable (m : PlainModule)

/-- The library's answer. -/
def ask (entry : EntryPoint) : Except Error Code :=
  match m.library with
  | none => .error (.moduleClosed m.path)
  | some l => l.answer m.path entry

/-- The module with an entry point's run recorded. -/
def running (entry : EntryPoint) : PlainModule := { m with ran := entry :: m.ran }

/-- Let the module declare a class. -/
def declare (scripts : Scripts) (c : SceneClass) : ModuleReply × PlainModule :=
  match m.ask .declare with
  | .error e => (.declared (.error e) c, m)
  | .ok code =>
      match (code.script scripts c.name).run c with
      | (.declared i, c') => (.declared (.ok i) (c'.withInterface i).finalize, m.running .declare)
      | (.failed e, c') => (.declared (.error e) c', m.running .declare)
      | (.panicked, c') =>
          (.declared (.error (.declarationFailed c'.name "declare panicked")) c',
            m.running .declare)

/-- Let the module make an object of a class. -/
def create (scripts : Scripts) (c : SceneClass) (name : String) (ids : IdSource) :
    ModuleReply × PlainModule :=
  let fails e := (ModuleReply.created (.error e) ids, m)
  if m.proxy then fails (.proxyMode m.className)
  else
    match m.ask .create, m.ask .destroy with
    | .error e, _ => fails e
    | .ok _, .error e => fails e
    | .ok code, .ok _ =>
        if name.toList.contains '\x00' then fails (.invalidData (.nulInName name))
        else
          let failed := Error.createFailed m.className name
          match (code.script scripts c.name).creation.run c name ids with
          | (none, ids) => (.created (.error failed) ids, m.running .create)
          | (some o, ids) =>
              if o.sceneClass.id = c.id then (.created (.ok o) ids, m.running .create)
              else (.created (.error failed) ids, (m.running .create).running .destroy)

/-- Do what is asked. -/
def reply : ModuleRequest → ModuleReply × PlainModule
  | .lookUp entry => (.entry (m.ask entry), m)
  | .declare scripts c => m.declare scripts c
  | .create scripts c name ids => m.create scripts c name ids
  | .close => (.closed, { m with library := none })

/-- The module has become the other, which has run more at most. -/
def RunsInto (m m' : PlainModule) : Prop := ∃ ran, m' = { m with ran }

/-- A module with nothing run has run into itself. -/
theorem RunsInto.refl : m.RunsInto m := ⟨m.ran, rfl⟩

/-- To run one more entry point runs on. -/
theorem RunsInto.running {m m' : PlainModule} (h : m.RunsInto m') (entry : EntryPoint) :
    m.RunsInto (m'.running entry) := by
  obtain ⟨ran, rfl⟩ := h
  exact ⟨entry :: ran, rfl⟩

/-- A declaration does no more to a plain module than run code. -/
theorem runsInto_declare (scripts : Scripts) (c : SceneClass) :
    m.RunsInto (m.declare scripts c).2 := by
  unfold declare
  split
  · exact .refl m
  · split <;> exact (RunsInto.refl m).running .declare

/-- Neither does making an object. -/
theorem runsInto_create (scripts : Scripts) (c : SceneClass) (name : String) (ids : IdSource) :
    m.RunsInto (m.create scripts c name ids).2 := by
  unfold create
  dsimp only
  split
  · exact .refl m
  split
  · exact .refl m
  · exact .refl m
  split
  · exact .refl m
  have made := (RunsInto.refl m).running .create
  split
  · exact made
  · split
    · exact made
    · exact made.running .destroy

/-- A request changes what was run, and closing the module takes its library; all else stays. -/
theorem reply_keeps (r : ModuleRequest) : ∃ library ran,
    (m.reply r).2 = { m with library, ran } ∧ (r ≠ .close → library = m.library) := by
  have still {m' : PlainModule} (h : m.RunsInto m') : ∃ library ran,
      m' = { m with library, ran } ∧ (r ≠ .close → library = m.library) := by
    obtain ⟨ran, rfl⟩ := h
    exact ⟨m.library, ran, rfl, fun _ => rfl⟩
  cases r with
  | lookUp entry => exact still (.refl m)
  | declare scripts c => exact still (m.runsInto_declare scripts c)
  | create scripts c name ids => exact still (m.runsInto_create scripts c name ids)
  | close => exact ⟨none, m.ran, rfl, fun never => absurd rfl never⟩

/-- A closed module refuses everything, and nothing is run. -/
theorem reply_of_closed (closed : m.library = none) (r : ModuleRequest) :
    m.reply r = (r.refusal m.className m.path m.proxy, m) := by
  have asked (entry : EntryPoint) : m.ask entry = .error (.moduleClosed m.path) := by
    rw [ask, closed]
  cases r with
  | lookUp entry => simp only [reply, asked, ModuleRequest.refusal]
  | declare scripts c => simp only [reply, declare, asked, ModuleRequest.refusal]
  | create scripts c name ids =>
    simp only [reply, create, asked, ModuleRequest.refusal]
    split <;> rfl
  | close =>
    obtain ⟨className, path, proxy, library, ran⟩ := m
    obtain rfl : library = none := closed
    rfl

/-! ### Any number of requests of a plain module -/

/-- Requests change what a plain module has run, and its library only if one of them closes it. -/
theorem serveAll_keeps (rs : List ModuleRequest) : ∃ library ran,
    (serveAll reply m rs).2 = { m with library, ran } ∧ (.close ∉ rs → library = m.library) := by
  induction rs generalizing m with
  | nil => exact ⟨m.library, m.ran, rfl, fun _ => rfl⟩
  | cons r rest ih =>
    obtain ⟨library, ran, one, stays⟩ := m.reply_keeps r
    obtain ⟨library', ran', all, stays'⟩ := ih (m.reply r).2
    refine ⟨library', ran', ?_, fun never => ?_⟩
    · rw [serveAll, all, one]
    · rw [List.mem_cons, not_or] at never
      rw [stays' never.2, one]
      exact stays (Ne.symm never.1)

/-- A closed module stays as it is. -/
theorem serveAll_of_closed (closed : m.library = none) (rs : List ModuleRequest) :
    (serveAll reply m rs).2 = m := by
  induction rs with
  | nil => rfl
  | cons r rest ih => rw [serveAll, m.reply_of_closed closed r, ih]

end PlainModule

/-! ### A module and what it remembers -/

/-- The entry point that was run, if one was. -/
def Contact.ran? : Contact → Option EntryPoint
  | .ran entry => some entry
  | .lookedUp _ => none

namespace Plugin

/-- The module without its memory. -/
def plain (p : Plugin) : PlainModule :=
  { className := p.className, path := p.path, proxy := p.proxy, library := p.library
    ran := p.journal.filterMap Contact.ran? }

/-- Do what is asked. -/
def reply (p : Plugin) : ModuleRequest → ModuleReply × Plugin
  | .lookUp entry => (.entry (p.resolve entry).1, (p.resolve entry).2)
  | .declare scripts c =>
      match p.declare scripts c with
      | (result, left, p) => (.declared result left, p)
  | .create scripts c name ids =>
      match p.create scripts c name ids with
      | (result, p, left) => (.created result left, p)
  | .close => (.closed, p.close)

/-- What a module remembers is what its library would answer now, and what it has asked for it
remembers, as long as it is open. -/
structure Coherent (p : Plugin) : Prop where
  /-- An answer that is remembered is what the library would answer. -/
  known (entry : EntryPoint) (answer : Except Error Code) :
    p.known.lookup entry = some answer → answer = p.plain.ask entry
  /-- The library was asked at most once for each entry point. -/
  once (entry : EntryPoint) : p.journal.count (.lookedUp entry) ≤ 1
  /-- While the module is open, it has asked for nothing that it does not remember. -/
  asked (entry : EntryPoint) :
    p.library ≠ none → p.known.lookup entry = none → .lookedUp entry ∉ p.journal

variable {p : Plugin}

/-- Running an entry point is the same without the answers. -/
@[simp] theorem plain_running (p : Plugin) (entry : EntryPoint) :
    (p.running entry).plain = p.plain.running entry := rfl

/-- Running an entry point leaves the answers as they are. -/
theorem Coherent.running (h : p.Coherent) (entry : EntryPoint) : (p.running entry).Coherent where
  known := h.known
  once entry' := by
    rw [Plugin.running, List.count_cons_of_ne (by simp)]
    exact h.once entry'
  asked entry' isOpen unknown there := by
    rcases List.mem_cons.1 there with other | there
    · cases other
    · exact h.asked entry' isOpen unknown there

/-- The module once it has looked up an entry point and remembers the answer. -/
def learned (p : Plugin) (entry : EntryPoint) : Plugin :=
  { p with
    known := (entry, p.ask entry) :: p.known
    journal := if p.isOpen then .lookedUp entry :: p.journal else p.journal }

/-- To learn an answer is nothing to the module without its answers. -/
theorem plain_learned (p : Plugin) (entry : EntryPoint) : (p.learned entry).plain = p.plain := by
  unfold plain learned
  dsimp only
  split <;> rfl

/-- An answer is about its own entry point only. -/
theorem lookup_learned_of_ne (p : Plugin) {entry entry' : EntryPoint} (other : entry' ≠ entry) :
    (p.learned entry).known.lookup entry' = p.known.lookup entry' := by
  rw [learned, List.lookup_cons, beq_false_of_ne other]

/-- What was learned is what the library answered. -/
theorem lookup_learned_self (p : Plugin) (entry : EntryPoint) :
    (p.learned entry).known.lookup entry = some (p.ask entry) := List.lookup_cons_self

/-- What a module looks up is what it does not remember. -/
theorem Coherent.learned (h : p.Coherent) {entry : EntryPoint}
    (unknown : p.known.lookup entry = none) : (p.learned entry).Coherent where
  known entry' answer there := by
    by_cases here : entry' = entry
    · subst here
      rw [lookup_learned_self] at there
      exact (Option.some.inj there).symm
    · rw [lookup_learned_of_ne p here] at there
      exact h.known entry' answer there
  once entry' := by
    unfold Plugin.learned
    dsimp only
    split
    · rename_i isOpen
      by_cases here : entry' = entry
      · subst here
        have first := h.asked entry' (Option.isSome_iff_ne_none.1 isOpen) unknown
        exact Nat.le_of_eq (by rw [List.count_cons_self, List.count_eq_zero.2 first])
      · rw [List.count_cons_of_ne (by simpa using Ne.symm here)]
        exact h.once entry'
    · exact h.once entry'
  asked entry' isOpen unknown' there := by
    have other : entry' ≠ entry := by
      rintro rfl
      rw [lookup_learned_self] at unknown'
      cases unknown'
    rw [lookup_learned_of_ne p other] at unknown'
    have isOpen' : p.isOpen = true := Option.isSome_iff_ne_none.2 isOpen
    unfold Plugin.learned at there
    rw [if_pos isOpen'] at there
    rcases List.mem_cons.1 there with same | there
    · exact other (Contact.lookedUp.inj same)
    · exact h.asked entry' isOpen unknown' there

/-- Looking up an entry point gives what the library would answer, and cannot be seen from outside.
-/
theorem Coherent.resolve (h : p.Coherent) (entry : EntryPoint) :
    (p.resolve entry).1 = p.plain.ask entry ∧ (p.resolve entry).2.plain = p.plain ∧
      (p.resolve entry).2.Coherent := by
  unfold Plugin.resolve
  rcases known : p.known.lookup entry with _ | answer
  · exact ⟨rfl, p.plain_learned entry, h.learned known⟩
  · exact ⟨h.known entry answer known, rfl, h⟩

/-- A closed module remembers nothing. -/
theorem Coherent.close (h : p.Coherent) : p.close.Coherent where
  known entry answer there := by cases there
  once := h.once
  asked entry isOpen := absurd rfl isOpen

/-! ### Requests -/

/-- The two do alike: the same reply, and the same is left but for the memory. -/
def Matches (made : ModuleReply × Plugin) (plain : ModuleReply × PlainModule) : Prop :=
  made.1 = plain.1 ∧ made.2.plain = plain.2 ∧ made.2.Coherent

/-- A declaration is replied to alike, and leaves the two alike. -/
theorem Coherent.declare (h : p.Coherent) (scripts : Scripts) (c : SceneClass) :
    Matches (p.reply (.declare scripts c)) (p.plain.declare scripts c) := by
  obtain ⟨answer, same, h'⟩ := h.resolve .declare
  simp only [Plugin.reply, Plugin.declare, PlainModule.declare]
  generalize p.resolve .declare = resolved at answer same h' ⊢
  obtain ⟨_, q⟩ := resolved
  obtain rfl := answer
  rcases p.plain.ask .declare with e | code
  · exact ⟨rfl, same, h'⟩
  have ran : (q.running .declare).plain = p.plain.running .declare := by rw [plain_running, same]
  have h'' := Coherent.running h' .declare
  dsimp only
  rcases (code.script scripts c.name).run c with ⟨i | e | _, c'⟩ <;> exact ⟨rfl, ran, h''⟩

/-- So is the making of an object. -/
theorem Coherent.create (h : p.Coherent) (scripts : Scripts) (c : SceneClass) (name : String)
    (ids : IdSource) :
    Matches (p.reply (.create scripts c name ids)) (p.plain.create scripts c name ids) := by
  simp only [Plugin.reply, Plugin.create_eq, PlainModule.create]
  by_cases proxy : p.proxy = true
  · rw [if_pos proxy, if_pos (show p.plain.proxy = true from proxy)]
    exact ⟨rfl, rfl, h⟩
  rw [if_neg proxy, if_neg (show ¬ p.plain.proxy = true from proxy)]
  obtain ⟨answer, same, h'⟩ := h.resolve .create
  generalize p.resolve .create = resolved at answer same h' ⊢
  obtain ⟨_, q⟩ := resolved
  obtain rfl := answer
  rcases p.plain.ask .create with e | code
  · exact ⟨rfl, same, h'⟩
  obtain ⟨answer, same', h''⟩ := Coherent.resolve h' .destroy
  rw [same] at answer same'
  dsimp only
  generalize q.resolve .destroy = resolved at answer same' h'' ⊢
  obtain ⟨_, q'⟩ := resolved
  obtain rfl := answer
  rcases p.plain.ask .destroy with e | code'
  · exact ⟨rfl, same', h''⟩
  have named : (q'.running .create).className = p.plain.className :=
    congrArg PlainModule.className same'
  have ran : (q'.running .create).plain = p.plain.running .create := by rw [plain_running, same']
  have destroyed : ((q'.running .create).running .destroy).plain =
      (p.plain.running .create).running .destroy := by rw [plain_running, ran]
  have made := Coherent.running h'' .create
  dsimp only
  split
  · exact ⟨rfl, same', h''⟩
  · rw [named]
    rcases (code.script scripts c.name).creation.run c name ids with ⟨_ | o, ids'⟩
    · exact ⟨rfl, ran, made⟩
    · dsimp only
      split
      · exact ⟨rfl, ran, made⟩
      · exact ⟨rfl, destroyed, made.running .destroy⟩

/-- **One request** is replied to as by a module that keeps no answers. -/
theorem Coherent.reply (h : p.Coherent) (r : ModuleRequest) :
    Matches (p.reply r) (p.plain.reply r) := by
  cases r with
  | lookUp entry =>
    obtain ⟨answer, same, h'⟩ := h.resolve entry
    exact ⟨congrArg ModuleReply.entry answer, same, h'⟩
  | declare scripts c => exact h.declare scripts c
  | create scripts c name ids => exact h.create scripts c name ids
  | close => exact ⟨rfl, rfl, h.close⟩

/-- Looking up an entry point of a closed module fails, and its library is not asked. -/
theorem Coherent.resolve_of_closed (h : p.Coherent) (closed : p.library = none)
    (entry : EntryPoint) : (p.resolve entry).1 = .error (.moduleClosed p.path) ∧
      (p.resolve entry).2.journal = p.journal := by
  constructor
  · rw [(h.resolve entry).1, PlainModule.ask, plain, closed]
  · have shut : ¬ p.isOpen = true := by simp [isOpen, closed]
    unfold Plugin.resolve
    split
    · rfl
    · exact if_neg shut

/-- A closed module asks for nothing, and nothing of it is run. -/
theorem Coherent.journal_of_closed (h : p.Coherent) (closed : p.library = none)
    (r : ModuleRequest) : (p.reply r).2.journal = p.journal := by
  cases r with
  | lookUp entry => exact (h.resolve_of_closed closed entry).2
  | declare scripts c =>
    obtain ⟨refused, unasked⟩ := h.resolve_of_closed closed .declare
    simp only [Plugin.reply, Plugin.declare]
    generalize p.resolve .declare = resolved at refused unasked ⊢
    obtain ⟨_, q⟩ := resolved
    obtain rfl := refused
    exact unasked
  | create scripts c name ids =>
    obtain ⟨refused, unasked⟩ := h.resolve_of_closed closed .create
    simp only [Plugin.reply, Plugin.create_eq]
    split
    · rfl
    generalize p.resolve .create = resolved at refused unasked ⊢
    obtain ⟨_, q⟩ := resolved
    obtain rfl := refused
    exact unasked
  | close => rfl

/-! ### Any number of requests -/

/-- The replies to requests, one after the other. -/
def replies (p : Plugin) (rs : List ModuleRequest) : List ModuleReply := (serveAll reply p rs).1

/-- The module after requests. -/
def after (p : Plugin) (rs : List ModuleRequest) : Plugin := (serveAll reply p rs).2

/-- **Any requests** are replied to as by a module that keeps no answers. -/
theorem Coherent.serveAll (h : p.Coherent) (rs : List ModuleRequest) :
    p.replies rs = (serveAll PlainModule.reply p.plain rs).1 ∧
      (p.after rs).plain = (serveAll PlainModule.reply p.plain rs).2 ∧ (p.after rs).Coherent := by
  induction rs generalizing p with
  | nil => exact ⟨rfl, rfl, h⟩
  | cons r rest ih =>
    obtain ⟨replied, left, h'⟩ := h.reply r
    obtain ⟨replies, after, h''⟩ := ih h'
    rw [left] at replies after
    exact ⟨List.cons_eq_cons.2 ⟨replied, replies⟩, after, h''⟩

/-- A closed module is in contact with nothing any more. -/
theorem Coherent.journal_after_of_closed (h : p.Coherent) (closed : p.library = none)
    (rs : List ModuleRequest) : (p.after rs).journal = p.journal := by
  induction rs generalizing p with
  | nil => rfl
  | cons r rest ih =>
    obtain ⟨-, left, h'⟩ := h.reply r
    rw [PlainModule.reply_of_closed _ closed] at left
    have closed' : (p.reply r).2.library = none := (congrArg PlainModule.library left).trans closed
    exact (ih h' closed').trans (h.journal_of_closed closed r)

/-! ### Before and after a module is closed -/

/-- A module stays open with the same library until it is closed. -/
theorem Coherent.library_after (h : p.Coherent) {rs : List ModuleRequest} (never : .close ∉ rs) :
    (p.after rs).library = p.library := by
  obtain ⟨-, left, -⟩ := h.serveAll rs
  obtain ⟨library, ran, kept, stays⟩ := p.plain.serveAll_keeps rs
  rw [kept] at left
  exact (congrArg PlainModule.library left).trans (stays never)

/-- A closed module refuses everything. -/
theorem Coherent.refuses (h : p.Coherent) (closed : p.library = none) (r : ModuleRequest) :
    (p.reply r).1 = r.refusal p.className p.path p.proxy := by
  rw [(h.reply r).1, p.plain.reply_of_closed closed]
  rfl

/-- Closing a closed module makes no difference to anything that is asked of it later. -/
theorem Coherent.close_again (h : p.Coherent) (closed : p.library = none) :
    (p.reply .close).2.plain = p.plain ∧
      ∀ more, (p.reply .close).2.replies more = p.replies more := by
  obtain ⟨-, again, h'⟩ := h.reply .close
  rw [p.plain.reply_of_closed closed] at again
  refine ⟨again, fun more => ?_⟩
  rw [(h'.serveAll more).1, again]
  exact (h.serveAll more).1.symm

/-- Once closed, a module is as closing it has left it, whatever was asked of it since. -/
theorem Coherent.after_close (h : p.Coherent) (before later : List ModuleRequest) :
    (p.after (before ++ .close :: later)).plain = (p.after before).close.plain ∧
      (p.after (before ++ .close :: later)).journal = (p.after before).journal ∧
      (p.after (before ++ .close :: later)).Coherent := by
  have closing : p.after (before ++ .close :: later) = (p.after before).close.after later :=
    serveAll_append Plugin.reply p before (.close :: later)
  have h' := (h.serveAll before).2.2.close
  obtain ⟨-, left, h''⟩ := h'.serveAll later
  rw [PlainModule.serveAll_of_closed _ rfl] at left
  rw [closing]
  exact ⟨left, h'.journal_after_of_closed rfl later, h''⟩

/-- The class name, the path and the mode are those that the module was opened with. -/
theorem Coherent.settings_after (h : p.Coherent) (rs : List ModuleRequest) :
    (p.after rs).className = p.className ∧ (p.after rs).path = p.path ∧
      (p.after rs).proxy = p.proxy := by
  obtain ⟨-, left, -⟩ := h.serveAll rs
  obtain ⟨library, ran, kept, -⟩ := p.plain.serveAll_keeps rs
  rw [kept] at left
  exact ⟨congrArg PlainModule.className left, congrArg PlainModule.path left,
    congrArg PlainModule.proxy left⟩

/-! ### Modules that were opened -/

/-- A module that was just opened remembers nothing yet. -/
theorem coherent_opened (className path : String) (proxy : Bool) (l : Library) :
    (opened className path proxy l).Coherent where
  known entry answer there := by cases there
  once entry := Nat.zero_le 1
  asked entry isOpen unknown := List.not_mem_nil

/-- **A module that remembers cannot be told from one that does not.** Whatever library it was
loaded from, with all entry points or without, and whatever is asked of it:

* it replies as a module that asks its library each time, and runs what that runs;
* it asks its library at most once for each entry point;
* until it is closed it is open, and looking up an entry point gives what the library answers;
* once it is closed it is so for good: everything is refused, no class is touched, nothing is looked
  up or run any more, and closing it again makes no difference to anything. -/
theorem replies_opened (className path : String) (proxy : Bool) (l : Library) :
    let p := opened className path proxy l
    (∀ rs, p.replies rs = (SceneSchema.serveAll PlainModule.reply p.plain rs).1 ∧
      (p.after rs).plain = (SceneSchema.serveAll PlainModule.reply p.plain rs).2) ∧
    (∀ rs entry, (p.after rs).journal.count (.lookedUp entry) ≤ 1) ∧
    (∀ rs, .close ∉ rs → (p.after rs).isOpen = true ∧
      ∀ entry, ((p.after rs).reply (.lookUp entry)).1 = .entry (l.answer path entry)) ∧
    ∀ before later,
      let q := p.after (before ++ .close :: later)
      q.isOpen = false ∧ (∀ r, (q.reply r).1 = r.refusal className path proxy) ∧
      q.journal = (p.after before).journal ∧
      (q.reply .close).2.plain = q.plain ∧ (q.reply .close).2.journal = q.journal ∧
      ∀ more, (q.reply .close).2.replies more = q.replies more := by
  intro p
  have coherent : p.Coherent := coherent_opened className path proxy l
  refine ⟨fun rs => ?_, fun rs entry => (coherent.serveAll rs).2.2.once entry, fun rs never => ?_,
    fun before later => ?_⟩
  · obtain ⟨replies, after, -⟩ := coherent.serveAll rs
    exact ⟨replies, after⟩
  · have library : (p.after rs).library = some l := coherent.library_after never
    obtain ⟨-, path_eq, -⟩ := coherent.settings_after rs
    refine ⟨by rw [isOpen, library]; rfl, fun entry => ?_⟩
    rw [((coherent.serveAll rs).2.2.reply (.lookUp entry)).1, PlainModule.reply, PlainModule.ask,
      plain, library, path_eq]
    rfl
  · intro q
    obtain ⟨left, journal, q_coherent⟩ := coherent.after_close before later
    have closed : q.library = none := congrArg PlainModule.library left
    obtain ⟨className_eq, path_eq, proxy_eq⟩ := coherent.settings_after (before ++ .close :: later)
    obtain ⟨again, replies⟩ := q_coherent.close_again closed
    refine ⟨by rw [isOpen, closed]; rfl, fun r => ?_, journal, again, rfl, replies⟩
    rw [q_coherent.refuses closed r, className_eq, path_eq, proxy_eq]
    rfl

/-- A library without the entry point that destroys objects, and with none behind the one that
creates them. -/
def unfinishedLibrary : Library :=
  { declare := .present, create := .null, destroy := .missing, code := .scripted }

/-- The statement at a module of it: after an object was asked for in vain, and once it is closed.
-/
theorem replies_opened_unfinished :
    let p := opened "Lamp" "lib/Lamp.so" false unfinishedLibrary
    let before : List ModuleRequest := [.lookUp .create, .create [] (.new ⟨0⟩ "Lamp") "key" {}]
    .close ∉ before ∧ (p.after before).isOpen = true ∧
    ((p.after before).reply (.lookUp .create)).1 =
      .entry (.error (.symbolNotFound "rdl2_create" "lib/Lamp.so" .nullAddress)) ∧
    (p.after before).journal.count (.lookedUp .create) ≤ 1 ∧
    (p.after (before ++ [.close])).isOpen = false ∧
    ((p.after (before ++ [.close])).reply (.lookUp .declare)).1 =
      .entry (.error (.moduleClosed "lib/Lamp.so")) := by
  intro p before
  obtain ⟨-, once, isOpen, closed⟩ :=
    replies_opened "Lamp" "lib/Lamp.so" false unfinishedLibrary
  have never : .close ∉ before := by simp [before]
  obtain ⟨stillOpen, answers⟩ := isOpen before never
  obtain ⟨shut, refuses, -⟩ := closed before []
  exact ⟨never, stillOpen, answers .create, once before .create, shut, refuses (.lookUp .declare)⟩

end Plugin

end SceneSchema
