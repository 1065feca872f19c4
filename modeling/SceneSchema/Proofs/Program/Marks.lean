import SceneSchema.Proofs.Object.Marks
import SceneSchema.Proofs.Program.Invariant

/-!
# The marks of a program's objects

`Program.Opens` are the two ways in which a run of calls starts: with a new object, and with one
whose marks have just been cleared. The **main statement** (`Program.marks_tell`) says what the
marks tell in the end: those slots are marked that one of the calls has written or has given another
value, and all others have the value that they had at the start, or one that compares equal to it.
Reading a slot gives no new object, and is none of the calls.

A copy starts with the marks and values of the original, and goes its own way. To say so of whatever
a program does after it has made the copy, `Program.track` goes along with an object: it gives the
place where the object is in the end, and the calls that have reached it on the way. What has become
of the object depends on these calls alone (`getElem?_run_of_track`), not on what is done to others.
-/

namespace SceneSchema

/-! ### Going along with an object -/

/-- Where the object that is at a place is after the operation, if it is not dropped. -/
def Operation.placeAfter (place : Nat) : Operation → Option Nat
  | .dropObject dropped =>
      if place = dropped then none else if dropped < place then some (place - 1) else some place
  | _ => some place

/-- The call that the operation makes on the object at a place, in a program that has the keys. -/
def Operation.callsAt (keys : List AnyKey) (place : Nat) : Operation → List Call
  | .call there k => if there = place ∧ k.keyAmong keys then [k] else []
  | _ => []

namespace Program

/-- Where the object that is at a place is in the end, and the calls that are made on it; nothing if
it is dropped. -/
def track (p : Program) (place : Nat) : List Operation → Option (Nat × List Call)
  | [] => some (place, [])
  | op :: rest => do
      let next ← op.placeAfter place
      let (final, calls) ← (p.perform op).track next rest
      some (final, op.callsAt p.keys place ++ calls)

variable {p : Program} {o : SceneObject} {place final : Nat}

/-- Objects that are made go to the end, so that the others stay where they are. -/
theorem getElem?_hold (there : p.objects[place]? = some o) (new : SceneObject) :
    (p.hold new).objects[place]? = some o := by
  rw [hold, List.getElem?_append_left (List.getElem?_eq_some_iff.1 there).1]
  exact there

/-- An operation that needs something leaves the object there, whether or not it finds what it
needs. -/
theorem getElem?_given {α : Type} {x : Option α} {next : α → Program}
    (there : p.objects[place]? = some o)
    (each : ∀ a, (next a).objects[place]? = some o) :
    (p.given x next).objects[place]? = some o := by
  rcases x with _ | a
  · exact there
  · exact each a

/-- When another object is dropped, the object is at its new place. -/
theorem getElem?_dropObject (there : p.objects[place]? = some o) {dropped next : Nat}
    (after : (Operation.dropObject dropped).placeAfter place = some next) :
    (p.perform (.dropObject dropped)).objects[next]? = some o := by
  simp only [Operation.placeAfter] at after
  simp only [perform, List.getElem?_eraseIdx]
  split at after
  · cases after
  · split at after <;> cases after
    · rename_i other before
      rw [if_neg (by omega), Nat.sub_add_cancel (by omega)]
      exact there
    · rename_i other behind
      rw [if_pos (by omega)]
      exact there

/-- A call changes the object that it is made on, and no other. -/
theorem getElem?_call (there : p.objects[place]? = some o) (at_ : Nat) (k : Call) :
    (p.perform (.call at_ k)).objects[place]? =
      some (o.afterAll ((Operation.call at_ k).callsAt p.keys place)) := by
  by_cases reaches : at_ = place ∧ k.keyAmong p.keys
  · obtain ⟨rfl, among⟩ := reaches
    obtain ⟨inside, here⟩ := List.getElem?_eq_some_iff.1 there
    simp [perform, given, among, Operation.callsAt, inside, here, SceneObject.afterAll]
  · rw [Operation.callsAt, if_neg reaches]
    refine getElem?_given there fun x => ?_
    split
    · rename_i among
      rw [List.getElem?_set_ne fun here => reaches ⟨here, among⟩]
      exact there
    · exact there

/-- **One operation** makes of an object what the call on it makes of it, if it makes one. -/
theorem getElem?_perform (there : p.objects[place]? = some o) {op : Operation} {next : Nat}
    (after : op.placeAfter place = some next) :
    (p.perform op).objects[next]? = some (o.afterAll (op.callsAt p.keys place)) := by
  cases op with
  | dropObject dropped => exact getElem?_dropObject there after
  | call at_ k =>
    cases after
    exact getElem?_call there at_ k
  | newObject id name =>
    cases after
    exact getElem?_given there fun c => getElem?_hold there _
  | copyObject other =>
    cases after
    exact getElem?_given there fun x => getElem?_hold there x
  | createBy id plugin scripts name =>
    cases after
    exact getElem?_given there fun c => getElem?_given there fun x => getElem?_hold there x
  | createIn at_ w name object =>
    cases after
    exact getElem?_given there fun r => getElem?_given there fun x => getElem?_hold there x.object
  | edit id e =>
    cases after
    refine getElem?_given there fun c => ?_
    split
    · exact getElem?_given there fun c' => there
    · exact there
  | ask id name t =>
    cases after
    exact getElem?_given there fun c => getElem?_given there fun k => there
  | newClass | newRegistry | dropRegistry =>
    cases after
    exact there
  | declareBy | addBuiltin | load | declareIn =>
    cases after
    exact getElem?_given there fun _ => there

/-- **What becomes of an object depends on the calls that are made on it**, and on nothing else. -/
theorem getElem?_run_of_track {ops : List Operation} {calls : List Call}
    (there : p.objects[place]? = some o) (tracked : p.track place ops = some (final, calls)) :
    (p.run ops).objects[final]? = some (o.afterAll calls) := by
  induction ops generalizing p o place calls with
  | nil =>
    cases tracked
    exact there
  | cons op rest ih =>
    simp only [track, Option.bind_eq_bind, Option.bind_eq_some_iff, Prod.exists] at tracked
    obtain ⟨next, after, final', calls', tracked, both⟩ := tracked
    cases both
    rw [SceneObject.afterAll, List.foldl_append]
    exact ih (getElem?_perform there after) tracked

/-! ### From the start of a run to its end -/

/-- A run of calls can start with the object: it is a new one of a class of the program, or one of
the program's objects, with the marks cleared. -/
inductive Opens (p : Program) : SceneObject → Prop
  | new {c : SceneClass} (seen : c ∈ p.classes) (name : String) : p.Opens (.new c name)
  | cleared {o : SceneObject} (held : o ∈ p.objects) : p.Opens o.clearDirty

/-- An object that comes to be held has a slot for each attribute, and no marks. -/
theorem Sound.complete_of_opens (h : p.Sound) (opens : p.Opens o) :
    o.Complete ∧ o.dirtyIndices = [] := by
  cases opens with
  | new seen name =>
    exact ⟨(SceneObject.wellTyped_new (h.classes _ seen).typed name).complete,
      SceneObject.dirtyIndices_new _ _⟩
  | cleared held =>
    exact ⟨(h.objects _ held).2.clearDirty.complete, SceneObject.dirtyIndices_clearDirty _⟩

/-- **Marks tell what was written since the run started.** After any calls on an object, successful
or not and with any arguments, that slot is marked which one of the calls has marked: by writing it,
or by putting back or restoring a value that differs from the one before. Any other slot has the
value that it had at the start, or one that compares equal.

A copy of an object is one more object, with the same values and marks. Whatever the program does
after it has made the copy, original and copy have each seen the calls on them, and no others. -/
theorem marks_tell (ops : List Operation) :
    (∀ o, (run {} ops).Opens o → ∀ calls : List Call, .clearDirty ∉ calls →
      (∀ i, i ∈ (o.afterAll calls).dirtyIndices ↔ o.MarkedBy calls i) ∧
      ∀ i v, o.valueAt? i = some v → i ∉ (o.afterAll calls).dirtyIndices →
        ∃ w, (o.afterAll calls).valueAt? i = some w ∧ (w = v ∨ v.same w = true)) ∧
    ∀ original o, (run {} ops).objects[original]? = some o →
      let copied := (run {} ops).perform (.copyObject original)
      let copy := (run {} ops).objects.length
      copied.objects = (run {} ops).objects ++ [o] ∧
      ∀ place, place = original ∨ place = copy → ∀ (more : List Operation) (final : Nat)
        (calls : List Call), copied.track place more = some (final, calls) →
          (copied.run more).objects[final]? = some (o.afterAll calls) := by
  refine ⟨fun o opens calls since => ?_, fun original o there => ?_⟩
  · obtain ⟨complete, unmarked⟩ := (sound_run ops).complete_of_opens opens
    refine ⟨fun i => ?_, fun i v value => complete.valueAt?_afterAll since value⟩
    rw [complete.mem_dirtyIndices_afterAll_iff since, unmarked]
    simp only [List.not_mem_nil, false_or]
  · have copied : (run {} ops).perform (.copyObject original) = (run {} ops).hold o := by
      rw [perform, there]
      rfl
    refine ⟨by rw [copied, hold], fun place which more final calls tracked => ?_⟩
    refine getElem?_run_of_track ?_ tracked
    rw [copied]
    rcases which with rfl | rfl
    · exact getElem?_hold there o
    · rw [hold, List.getElem?_concat_length]

/-- A class with two numbers, of which one is none by default, and an object of it, written to. -/
def metering : List Operation :=
  [.newClass "Meter", .edit ⟨1⟩ (.declare "gain" ⟨.scalar .float, Single.zero⟩ .empty),
    .edit ⟨1⟩ (.declare "bias" ⟨.scalar .float, Single.quietNaN⟩ .empty), .edit ⟨1⟩ .finalize,
    .newObject ⟨1⟩ "left", .call 0 (.setValueAt 0 ⟨.scalar .float, Single.negativeZero⟩)]

/-- The object, which has a negative zero in the one slot. -/
def meter : SceneObject :=
  { sceneClass :=
      { id := ⟨1⟩
        name := "Meter"
        attributes := [.new "gain" ⟨.scalar .float, Single.zero⟩ .empty 0,
          .new "bias" ⟨.scalar .float, Single.quietNaN⟩ .empty 1]
        names := [("bias", 1), ("gain", 0)]
        finalized := true }
    name := "left"
    interface := .generic
    slots := [⟨⟨.scalar .float, Single.negativeZero⟩, true⟩,
      ⟨⟨.scalar .float, Single.quietNaN⟩, false⟩] }

/-- The statement at a new object that is restored from the snapshot of this one: the slot that gets
the other zero is not marked, and the slot that gets back the same bits is, since they are no
number. And of original and copy, the one is written and dropped, and the other keeps its values. -/
theorem marks_tell_meter :
    (∃ w, ((SceneObject.new meter.sceneClass "right").afterAll
        [.restore meter.snapshot, .restore []]).valueAt? 0 = some w ∧
      (w = ⟨.scalar .float, Single.zero⟩ ∨ Value.same ⟨.scalar .float, Single.zero⟩ w = true)) ∧
    (SceneObject.new meter.sceneClass "right").MarkedBy
      [.restore meter.snapshot, .restore []] 1 ∧
    (((run {} metering).perform (.copyObject 0)).run
      [.call 0 .resetAll, .call 1 .clearDirty, .dropObject 0]).objects[0]? =
        some meter.clearDirty := by
  have held : (run {} metering).objects[0]? = some meter := by decide +kernel
  have seen : meter.sceneClass ∈ (run {} metering).classes := by decide +kernel
  have opens : (run {} metering).Opens (.new meter.sceneClass "right") := .new seen "right"
  obtain ⟨marks, copies⟩ := marks_tell metering
  obtain ⟨marked, unmarked⟩ :=
    marks _ opens [.restore meter.snapshot, .restore []] (by simp)
  refine ⟨unmarked 0 _ rfl (by decide +kernel), (marked 1).1 (by decide +kernel), ?_⟩
  exact (copies 0 meter held).2 1 (.inr (by decide +kernel)) _ 0 [.clearDirty] rfl

end Program

end SceneSchema
