import SceneSchema.Plugin.Loaded
import SceneSchema.Proofs.Wire.Sentence

/-!
# What crosses the boundary of a module

Entry points are called as C functions, which give neither errors nor texts. So a module is lent the
class that it declares, and gives back nothing but its roles; if the declaration fails it gives back
no roles, and notes the error on the class, where only the first one is noted (`LentClass`,
`Script.declareEntry`). Whoever has lent the class takes the error off it again (`LentClass.take`).
And the name of an object is handed over as bytes that end before the first zero (`handedOver?`,
`arrived?`).

* `Plugin.declare_eq_take` — **nothing of a declaration is lost on the way**: what the lender makes
  of what comes back is what the code gave.
* `arrived?_eq_self_iff` — **a name arrives as it was exactly if there is no zero in it**. No other
  name is handed over, so the code of a module is run with the name that was asked for
  (`Creation.runEntry_of_handedOver?`).
* `Plugin.create_eq` — so making an object can be read without the way that its name goes.
-/

namespace SceneSchema

open Wire

/-! ### Declarations -/

/-- A class that is lent to a module, with the error that is noted on it. -/
structure LentClass where
  /-- The class as it is so far. -/
  sceneClass : SceneClass
  /-- The first error of its declaration. -/
  noted : Option Error := none

namespace LentClass

/-- The class with an error noted on it, unless there is one. -/
def note (lent : LentClass) (e : Error) : LentClass :=
  match lent.noted with
  | none => { lent with noted := some e }
  | some _ => lent

/-- What the lender makes of the roles and the class that come back. -/
def take (back : Interface × LentClass) : Except Error Interface × LentClass :=
  match back.2.noted with
  | some e => (.error e, { back.2 with noted := none })
  | none =>
      (.ok back.1, { back.2 with sceneClass := (back.2.sceneClass.withInterface back.1).finalize })

end LentClass

/-- What the entry point for declarations does, in a module whose code runs the script: the roles
that it gives back, and the class. -/
def Script.declareEntry (s : Script) (lent : LentClass) : Interface × LentClass :=
  match s.run lent.sceneClass with
  | (.declared i, c) => (i, { lent with sceneClass := c })
  | (.failed e, c) => (.empty, { lent with sceneClass := c : LentClass }.note e)
  | (.panicked, c) =>
      (.empty, { lent with sceneClass := c : LentClass }.note
        (.declarationFailed c.name "declare panicked"))

/-- **Nothing of a declaration is lost on the way**, and nothing stays noted on the class. -/
theorem Plugin.declare_eq_take {p : Plugin} {code : Code}
    (found : (p.resolve .declare).1 = .ok code) (scripts : Scripts) (c : SceneClass) :
    LentClass.take ((code.script scripts c.name).declareEntry ⟨c, none⟩) =
      ((p.declare scripts c).1, ⟨(p.declare scripts c).2.1, none⟩) := by
  unfold Plugin.declare Script.declareEntry
  generalize p.resolve .declare = resolved at found ⊢
  obtain ⟨result, q⟩ := resolved
  obtain rfl : result = .ok code := found
  dsimp only
  rcases (code.script scripts c.name).run c with ⟨i | e | _, c'⟩ <;> rfl

/-! ### Names -/

/-- The only character with a zero among its bytes is the one that is encoded as zero. -/
theorem zero_mem_utf8EncodeChar {c : Char} : 0 ∈ String.utf8EncodeChar c ↔ c = '\x00' := by
  have zero : c = '\x00' ↔ c.val.toNat = 0 := by
    rw [← Char.val_inj, ← UInt32.toNat_inj]
    rfl
  have byte (n : Nat) : (0 : UInt8) = UInt8.ofNat n ↔ n % 256 = 0 := by
    rw [← UInt8.toNat_inj, UInt8.toNat_ofNat']
    exact eq_comm
  rw [zero]
  unfold String.utf8EncodeChar
  dsimp only
  -- a character of several bytes has a mark in each of them
  repeat' split
  all_goals
    simp only [List.mem_cons, List.not_mem_nil, or_false, byte]
    omega

/-- A text has a zero byte exactly if it has the zero character. -/
theorem zero_mem_utf8Bytes {name : String} : 0 ∈ utf8Bytes name ↔ '\x00' ∈ name.toList := by
  simp only [utf8Bytes_eq_flatMap, List.mem_flatMap, zero_mem_utf8EncodeChar, exists_eq_right]

/-- **A name arrives as it was exactly if there is no zero in it.** -/
theorem arrived?_eq_self_iff {name : String} :
    arrived? (utf8Bytes name ++ [0]) = some name ↔ '\x00' ∉ name.toList := by
  rw [← zero_mem_utf8Bytes, arrived?]
  constructor
  · intro whole zero
    rw [utf8Bytes_of_textOfUtf8? whole] at zero
    have nonzero := List.all_eq_true.1 List.all_takeWhile _ zero
    exact absurd rfl (of_decide_eq_true nonzero)
  · intro free
    have kept : (utf8Bytes name ++ [0]).takeWhile (· ≠ 0) = utf8Bytes name := by
      rw [List.takeWhile_append_of_pos]
      · simp
      · intro b there
        exact decide_eq_true fun zero => free (zero ▸ there)
    rw [kept, textOfUtf8?_utf8Bytes]

/-- So the code of a module is run with the name that was asked for. -/
theorem Creation.runEntry_of_handedOver? {name : String} {bytes : List UInt8}
    (handed : handedOver? name = some bytes) (how : Creation) (c : SceneClass) (ids : IdSource) :
    how.runEntry c bytes ids = how.run c name ids := by
  unfold handedOver? at handed
  split at handed
  · cases handed
  · rename_i free
    obtain rfl := Option.some.inj handed
    have arrives := arrived?_eq_self_iff.2 (mt List.contains_iff_mem.2 free)
    rw [runEntry, arrives]

/-- **Making an object, without the way that its name goes**: a module is asked for an object unless
there is a zero in the name, and its code is run with this name. -/
theorem Plugin.create_eq (p : Plugin) (scripts : Scripts) (c : SceneClass) (name : String)
    (ids : IdSource) : p.create scripts c name ids =
      if p.proxy then (.error (.proxyMode p.className), p, ids)
      else
        match p.resolve .create with
        | (.error e, p) => (.error e, p, ids)
        | (.ok code, p) =>
            match p.resolve .destroy with
            | (.error e, p) => (.error e, p, ids)
            | (.ok _, p) =>
                if name.toList.contains '\x00' then
                  (.error (.invalidData (.nulInName name)), p, ids)
                else
                  let p := p.running .create
                  let failed := Error.createFailed p.className name
                  match (code.script scripts c.name).creation.run c name ids with
                  | (none, ids) => (.error failed, p, ids)
                  | (some o, ids) =>
                      if o.sceneClass.id = c.id then (.ok o, p, ids)
                      else (.error failed, p.running .destroy, ids) := by
  unfold create
  by_cases makes : p.proxy = true
  · rw [if_pos makes, if_pos makes]
  rw [if_neg makes, if_neg makes]
  rcases p.resolve .create with ⟨e | code, p₁⟩
  · rfl
  dsimp only
  rcases p₁.resolve .destroy with ⟨e | code', p₂⟩
  · rfl
  dsimp only
  by_cases nul : name.toList.contains '\x00' = true
  · have none : handedOver? name = none := if_pos nul
    rw [none, if_pos nul]
  · have handed : handedOver? name = some (utf8Bytes name ++ [0]) := if_neg nul
    have entry := (code.script scripts c.name).creation.runEntry_of_handedOver? handed c ids
    rw [handed, if_neg nul]
    -- the module's code gives the same for the bytes as for the name
    rcases run : (code.script scripts c.name).creation.run c name ids with ⟨_ | o, ids'⟩
    all_goals
      rw [run] at entry
      simp only [entry]

end SceneSchema
