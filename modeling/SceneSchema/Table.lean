/-!
# Tables

A table is a list of keys with values, in the order in which the keys were first put. Putting a key
that is there already changes its value where it stands.

Main statements: `lookup_put_self` and `lookup_put_of_ne`, what looking up finds after a put, and
`keys_put`, which keys there are and in which order; `lookup_eq_some_iff_mem`, without repeated keys
looking up finds the entry that is there.
-/

namespace SceneSchema

/-- Keys with values, in order. -/
abbrev Table (κ β : Type) := List (κ × β)

namespace Table

variable {κ β : Type}

/-- The keys in order. -/
def keys (t : Table κ β) : List κ := List.map Prod.fst t

variable [BEq κ]

/-- The table with a value under a key: in place of the value there, or at the end. -/
def put (key : κ) (value : β) : Table κ β → Table κ β
  | [] => [(key, value)]
  | (k, old) :: rest => if k == key then (k, value) :: rest else (k, old) :: put key value rest

/-- An entry of a table after a put was there before, or has the value that was put. -/
theorem mem_put {key : κ} {value : β} {t : Table κ β} {e : κ × β} (h : e ∈ put key value t) :
    e ∈ t ∨ e.2 = value := by
  induction t with
  | nil =>
    obtain rfl := List.mem_singleton.1 h
    exact .inr rfl
  | cons first rest ih =>
    rw [put] at h
    split at h
    · rcases List.mem_cons.1 h with rfl | old
      · exact .inr rfl
      · exact .inl (List.mem_cons_of_mem _ old)
    · rcases List.mem_cons.1 h with rfl | h
      · exact .inl List.mem_cons_self
      · exact (ih h).imp_left (List.mem_cons_of_mem _)

variable [LawfulBEq κ]

/-- What looking up finds is there. -/
theorem mem_of_lookup {key : κ} {value : β} {t : Table κ β} (found : t.lookup key = some value) :
    (key, value) ∈ t := by
  obtain ⟨before, after, rfl, -⟩ := List.lookup_eq_some_iff.1 found
  simp

/-- What was put under a key is found under it. -/
theorem lookup_put_self (key : κ) (value : β) (t : Table κ β) :
    (put key value t).lookup key = some value := by
  induction t with
  | nil => simp [put]
  | cons e rest ih =>
    obtain ⟨k, old⟩ := e
    simp only [put]
    split
    · rename_i h; simp [eq_of_beq h]
    · rename_i apart
      have other : (key == k) = false := by
        rw [beq_eq_false_iff_ne]; rintro rfl; exact apart (beq_self_eq_true key)
      simp [List.lookup_cons, other, ih]

/-- Other keys are not affected. -/
theorem lookup_put_of_ne {key name : κ} (h : name ≠ key) (value : β) (t : Table κ β) :
    (put key value t).lookup name = t.lookup name := by
  have other : (name == key) = false := beq_eq_false_iff_ne.2 h
  induction t with
  | nil => simp [put, List.lookup_cons, other]
  | cons e rest ih =>
    obtain ⟨k, old⟩ := e
    simp only [put]
    split
    · rename_i same
      rw [eq_of_beq same]
      simp [List.lookup_cons, other]
    · simp [List.lookup_cons, ih]

/-- A key that is there keeps its place, and a new one comes last. -/
theorem keys_put (key : κ) (value : β) (t : Table κ β) :
    keys (put key value t) = if keys t |>.contains key then keys t else keys t ++ [key] := by
  induction t with
  | nil => rfl
  | cons e rest ih =>
    obtain ⟨k, old⟩ := e
    by_cases h : k = key
    · subst h; simp [keys, put]
    · have h' : ¬ key = k := fun e => h e.symm
      have step : put key value ((k, old) :: rest) = (k, old) :: put key value rest := by
        simp [put, h]
      simp only [keys] at ih
      simp only [keys, step, List.map_cons, ih]
      by_cases m : key ∈ rest.map Prod.fst <;> simp [h', m]

end Table

/-- In a table without repeated keys, looking up finds the entry that is there. -/
theorem lookup_eq_some_iff_mem {κ β : Type} [BEq κ] [LawfulBEq κ] {t : List (κ × β)}
    (nodup : (t.map Prod.fst).Nodup) {k : κ} {v : β} : t.lookup k = some v ↔ (k, v) ∈ t := by
  induction t with
  | nil => simp
  | cons e rest ih =>
    obtain ⟨k', v'⟩ := e
    rw [List.map_cons, List.nodup_cons] at nodup
    obtain ⟨new, nodup⟩ := nodup
    by_cases here : k = k'
    · subst here
      have elsewhere : (k, v) ∉ rest := fun h => new (List.mem_map.2 ⟨_, h, rfl⟩)
      simp [elsewhere, eq_comm]
    · have other : (k == k') = false := by simpa using here
      simp [List.lookup_cons, other, here, ih nodup]

/-- Nothing is found exactly under keys that are not there. -/
theorem lookup_eq_none_iff_not_mem {κ β : Type} [BEq κ] [LawfulBEq κ] {t : List (κ × β)} {k : κ} :
    t.lookup k = none ↔ k ∉ t.map Prod.fst := by
  rw [List.lookup_eq_none_iff]
  simp only [List.mem_map, bne_iff_ne, ne_eq]
  constructor
  · rintro none ⟨p, there, rfl⟩
    exact none p there rfl
  · intro none p there same
    exact none ⟨p, there, same.symm⟩

/-- What is left of a list without its repetitions. -/
theorem nodup_eraseDups {α : Type} [BEq α] [LawfulBEq α] (l : List α) : l.eraseDups.Nodup := by
  rcases l with _ | ⟨a, rest⟩
  · exact List.nodup_nil
  · rw [List.eraseDups_cons, List.nodup_cons]
    exact ⟨by simp, nodup_eraseDups _⟩
termination_by l.length
decreasing_by exact Nat.lt_succ_of_le (List.length_filter_le ..)

end SceneSchema
