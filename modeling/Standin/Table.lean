/-
Tables by name, in the order of first entries.

A table is a list of entries; a name counts by its first entry, and putting a
value under a name that is there already keeps the entry's place.  What a table
holds is what `get?` reads; the equations below say how each operation changes
that.
-/

set_option autoImplicit false

namespace Standin

/-- A table by name. -/
abbrev Table (α : Type) := List (String × α)

namespace Table

variable {α : Type}

/-- What the table holds under a name. -/
def get? : Table α → String → Option α
  | [], _ => none
  | (k, v) :: t, name => if k = name then some v else get? t name

/-- Whether the table holds something under a name. -/
def has (t : Table α) (name : String) : Bool := (get? t name).isSome

/-- Puts a value under a name. -/
def put : Table α → String → α → Table α
  | [], name, v => [(name, v)]
  | (k, w) :: t, name, v => if k = name then (k, v) :: t else (k, w) :: put t name v

/-- Takes a name out of the table. -/
def drop : Table α → String → Table α
  | [], _ => []
  | (k, w) :: t, name => if k = name then drop t name else (k, w) :: drop t name

/-- The names of the table. -/
def names (t : Table α) : List String := t.map Prod.fst

@[simp] theorem get?_nil (name : String) : get? ([] : Table α) name = none := rfl

@[simp] theorem get?_cons (k : String) (v : α) (t : Table α) (name : String) :
    get? ((k, v) :: t) name = if k = name then some v else get? t name := rfl

theorem get?_put_self (t : Table α) (name : String) (v : α) : get? (put t name v) name = some v := by
  induction t with
  | nil => simp [put]
  | cons e t ih =>
    obtain ⟨k, w⟩ := e
    by_cases h : k = name
    · simp [put, h]
    · simp [put, h, ih]

theorem get?_put_other (t : Table α) {name other : String} (v : α) (h : other ≠ name) :
    get? (put t name v) other = get? t other := by
  induction t with
  | nil => simp [put, Ne.symm h]
  | cons e t ih =>
    obtain ⟨k, w⟩ := e
    by_cases hk : k = name
    · subst hk
      simp [put, Ne.symm h]
    · by_cases ho : k = other
      · subst ho
        simp [put, hk]
      · simp [put, hk, ho, ih]

/-- A look-up after a value was put under a name. -/
theorem get?_put (t : Table α) (name : String) (v : α) (other : String) :
    get? (put t name v) other = if other = name then some v else get? t other := by
  by_cases h : other = name
  · subst h
    simp [get?_put_self]
  · simp [h, get?_put_other t v h]

/-- A look-up after a name was taken out. -/
theorem get?_drop (t : Table α) (name other : String) :
    get? (drop t name) other = if other = name then none else get? t other := by
  induction t with
  | nil => simp [drop]
  | cons e t ih =>
    obtain ⟨k, w⟩ := e
    by_cases hk : k = name
    · subst hk
      by_cases ho : other = k
      · subst ho
        simpa [drop] using ih
      · have : k ≠ other := fun h => ho h.symm
        simpa [drop, ho, this] using ih
    · by_cases ho : k = other
      · subst ho
        simp [drop, hk]
      · simp [drop, hk, ho, ih]

/-- A name is in the table exactly when something is held under it. -/
theorem mem_names_iff (t : Table α) (name : String) : name ∈ names t ↔ (get? t name).isSome := by
  induction t with
  | nil => simp [names]
  | cons e t ih =>
    obtain ⟨k, w⟩ := e
    by_cases hk : k = name
    · subst hk
      simp [names]
    · have : name ≠ k := fun h => hk h.symm
      simpa [names, hk, this] using ih

theorem mem_names_put (t : Table α) (name : String) (v : α) (other : String) :
    other ∈ names (put t name v) ↔ other = name ∨ other ∈ names t := by
  rw [mem_names_iff, mem_names_iff, get?_put]
  by_cases h : other = name <;> simp [h]

theorem mem_names_drop (t : Table α) (name other : String) :
    other ∈ names (drop t name) ↔ other ≠ name ∧ other ∈ names t := by
  rw [mem_names_iff, mem_names_iff, get?_drop]
  by_cases h : other = name <;> simp [h]

/-- Names that are entered once stay so. -/
theorem nodup_names_put {t : Table α} (h : (names t).Nodup) (name : String) (v : α) :
    (names (put t name v)).Nodup := by
  induction t with
  | nil => simp [put, names]
  | cons e t ih =>
    obtain ⟨k, w⟩ := e
    obtain ⟨hk, ht⟩ := List.nodup_cons.mp h
    unfold put
    split
    · exact h
    · rename_i hne
      refine List.nodup_cons.mpr ⟨fun hmem => ?_, ih ht⟩
      exact ((mem_names_put t name v k).mp hmem).elim hne hk

theorem nodup_names_drop {t : Table α} (h : (names t).Nodup) (name : String) :
    (names (drop t name)).Nodup := by
  induction t with
  | nil => exact h
  | cons e t ih =>
    obtain ⟨k, w⟩ := e
    obtain ⟨hk, ht⟩ := List.nodup_cons.mp h
    unfold drop
    split
    · exact ih ht
    · exact List.nodup_cons.mpr ⟨fun hmem => hk ((mem_names_drop t name k).mp hmem).2, ih ht⟩

end Table

end Standin
