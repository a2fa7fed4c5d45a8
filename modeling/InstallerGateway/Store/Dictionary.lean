/-!
# Dictionaries

Finite maps from texts to values that keep their entries in the order in which they were added. No
name occurs twice as long as entries are only put, changed and removed.
-/

namespace InstallerGateway

/-- A finite map from texts, its entries in the order of their first assignment. -/
abbrev Dictionary (α : Type) := List (String × α)

namespace Dictionary

variable {α : Type}

/-- The value of a name. -/
def find? (name : String) : Dictionary α → Option α
  | [] => none
  | (k, v) :: rest => if k = name then some v else find? name rest

/-- The name has the value from now on. A name that is there keeps its place. -/
def put (name : String) (value : α) : Dictionary α → Dictionary α
  | [] => [(name, value)]
  | (k, v) :: rest => if k = name then (k, value) :: rest else (k, v) :: put name value rest

/-- The name has no value any more. -/
def remove (name : String) (d : Dictionary α) : Dictionary α :=
  d.filter fun e => e.1 ≠ name

/-- The entries of a list put one after the other, so that of equal names the last value counts. -/
def ofList (entries : List (String × α)) : Dictionary α :=
  entries.foldl (fun d e => put e.1 e.2 d) []

@[simp] theorem find?_nil (name : String) : find? name ([] : Dictionary α) = none := rfl

theorem find?_put_self (name : String) (value : α) (d : Dictionary α) :
    find? name (put name value d) = some value := by
  induction d with
  | nil => simp [put, find?]
  | cons e d ih =>
    obtain ⟨k, v⟩ := e
    by_cases h : k = name
    · simp [put, find?, h]
    · simp [put, find?, h, ih]

theorem find?_put_of_ne {name other : String} (h : name ≠ other) (value : α) (d : Dictionary α) :
    find? other (put name value d) = find? other d := by
  induction d with
  | nil => simp [put, find?, h]
  | cons e d ih =>
    obtain ⟨k, v⟩ := e
    by_cases hk : k = name
    · subst hk
      simp [put, find?, h]
    · simp [put, find?, hk, ih]

theorem mem_of_find? {name : String} {value : α} {d : Dictionary α}
    (h : find? name d = some value) : (name, value) ∈ d := by
  induction d with
  | nil => cases h
  | cons e d ih =>
    obtain ⟨k, u⟩ := e
    by_cases hk : k = name
    · subst hk
      rw [find?, if_pos rfl] at h
      rw [Option.some.inj h]
      exact List.mem_cons_self
    · rw [find?, if_neg hk] at h
      exact List.mem_cons_of_mem _ (ih h)

theorem find?_remove_self (name : String) (d : Dictionary α) :
    find? name (remove name d) = none := by
  induction d with
  | nil => rfl
  | cons e d ih =>
    obtain ⟨k, v⟩ := e
    by_cases h : k = name
    · simpa [remove, find?, h] using ih
    · simpa [remove, find?, h] using ih

theorem find?_remove_of_ne {name other : String} (h : name ≠ other) (d : Dictionary α) :
    find? other (remove name d) = find? other d := by
  induction d with
  | nil => rfl
  | cons e d ih =>
    obtain ⟨k, v⟩ := e
    by_cases hk : k = name
    · subst hk
      simpa [remove, find?, h] using ih
    · by_cases ho : k = other
      · subst ho
        simp [remove, find?, hk]
      · simpa [remove, find?, hk, ho] using ih

end Dictionary

end InstallerGateway
