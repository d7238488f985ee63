/-
  Tables: entries under names, in the order of the names.

  Looking up, entering and removing each go along the row once.  Entering keeps the order and leaves
  one entry to a name, so a table that was built by entering can be read from front to back in
  order.
-/

namespace DocStore

/-- Entries under names. -/
abbrev Table (α : Type) := List (String × α)

namespace Table

variable {α : Type}

/-- The entry under a name. -/
def get? : Table α → String → Option α
  | [], _ => none
  | (k, a) :: rest, name => if k = name then some a else get? rest name

/-- Enters a name in its place in the order, or replaces its entry. -/
def put : Table α → String → α → Table α
  | [], name, a => [(name, a)]
  | (k, b) :: rest, name, a =>
    if k = name then (name, a) :: rest
    else if name < k then (name, a) :: (k, b) :: rest
    else (k, b) :: put rest name a

/-- Removes the entry under a name. -/
def remove : Table α → String → Table α
  | [], _ => []
  | (k, a) :: rest, name => if k = name then rest else (k, a) :: remove rest name

end Table

/-- What has just been entered under a name is found there. -/
theorem Table.get?_put_self {α : Type} (t : Table α) (name : String) (a : α) :
    (t.put name a).get? name = some a := by
  induction t with
  | nil => simp [put, get?]
  | cons entry rest ih =>
    obtain ⟨k, b⟩ := entry
    by_cases hk : k = name
    · simp [put, get?, hk]
    · by_cases hlt : name < k
      · simp [put, get?, hk, hlt]
      · simp [put, get?, hk, hlt, ih]

/-- Entering a name leaves the others alone. -/
theorem Table.get?_put_ne {α : Type} (t : Table α) {name other : String}
    (h : other ≠ name) (a : α) :
    (t.put name a).get? other = t.get? other := by
  have hn : ¬name = other := fun e => h e.symm
  induction t with
  | nil => simp [put, get?, hn]
  | cons entry rest ih =>
    obtain ⟨k, b⟩ := entry
    by_cases hk : k = name
    · subst hk
      simp [put, get?, hn]
    · by_cases hlt : name < k
      · simp [put, get?, hk, hlt, hn]
      · by_cases hko : k = other
        · subst hko
          simp [put, get?, hk, hlt]
        · simp [put, get?, hk, hlt, hko, ih]

end DocStore
