/-
Tables: entries with names, in the order in which the names first came up.
Writing to a name that is there already replaces its value where it stands; so
a table built by `insert` names nothing twice, and what it holds can be listed
in the order of a configuration.

An `insert` answers for its own name (`find?_insert_self`) and for no other
(`find?_insert_of_ne`).
-/
namespace Overlay

universe u

/-- Named entries in order. -/
abbrev Table (α : Type u) := List (String × α)

namespace Table

variable {α : Type u}

/-- The value under a name: the first entry of that name decides. -/
def find? (name : String) : Table α → Option α
  | [] => none
  | (k, v) :: rest => if k == name then some v else find? name rest

/-- Whether there is an entry of that name. -/
def has (name : String) (t : Table α) : Bool := (find? name t).isSome

/-- Adds an entry at the end, or replaces the value of the entry of that name
where it stands. -/
def insert (name : String) (value : α) : Table α → Table α
  | [] => [(name, value)]
  | (k, v) :: rest =>
    if k == name then (k, value) :: rest else (k, v) :: insert name value rest

/-- Adds an entry in front of the first greater name, or replaces the value of
the entry of that name. A table built by `insertOrdered` alone is in the order
of its names. -/
def insertOrdered (name : String) (value : α) : Table α → Table α
  | [] => [(name, value)]
  | (k, v) :: rest =>
    if name < k then (name, value) :: (k, v) :: rest
    else if k == name then (k, value) :: rest
    else (k, v) :: insertOrdered name value rest

/-- Adds an entry at the end, unless there is one of that name. -/
def insertNew (name : String) (value : α) (t : Table α) : Table α :=
  if has name t then t else t ++ [(name, value)]

/-- Inserts all entries, one after the other. -/
def insertAll (entries : Table α) (t : Table α) : Table α :=
  entries.foldl (fun t e => insert e.1 e.2 t) t

/-- The table of a list of entries, a later one of the same name replacing an
earlier one. -/
def ofEntries (entries : Table α) : Table α := insertAll entries []

/-- Takes the entry of a name out. -/
def erase (name : String) (t : Table α) : Table α := t.filter (·.1 != name)

/-- The names, in order. -/
def names (t : Table α) : List String := t.map (·.1)

-- ===== laws

@[simp] theorem find?_insert_self (name : String) (value : α) (t : Table α) :
    find? name (insert name value t) = some value := by
  induction t with
  | nil => simp [insert, find?]
  | cons e rest ih =>
    obtain ⟨k, v⟩ := e
    by_cases h : k = name <;> simp [insert, find?, h, ih]

theorem find?_insert_of_ne {name other : String} (h : name ≠ other) (value : α)
    (t : Table α) : find? other (insert name value t) = find? other t := by
  induction t with
  | nil => simp [insert, find?, h]
  | cons e rest ih =>
    obtain ⟨k, v⟩ := e
    by_cases hk : k = name
    · subst hk
      simp [insert, find?, h]
    · by_cases ho : k = other <;> simp_all [insert, find?]

end Table

end Overlay
