/-!
# Tables

Values under names, in the order in which the names were first entered. Each name has one value, and
entering it again replaces the value in its place.
-/

namespace ClassCatalog

/-- Values under names. -/
structure Table (α : Type) where
  entries : List (String × α) := []
deriving Inhabited

namespace Table

variable {α : Type}

/-- The table without entries. -/
def empty : Table α := ⟨[]⟩

/-- The value of a name among some entries. -/
def find? (name : String) : List (String × α) → Option α
  | [] => none
  | (key, value) :: rest => if key = name then some value else find? name rest

/-- The value of a name. -/
def get? (table : Table α) (name : String) : Option α :=
  find? name table.entries

/-- Whether a name has a value. -/
def contains (table : Table α) (name : String) : Bool :=
  (table.get? name).isSome

/-- The names, in the order in which they were entered. -/
def keys (table : Table α) : List String :=
  table.entries.map Prod.fst

/-- The number of names. -/
def size (table : Table α) : Nat :=
  table.entries.length

/-- Puts a value under a name among some entries. -/
def put (name : String) (value : α) : List (String × α) → List (String × α)
  | [] => [(name, value)]
  | (key, old) :: rest =>
    if key = name then (key, value) :: rest else (key, old) :: put name value rest

/-- Puts a value under a name, in place of the one it had. -/
def insert (table : Table α) (name : String) (value : α) : Table α :=
  ⟨put name value table.entries⟩

/-- Changes the value of a name, if it has one. -/
def modify (table : Table α) (name : String) (f : α → α) : Table α :=
  ⟨table.entries.map fun entry => if entry.1 = name then (entry.1, f entry.2) else entry⟩

@[simp]
theorem get?_empty (name : String) : (empty : Table α).get? name = none := rfl

theorem find?_put (name key : String) (value : α) (entries : List (String × α)) :
    find? key (put name value entries) = if name = key then some value else find? key entries := by
  induction entries with
  | nil => simp [put, find?]
  | cons entry rest ih =>
    obtain ⟨k, old⟩ := entry
    by_cases hk : k = name
    · subst hk
      by_cases h : k = key <;> simp [put, find?, h]
    · by_cases h : k = key
      · subst h
        simp [put, find?, hk, Ne.symm hk]
      · simp [put, find?, hk, h, ih]

theorem get?_insert (table : Table α) (name key : String) (value : α) :
    (table.insert name value).get? key = if name = key then some value else table.get? key :=
  find?_put name key value table.entries

theorem find?_map_modify (name key : String) (f : α → α) (entries : List (String × α)) :
    find? key (entries.map fun entry => if entry.1 = name then (entry.1, f entry.2) else entry) =
      if name = key then (find? key entries).map f else find? key entries := by
  induction entries with
  | nil => simp [find?]
  | cons entry rest ih =>
    obtain ⟨k, value⟩ := entry
    by_cases hk : k = name
    · subst hk
      by_cases h : k = key
      · simp [find?, h]
      · simp [find?, h, ih]
    · by_cases h : k = key
      · subst h
        simp [find?, hk, Ne.symm hk]
      · simp [find?, hk, h, ih]

theorem get?_modify (table : Table α) (name key : String) (f : α → α) :
    (table.modify name f).get? key =
      if name = key then (table.get? key).map f else table.get? key :=
  find?_map_modify name key f table.entries

theorem find?_isSome_iff (name : String) (entries : List (String × α)) :
    (find? name entries).isSome = true ↔ name ∈ entries.map Prod.fst := by
  induction entries with
  | nil => simp [find?]
  | cons entry rest ih =>
    obtain ⟨key, value⟩ := entry
    by_cases h : key = name
    · simp [find?, h]
    · simp [find?, h, ih, Ne.symm h]

theorem contains_iff_mem_keys (table : Table α) (name : String) :
    table.contains name = true ↔ name ∈ table.keys :=
  find?_isSome_iff name table.entries

theorem keys_modify (table : Table α) (name : String) (f : α → α) :
    (table.modify name f).keys = table.keys := by
  rw [keys, modify, List.map_map]
  refine List.map_congr_left fun entry _ => ?_
  rw [Function.comp_apply]
  split <;> rfl

theorem mem_keys_of_get? {table : Table α} {name : String} {value : α}
    (h : table.get? name = some value) : name ∈ table.keys := by
  rw [← contains_iff_mem_keys, contains, h]
  rfl

end Table

end ClassCatalog
