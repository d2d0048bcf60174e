import ClassCatalog.Resolution

/-!
# The index of known types

Each known type stands in the index under its full name, with its kind and its direct supertypes. A
supertype that could not be resolved stays in its place as the failure.
-/

namespace ClassCatalog

/-- What the index knows of a type: its direct supertypes come superclass first. -/
structure TypeEntry where
  kind : ClassKind
  supertypes : List (Except ResolveError String)
deriving Inhabited

/-- The known types under their full names. -/
structure TypeIndex where
  types : Table TypeEntry := {}
deriving Inhabited

namespace TypeIndex

/-- What is known of a type. -/
def info? (index : TypeIndex) (name : String) : Option TypeEntry :=
  index.types.get? name

/-- Whether a type is known. -/
def contains (index : TypeIndex) (name : String) : Bool :=
  index.types.contains name

/-- The kind of a known type. -/
def kind? (index : TypeIndex) (name : String) : Option ClassKind :=
  (index.info? name).map TypeEntry.kind

/-- The names of all known types. -/
def names (index : TypeIndex) : List String :=
  index.types.keys

/-- The number of known types. -/
def size (index : TypeIndex) : Nat :=
  index.types.size

/-- The direct supertypes of a type that could be resolved. -/
def supertypes (index : TypeIndex) (name : String) : List String :=
  match index.info? name with
  | some entry => entry.supertypes.filterMap Except.toOption
  | none => []

/-- Enters a type in place of what was known of it. -/
def insert (index : TypeIndex) (name : String) (entry : TypeEntry) : TypeIndex :=
  ⟨index.types.insert name entry⟩

/-- Enters a type whose supertypes are given by their full names. Without a named superclass it has
the one of its kind, the root type alone having none. -/
def insertResolved (index : TypeIndex) (name : String) (kind : ClassKind)
    (superclass : Option String) (interfaces : List String) : TypeIndex :=
  let parent :=
    match superclass with
    | some parent => some parent
    | none => if name = rootType then none else kind.implicitSuperclass?
  index.insert name ⟨kind, (parent.toList ++ interfaces).map Except.ok⟩

/-- Replaces the supertypes of a known type. -/
def setSupertypes (index : TypeIndex) (name : String)
    (supertypes : List (Except ResolveError String)) : TypeIndex :=
  ⟨index.types.modify name fun entry => { entry with supertypes }⟩

/-- The known types that are not among some names. -/
def unvisited (index : TypeIndex) (visited : List String) : List String :=
  index.names.filter (· ∉ visited)

theorem length_unvisited_cons_lt {index : TypeIndex} {name : String} {visited : List String}
    (known : name ∈ index.names) (new : name ∉ visited) :
    (index.unvisited (name :: visited)).length < (index.unvisited visited).length := by
  have sub : index.unvisited (name :: visited) =
      (index.unvisited visited).filter (· ≠ name) := by
    simp [unvisited, List.filter_filter]
  rw [sub]
  refine List.length_filter_lt_length_iff_exists.2 ⟨name, ?_, by simp⟩
  simp [unvisited, known, new]

theorem length_unvisited_le_of_subset (index : TypeIndex) {visited now : List String}
    (grown : visited ⊆ now) :
    (index.unvisited now).length ≤ (index.unvisited visited).length := by
  have fewer : index.unvisited now = (index.unvisited visited).filter (· ∉ now) := by
    rw [unvisited, unvisited, List.filter_filter]
    refine List.filter_congr fun name _ => ?_
    have := @grown name
    grind
  rw [fewer]
  exact List.length_filter_le _ _

theorem mem_names_of_info? {index : TypeIndex} {name : String} {entry : TypeEntry}
    (h : index.info? name = some entry) : name ∈ index.names :=
  Table.mem_keys_of_get? h

theorem supertypes_eq_nil {index : TypeIndex} {name : String} (h : name ∉ index.names) :
    index.supertypes name = [] := by
  cases he : index.info? name with
  | none => simp [supertypes, he]
  | some entry => exact absurd (mem_names_of_info? he) h

end TypeIndex

end ClassCatalog
