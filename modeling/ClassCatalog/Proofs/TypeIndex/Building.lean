import ClassCatalog.TypeIndex.Build
import Mathlib.Data.List.Induction
import Mathlib.Data.List.Nodup

/-!
# Entries of a built index

What is stored under a name after each step of building an index.  Every step goes through a list
and changes the entry under one name at a time, so that the last one of the name has its way
(`info?_foldl_last`).  The names are entered by `seed`; a pass changes only the supertypes under the
names of its types.  With distinct names, what is stored for a type was looked up for it in one of
the passes, and in the first one if that found everything.
-/

namespace ClassCatalog

namespace DeclaredType

/-- The last of some declarations of a name. -/
def last? (types : List DeclaredType) (name : String) : Option DeclaredType :=
  types.reverse.find? (·.name = name)

variable {types : List DeclaredType} {name : String} {type : DeclaredType}

theorem mem_of_last? (h : last? types name = some type) : type ∈ types :=
  List.mem_reverse.1 (List.mem_of_find?_eq_some h)

theorem name_of_last? (h : last? types name = some type) : type.name = name := by
  simpa using List.find?_some h

theorem last?_eq_none_iff : last? types name = none ↔ name ∉ types.map DeclaredType.name := by
  simp [last?]

/-- The last declaration stays the last one where it is kept. -/
theorem last?_filter {p : DeclaredType → Bool} (h : last? types name = some type)
    (kept : p type = true) : last? (types.filter p) name = some type := by
  rw [last?, ← List.filter_reverse, List.find?_filter]
  obtain ⟨named, before, behind, split, others⟩ := List.find?_eq_some_iff_append.1 h
  refine List.find?_eq_some_iff_append.2 ⟨?_, before, behind, split, fun other listed => ?_⟩
  · simpa [kept] using named
  · have := others other listed
    simp_all

theorem last?_of_mem (distinct : (types.map DeclaredType.name).Nodup) (h : type ∈ types) :
    last? types type.name = some type := by
  cases last : last? types type.name with
  | none => exact absurd (List.mem_map_of_mem h) (last?_eq_none_iff.1 last)
  | some other =>
    exact congrArg some
      (List.inj_on_of_nodup_map distinct (mem_of_last? last) h (name_of_last? last))

end DeclaredType

namespace TypeIndex

open DeclaredType Text

theorem contains_eq_isSome (index : TypeIndex) (name : String) :
    index.contains name = (index.info? name).isSome := rfl

theorem info?_insert (index : TypeIndex) (name key : String) (entry : TypeEntry) :
    (index.insert name entry).info? key = if name = key then some entry else index.info? key :=
  Table.get?_insert index.types name key entry

theorem info?_setSupertypes (index : TypeIndex) (name key : String)
    (supertypes : List (Except ResolveError String)) :
    (index.setSupertypes name supertypes).info? key =
      if name = key then (index.info? key).map fun entry => { entry with supertypes }
      else index.info? key :=
  Table.get?_modify index.types name key _

/-! ## One change after the other -/

section Changes

variable {α : Type} {step : TypeIndex → α → TypeIndex} (key : α → String)

theorem info?_foldl_of_not_mem
    (other : ∀ index x name, key x ≠ name → (step index x).info? name = index.info? name)
    {xs : List α} {name : String} (h : name ∉ xs.map key) (index : TypeIndex) :
    (xs.foldl step index).info? name = index.info? name := by
  induction xs generalizing index with
  | nil => rfl
  | cons x rest ih =>
    rw [List.map_cons, List.mem_cons, not_or] at h
    rw [List.foldl_cons, ih h.2, other index x name (Ne.symm h.1)]

/-- Where a change leaves nothing of those before it, the last one under a name counts. -/
theorem info?_foldl_last (change : α → Option TypeEntry → Option TypeEntry)
    (own : ∀ index x, (step index x).info? (key x) = change x (index.info? (key x)))
    (other : ∀ index x name, key x ≠ name → (step index x).info? name = index.info? name)
    (again : ∀ x y entry, change y (change x entry) = change y entry)
    (xs : List α) (index : TypeIndex) (name : String) :
    (xs.foldl step index).info? name =
      (xs.reverse.find? (key · = name)).elim (index.info? name) (change · (index.info? name)) := by
  induction xs using List.reverseRecOn with
  | nil => rfl
  | append_singleton front x ih =>
    rw [List.foldl_append, List.foldl_cons, List.foldl_nil, List.reverse_append,
      List.reverse_singleton, List.singleton_append, List.find?_cons]
    by_cases same : key x = name
    · subst same
      rw [own, ih]
      cases front.reverse.find? (key · = key x) <;> simp [again]
    · rw [other _ x name same, ih]
      simp [same]

end Changes

/-! ## The types known from the start -/

theorem info?_standard_eq_none {name : String} (unknown : name ∉ StandardType.all.map (·.name)) :
    standard.info? name = none := by
  refine info?_foldl_of_not_mem (fun type : StandardType => type.name) ?_ unknown {}
  intro index type name differs
  exact (info?_insert _ _ _ _).trans (if_neg differs)

theorem info?_standard_root : standard.info? rootType = some ⟨.plain, []⟩ := by
  have all : StandardType.all = .rootClass rootType :: StandardType.all.tail := rfl
  have once : rootType ∉ StandardType.all.tail.map (·.name) := by decide
  rw [standard, all, List.foldl_cons]
  refine (info?_foldl_of_not_mem (fun type : StandardType => type.name) ?_ once _).trans ?_
  · intro index type name differs
    exact (info?_insert _ _ _ _).trans (if_neg differs)
  · exact (info?_insert _ _ _ _).trans (if_pos rfl)

theorem info?_seed (types : List DeclaredType) (known : List KnownType) (name : String) :
    (seed types known).info? name =
      (last? types name).elim ((known.foldl insertKnown standard).info? name) fun type =>
        some ⟨type.kind, []⟩ := by
  refine info?_foldl_last DeclaredType.name (fun type _ => some ⟨type.kind, []⟩) ?_ ?_ ?_
    types _ name
  · intro index type
    exact (info?_insert _ _ _ _).trans (if_pos rfl)
  · intro index type name differs
    exact (info?_insert _ _ _ _).trans (if_neg differs)
  · intro type other entry
    rfl

theorem info?_seed_of_not_mem {types : List DeclaredType} {known : List KnownType} {name : String}
    (h : name ∉ types.map DeclaredType.name) :
    (seed types known).info? name = (known.foldl insertKnown standard).info? name := by
  rw [info?_seed, last?_eq_none_iff.2 h, Option.elim_none]

theorem info?_seed_of_mem {types : List DeclaredType} {known : List KnownType}
    (distinct : (types.map DeclaredType.name).Nodup) {type : DeclaredType} (h : type ∈ types) :
    (seed types known).info? type.name = some ⟨type.kind, []⟩ := by
  rw [info?_seed, last?_of_mem distinct h, Option.elim_some]

/-! ## Passes -/

theorem pass_eq_foldl (index : TypeIndex) (types : List DeclaredType) :
    index.pass types = types.foldl
      (fun result type => result.setSupertypes type.name (index.directSupertypes type)) index := by
  rw [pass, List.foldl_map]

/-- An entry with other supertypes. -/
def withSupertypes (entry : Option TypeEntry) (supertypes : List (Except ResolveError String)) :
    Option TypeEntry :=
  entry.map fun entry => { entry with supertypes }

theorem withSupertypes_withSupertypes (entry : Option TypeEntry)
    (before supertypes : List (Except ResolveError String)) :
    withSupertypes (withSupertypes entry before) supertypes = withSupertypes entry supertypes := by
  cases entry <;> rfl

theorem info?_pass (index : TypeIndex) (types : List DeclaredType) (name : String) :
    (index.pass types).info? name =
      (last? types name).elim (index.info? name) fun type =>
        withSupertypes (index.info? name) (index.directSupertypes type) := by
  rw [pass_eq_foldl]
  refine info?_foldl_last DeclaredType.name
    (fun type entry => withSupertypes entry (index.directSupertypes type)) ?_ ?_ ?_ types index name
  · intro result type
    exact (info?_setSupertypes _ _ _ _).trans (if_pos rfl)
  · intro result type name differs
    exact (info?_setSupertypes _ _ _ _).trans (if_neg differs)
  · intro type other entry
    exact withSupertypes_withSupertypes entry _ _

theorem info?_pass_of_not_mem {index : TypeIndex} {types : List DeclaredType} {name : String}
    (h : name ∉ types.map DeclaredType.name) : (index.pass types).info? name = index.info? name := by
  rw [info?_pass, last?_eq_none_iff.2 h, Option.elim_none]

theorem info?_pass_of_mem {index : TypeIndex} {types : List DeclaredType}
    (distinct : (types.map DeclaredType.name).Nodup) {type : DeclaredType} (h : type ∈ types) :
    (index.pass types).info? type.name =
      withSupertypes (index.info? type.name) (index.directSupertypes type) := by
  rw [info?_pass, last?_of_mem distinct h, Option.elim_some]

theorem contains_setSupertypes (index : TypeIndex) (name : String)
    (supertypes : List (Except ResolveError String)) :
    (index.setSupertypes name supertypes).contains = index.contains := by
  funext key
  rw [contains_eq_isSome, info?_setSupertypes, contains_eq_isSome]
  by_cases same : name = key
  · rw [if_pos same, Option.isSome_map]
  · rw [if_neg same]

theorem contains_pass (index : TypeIndex) (types : List DeclaredType) :
    (index.pass types).contains = index.contains := by
  rw [pass_eq_foldl]
  refine List.foldlRecOn (motive := (TypeIndex.contains · = index.contains)) types _ rfl ?_
  intro result same type _
  exact (contains_setSupertypes _ _ _).trans same

theorem names_pass (index : TypeIndex) (types : List DeclaredType) :
    (index.pass types).names = index.names := by
  rw [pass_eq_foldl]
  refine List.foldlRecOn (motive := (TypeIndex.names · = index.names)) types _ rfl ?_
  intro result same type _
  exact (Table.keys_modify _ _ _).trans same

/-! ## Pass after pass -/

theorem settle_of_stop {index : TypeIndex} {types : List DeclaredType}
    (stop : index.unsettled types = [] ∨ (index.unsettled types).length = types.length) :
    index.settle types = index.pass types := by
  rw [settle, dif_pos stop]

theorem settle_of_go {index : TypeIndex} {types : List DeclaredType}
    (go : ¬ (index.unsettled types = [] ∨ (index.unsettled types).length = types.length)) :
    index.settle types = (index.pass types).settle (index.unsettled types) := by
  rw [settle, dif_neg go]

theorem contains_settle (index : TypeIndex) (types : List DeclaredType) :
    (index.settle types).contains = index.contains := by
  fun_induction settle index types with
  | case1 index types remaining stop => exact contains_pass index types
  | case2 index types remaining stop ih => rw [ih, contains_pass]

theorem info?_settle_of_not_mem {index : TypeIndex} {types : List DeclaredType} {name : String}
    (h : name ∉ types.map DeclaredType.name) :
    (index.settle types).info? name = index.info? name := by
  fun_induction settle index types with
  | case1 index types remaining stop => exact info?_pass_of_not_mem h
  | case2 index types remaining stop ih =>
    have fewer : remaining.map DeclaredType.name ⊆ types.map DeclaredType.name :=
      List.map_subset _ (List.filter_subset_self _)
    rw [ih fun again => h (fewer again), info?_pass_of_not_mem h]

theorem name_not_mem_unsettled {index : TypeIndex} {types : List DeclaredType}
    (distinct : (types.map DeclaredType.name).Nodup) {type : DeclaredType} (h : type ∈ types)
    (found : index.isUnsettled type = false) :
    type.name ∉ (index.unsettled types).map DeclaredType.name := by
  intro listed
  obtain ⟨other, remains, same⟩ := List.mem_map.1 listed
  obtain ⟨declared, missing⟩ := List.mem_filter.1 remains
  obtain rfl := List.inj_on_of_nodup_map distinct declared h same
  exact absurd missing (by simp [found])

/-- Supertypes that are found in the first pass are not looked up again. -/
theorem info?_settle_of_found {index : TypeIndex} {types : List DeclaredType}
    (distinct : (types.map DeclaredType.name).Nodup) {type : DeclaredType} (h : type ∈ types)
    (found : index.isUnsettled type = false) :
    (index.settle types).info? type.name =
      withSupertypes (index.info? type.name) (index.directSupertypes type) := by
  rw [settle]
  split
  · exact info?_pass_of_mem distinct h
  · rw [info?_settle_of_not_mem (name_not_mem_unsettled distinct h found),
      info?_pass_of_mem distinct h]

/-- What is stored for a declared type was looked up in one of the passes, by an index that knows
the same names. -/
theorem info?_settle_of_mem {index : TypeIndex} {types : List DeclaredType}
    (distinct : (types.map DeclaredType.name).Nodup) {type : DeclaredType} (h : type ∈ types) :
    ∃ stage : TypeIndex, stage.contains = index.contains ∧
      (index.settle types).info? type.name =
        withSupertypes (index.info? type.name) (stage.directSupertypes type) := by
  fun_induction settle index types with
  | case1 index types remaining stop => exact ⟨index, rfl, info?_pass_of_mem distinct h⟩
  | case2 index types remaining stop ih =>
    cases found : index.isUnsettled type with
    | true =>
      have again : type ∈ remaining := List.mem_filter.2 ⟨h, found⟩
      have kept : (remaining.map DeclaredType.name).Nodup :=
        distinct.sublist (List.filter_sublist.map _)
      obtain ⟨stage, same, stored⟩ := ih kept again
      refine ⟨stage, same.trans (contains_pass index types), ?_⟩
      rw [stored, info?_pass_of_mem distinct h, withSupertypes_withSupertypes]
    | false =>
      refine ⟨index, rfl, ?_⟩
      rw [info?_settle_of_not_mem (name_not_mem_unsettled distinct h found),
        info?_pass_of_mem distinct h]

section Build

variable {units : List SourceUnit} {known : List KnownType}

theorem contains_build :
    (build units known).contains = (seed (DeclaredType.ofUnits units) known).contains :=
  contains_settle _ _

theorem info?_build_of_not_mem {name : String}
    (h : name ∉ (DeclaredType.ofUnits units).map DeclaredType.name) :
    (build units known).info? name = (known.foldl insertKnown standard).info? name := by
  rw [build, info?_settle_of_not_mem h, info?_seed_of_not_mem h]

theorem info?_build_of_mem (distinct : ((DeclaredType.ofUnits units).map DeclaredType.name).Nodup)
    {type : DeclaredType} (h : type ∈ DeclaredType.ofUnits units) :
    ∃ stage : TypeIndex, stage.contains = (build units known).contains ∧
      (build units known).info? type.name = some ⟨type.kind, stage.directSupertypes type⟩ := by
  obtain ⟨stage, same, stored⟩ :=
    @info?_settle_of_mem (seed (DeclaredType.ofUnits units) known) _ distinct _ h
  refine ⟨stage, same.trans contains_build.symm, ?_⟩
  rw [build, stored, info?_seed_of_mem distinct h]
  rfl

theorem info?_build_of_found
    (distinct : ((DeclaredType.ofUnits units).map DeclaredType.name).Nodup)
    {type : DeclaredType} (h : type ∈ DeclaredType.ofUnits units)
    (found : (seed (DeclaredType.ofUnits units) known).isUnsettled type = false) :
    (build units known).info? type.name =
      some ⟨type.kind, (seed (DeclaredType.ofUnits units) known).directSupertypes type⟩ := by
  rw [build, info?_settle_of_found distinct h found, info?_seed_of_mem distinct h]
  rfl

end Build

/-! ## Look-ups that need only the names -/

theorem lookupReference_of_contains {index : TypeIndex} {name : String}
    (known : index.contains name = true) : index.lookupReference ⟨[name]⟩ {} = .ok name := by
  simp [lookupReference, lookup, lookupSimple?, firstKnown?, ImportTable.single?, Table.get?,
    Table.find?, Text.qualify, known, below, memberPath?]

/-- A simple name inside a type without supertypes, where no type that it may stand for is known. -/
theorem lookupReference_of_unknown {index : TypeIndex} {imports : ImportTable}
    {outer simple : String} (bare : index.supertypes outer = []) (other : lastSegment outer ≠ simple)
    (single : imports.single? simple = none) (onDemand : imports.onDemand = [])
    (unknown : ∀ name ∈ [member outer simple, simple, member "java.lang" simple],
      index.contains name = false) :
    index.lookupReference ⟨[simple]⟩ { imports, enclosing := [outer] } =
      .error (.unknownType simple) := by
  simp only [List.forall_mem_cons] at unknown
  obtain ⟨own, top, lang, -⟩ := unknown
  simp [lookupReference, lookup, lookupSimple?, inEnclosing?, memberType?, depthFirst, bare, own,
    top, lang, single, onDemand, other, qualify, firstKnown?, lookupQualified, TypeName.dotted]

end TypeIndex

end ClassCatalog
