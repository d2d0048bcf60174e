import ClassCatalog.Proofs.TypeIndex.Closure

/-!
# Passes over declared types

The passes that settle some types, each with the index in which it looks them up (`passes`), and
what they leave under a name that may be declared more than once.  The kind under a name is that of
its last declaration.  The supertypes are those of the last declaration that takes part in the last
pass over the name (`info?_settle`).  These two are the same declaration unless a pass finds
everything for the last one and leaves an earlier one with a failure, for only the earlier one is
then looked up again (`writer_eq_or_outlives`).
-/

namespace ClassCatalog

open DeclaredType Text

/-- A pass: the index in which it looks types up, and these types. -/
structure Pass where
  before : TypeIndex
  types : List DeclaredType

/-- The pass finds everything for the first type and leaves the second, which has the same name,
with a failure. -/
structure Pass.Outlives (pass : Pass) (type other : DeclaredType) : Prop where
  takes : type ∈ pass.types
  settled : pass.before.isUnsettled type = false
  takesOther : other ∈ pass.types
  sameName : other.name = type.name
  unsettled : pass.before.isUnsettled other = true

namespace TypeIndex

variable {index : TypeIndex} {types : List DeclaredType} {name : String}

/-! ## The passes of a run -/

/-- The passes that settle some types, in order. -/
def passes (index : TypeIndex) (types : List DeclaredType) : List Pass :=
  ⟨index, types⟩ ::
    if _stop : index.unsettled types = [] ∨ (index.unsettled types).length = types.length then []
    else (index.pass types).passes (index.unsettled types)
termination_by types.length
decreasing_by
  exact Nat.lt_of_le_of_ne (index.length_unsettled_le types) (not_or.1 _stop).2

theorem passes_of_stop
    (stop : index.unsettled types = [] ∨ (index.unsettled types).length = types.length) :
    index.passes types = [⟨index, types⟩] := by
  rw [passes, dif_pos stop]

theorem passes_of_go
    (go : ¬ (index.unsettled types = [] ∨ (index.unsettled types).length = types.length)) :
    index.passes types = ⟨index, types⟩ :: (index.pass types).passes (index.unsettled types) := by
  rw [passes, dif_neg go]

/-- The last pass over a name, and the last type of that name in it. -/
def writer? (passes : List Pass) (name : String) : Option (Pass × DeclaredType) :=
  passes.reverse.findSome? fun pass => (last? pass.types name).map (pass, ·)

theorem writer?_cons (pass : Pass) (rest : List Pass) (name : String) :
    writer? (pass :: rest) name =
      (writer? rest name).or ((last? pass.types name).map (pass, ·)) := by
  simp [writer?, List.findSome?_append]

theorem mem_of_writer? {passes : List Pass} {pass : Pass} {type : DeclaredType}
    (h : writer? passes name = some (pass, type)) :
    pass ∈ passes ∧ last? pass.types name = some type := by
  obtain ⟨other, listed, found⟩ := List.exists_of_findSome?_eq_some h
  obtain ⟨type', last, same⟩ := Option.map_eq_some_iff.1 found
  obtain ⟨rfl, rfl⟩ := Prod.mk.inj same
  exact ⟨List.mem_reverse.1 listed, last⟩

theorem types_sublist_of_mem_passes {pass : Pass} (h : pass ∈ index.passes types) :
    pass.types.Sublist types := by
  fun_induction settle index types with
  | case1 index types remaining stop =>
    rw [passes_of_stop stop, List.mem_singleton] at h
    rw [h]
  | case2 index types remaining go ih =>
    rw [passes_of_go go, List.mem_cons] at h
    rcases h with rfl | h
    · exact List.Sublist.refl types
    · exact (ih h).trans List.filter_sublist

/-- All passes know the same names. -/
theorem contains_of_mem_passes {pass : Pass} (h : pass ∈ index.passes types) :
    pass.before.contains = index.contains := by
  fun_induction settle index types with
  | case1 index types remaining stop =>
    rw [passes_of_stop stop, List.mem_singleton] at h
    rw [h]
  | case2 index types remaining go ih =>
    rw [passes_of_go go, List.mem_cons] at h
    rcases h with rfl | h
    · rfl
    · exact (ih h).trans (contains_pass index types)

/-- What is stored under a name after all passes. -/
theorem info?_settle (index : TypeIndex) (types : List DeclaredType) (name : String) :
    (index.settle types).info? name =
      (writer? (index.passes types) name).elim (index.info? name) fun last =>
        withSupertypes (index.info? name) (last.1.before.directSupertypes last.2) := by
  fun_induction settle index types with
  | case1 index types remaining stop =>
    rw [passes_of_stop stop, writer?_cons, info?_pass]
    cases last? types name <;> rfl
  | case2 index types remaining go ih =>
    rw [ih, passes_of_go go, writer?_cons, info?_pass]
    cases writer? ((index.pass types).passes (index.unsettled types)) name with
    | none => cases last? types name <;> rfl
    | some last =>
      cases last? types name with
      | none => rfl
      | some type => exact withSupertypes_withSupertypes _ _ _

theorem isUnsettled_iff {type : DeclaredType} :
    index.isUnsettled type = true ↔ ∃ e, .error e ∈ index.directSupertypes type := by
  rw [isUnsettled, List.any_eq_true]
  constructor
  · rintro ⟨stored, h, failed⟩
    cases stored with
    | ok super => cases failed
    | error e => exact ⟨e, h⟩
  · rintro ⟨e, h⟩
    exact ⟨_, h, rfl⟩

theorem isUnsettled_of_clause {type : DeclaredType} {s : Supertype} {e : ResolveError}
    (h : s ∈ type.supertypes) (failed : index.lookupReference s.name type.scope = .error e) :
    index.isUnsettled type = true :=
  isUnsettled_iff.2 ⟨e, List.mem_append_right _ (List.mem_map.2 ⟨s, h, failed⟩)⟩

/-- A run that stops with a failure has one for every type of the pass. -/
theorem isUnsettled_of_stop {type other : DeclaredType}
    (stop : index.unsettled types = [] ∨ (index.unsettled types).length = types.length)
    (h : type ∈ types) (missing : index.isUnsettled type = true) (h' : other ∈ types) :
    index.isUnsettled other = true := by
  rcases stop with none | all
  · have remains : type ∈ index.unsettled types := List.mem_filter.2 ⟨h, missing⟩
    simp [none] at remains
  · exact List.length_filter_eq_length_iff.1 all other h'

/-- The last pass is the one at which a run stops. -/
theorem exists_last_pass (index : TypeIndex) (types : List DeclaredType) :
    ∃ last, (index.passes types).getLast? = some last ∧
      index.settle types = last.before.pass last.types ∧
      (last.before.unsettled last.types = [] ∨
        (last.before.unsettled last.types).length = last.types.length) := by
  fun_induction settle index types with
  | case1 index types remaining stop =>
    rw [passes_of_stop stop]
    exact ⟨_, rfl, rfl, stop⟩
  | case2 index types remaining go ih =>
    obtain ⟨last, h, rest⟩ := ih
    rw [passes_of_go go, List.getLast?_cons, h]
    exact ⟨last, rfl, rest⟩

/-! ## Which declaration is stored -/

theorem not_outlives_of_stop {type other : DeclaredType}
    (stop : index.unsettled types = [] ∨ (index.unsettled types).length = types.length) :
    ¬ Pass.Outlives ⟨index, types⟩ type other := by
  intro outlives
  have all := isUnsettled_of_stop stop outlives.takesOther outlives.unsettled outlives.takes
  exact absurd outlives.settled (by simp [all])

theorem exists_writer?_passes {type : DeclaredType} (last : last? types name = some type) :
    ∃ pass writer, writer? (index.passes types) name = some (pass, writer) := by
  rw [passes, writer?_cons, last]
  cases writer? _ name with
  | none => exact ⟨_, type, rfl⟩
  | some later => exact ⟨later.1, later.2, rfl⟩

theorem writer?_passes_eq_none (undeclared : name ∉ types.map DeclaredType.name) :
    writer? (index.passes types) name = none := by
  cases h : writer? (index.passes types) name with
  | none => rfl
  | some last =>
    obtain ⟨listed, own⟩ := mem_of_writer? h
    have declared := (types_sublist_of_mem_passes listed).subset (mem_of_last? own)
    exact absurd (List.mem_map.2 ⟨last.2, declared, name_of_last? own⟩) undeclared

/-- The last pass over a name takes its supertypes from the last declaration, unless that one is
outlived: then it takes them from one that outlives it. -/
theorem writer_eq_or_outlives {type writer : DeclaredType} {pass : Pass}
    (last : last? types name = some type)
    (written : writer? (index.passes types) name = some (pass, writer)) :
    (writer = type ∧ ∀ pass ∈ index.passes types, ∀ other, ¬ pass.Outlives type other) ∨
      (writer ≠ type ∧ ∃ pass ∈ index.passes types, pass.Outlives type writer) := by
  fun_induction settle index types with
  | case1 index types remaining stop =>
    rw [passes_of_stop stop, writer?_cons, last] at written
    obtain ⟨-, rfl⟩ := Prod.mk.inj (Option.some.inj written)
    rw [passes_of_stop stop, List.forall_mem_singleton]
    exact .inl ⟨rfl, fun other => not_outlives_of_stop stop⟩
  | case2 index types remaining go ih =>
    rw [passes_of_go go, writer?_cons, last] at written
    rw [passes_of_go go, List.forall_mem_cons, List.exists_mem_cons_iff]
    cases found : index.isUnsettled type with
    | true =>
      -- the type takes part in the next pass and is still the last one there
      have next : last? remaining name = some type := last?_filter last found
      obtain ⟨later, other, h⟩ := @exists_writer?_passes (index.pass types) _ _ _ next
      rw [h, Option.some_or, ← h] at written
      rcases ih next written with ⟨same, none⟩ | ⟨differs, outlives⟩
      · refine .inl ⟨same, fun other outlives => ?_, none⟩
        exact absurd outlives.settled (by simp [found])
      · exact .inr ⟨differs, .inr outlives⟩
    | false =>
      obtain rfl := name_of_last? last
      cases next : last? remaining type.name with
      | none =>
        have undeclared := last?_eq_none_iff.1 next
        rw [writer?_passes_eq_none undeclared, Option.none_or] at written
        obtain ⟨-, rfl⟩ := Prod.mk.inj (Option.some.inj written)
        refine .inl ⟨rfl, fun other outlives => ?_, fun pass listed other outlives => ?_⟩
        · have remains := List.mem_filter.2 ⟨outlives.takesOther, outlives.unsettled⟩
          exact undeclared (List.mem_map.2 ⟨other, remains, outlives.sameName⟩)
        · have remains := (types_sublist_of_mem_passes listed).subset outlives.takes
          exact undeclared (List.mem_map_of_mem remains)
      | some other =>
        -- it takes no further part, but an earlier declaration does
        obtain ⟨later, other, h⟩ := @exists_writer?_passes (index.pass types) _ _ _ next
        rw [h, Option.some_or, ← h] at written
        obtain ⟨listed, own⟩ := mem_of_writer? written
        obtain ⟨declared, missing⟩ :=
          List.mem_filter.1 ((types_sublist_of_mem_passes listed).subset (mem_of_last? own))
        refine .inr ⟨?_, .inl ⟨mem_of_last? last, found, declared, name_of_last? own, missing⟩⟩
        rintro rfl
        simp [found] at missing

end TypeIndex

/-! ## Entries of a built index -/

/-- An entry comes from a declaration: it has its kind and the supertypes that are looked up for it
in one of some passes. -/
def TypeEntry.ComesFrom (entry : TypeEntry) (passes : List Pass) (type : DeclaredType) : Prop :=
  entry.kind = type.kind ∧ ∃ pass ∈ passes, entry.supertypes = pass.before.directSupertypes type

namespace TypeIndex

/-- The passes with which the index of some units is built. -/
def buildPasses (units : List SourceUnit) (known : List KnownType) : List Pass :=
  (seed (ofUnits units) known).passes (ofUnits units)

theorem info?_build_of_last {units : List SourceUnit} {known : List KnownType} {name : String}
    {last : DeclaredType} (declared : last? (ofUnits units) name = some last) :
    ∃ pass writer, writer? (buildPasses units known) name = some (pass, writer) ∧
      (build units known).info? name = some ⟨last.kind, pass.before.directSupertypes writer⟩ := by
  obtain ⟨pass, writer, written⟩ :=
    @exists_writer?_passes (seed (ofUnits units) known) _ _ _ declared
  refine ⟨pass, writer, written, ?_⟩
  rw [build, info?_settle, info?_seed, written, declared]
  rfl

/-! ## Where failures are stored -/

/-- Every stored supertype is resolved. -/
def Resolved (index : TypeIndex) : Prop :=
  ∀ name entry, index.info? name = some entry →
    ∀ stored ∈ entry.supertypes, ∃ type, stored = .ok type

theorem Resolved.insert {index : TypeIndex} (resolved : index.Resolved) (key : String)
    {entry : TypeEntry} (own : ∀ stored ∈ entry.supertypes, ∃ type, stored = .ok type) :
    (index.insert key entry).Resolved := by
  intro name entry' found
  rw [info?_insert] at found
  split at found
  · rwa [← Option.some.inj found]
  · exact resolved name entry' found

theorem Resolved.insertResolved {index : TypeIndex} (resolved : index.Resolved) (key : String)
    (kind : ClassKind) (superclass : Option String) (interfaces : List String) :
    (index.insertResolved key kind superclass interfaces).Resolved := by
  refine resolved.insert key fun stored h => ?_
  obtain ⟨type, -, rfl⟩ := List.mem_map.1 h
  exact ⟨type, rfl⟩

theorem resolved_known (known : List KnownType) : (known.foldl insertKnown standard).Resolved := by
  have start : standard.Resolved := by
    refine List.foldlRecOn (motive := Resolved) StandardType.all _ ?_ ?_
    · intro name entry found
      cases found
    · intro index resolved type _
      exact resolved.insertResolved _ _ _ _
  refine List.foldlRecOn (motive := Resolved) known _ start ?_
  intro index resolved type _
  exact resolved.insertResolved _ _ _ _

/-- A failure is stored among the supertypes of a type. -/
def StoresFailure (index : TypeIndex) (name : String) (e : ResolveError) : Prop :=
  ∃ entry, index.info? name = some entry ∧ .error e ∈ entry.supertypes

/-- Only under declared names are failures stored, and these come from the last pass over the
name. -/
theorem exists_writer?_of_storesFailure {units : List SourceUnit} {known : List KnownType}
    {name : String} {e : ResolveError} (failed : (build units known).StoresFailure name e) :
    ∃ pass writer, writer? (buildPasses units known) name = some (pass, writer) ∧
      .error e ∈ pass.before.directSupertypes writer := by
  obtain ⟨entry, found, stored⟩ := failed
  cases h : last? (ofUnits units) name with
  | none =>
    rw [info?_build_of_not_mem (last?_eq_none_iff.1 h)] at found
    obtain ⟨type, resolved⟩ := resolved_known known name entry found _ stored
    cases resolved
  | some last =>
    obtain ⟨pass, writer, written, made⟩ := @info?_build_of_last units known name last h
    obtain rfl := Option.some.inj (found.symm.trans made)
    exact ⟨pass, writer, written, stored⟩

/-- Under a declared name stand the kind of its last declaration and the supertypes of the last one
in the last pass over the name.  They are one declaration exactly if no pass that finds everything
for the last one leaves another one with a failure.  If those that outlive it so have its kind, the
entry comes from a single declaration. -/
theorem build_entry_sources {units : List SourceUnit} {known : List KnownType} {name : String}
    (declared : name ∈ (ofUnits units).map DeclaredType.name) :
    ∃ last pass writer, last? (ofUnits units) name = some last ∧
      writer? (buildPasses units known) name = some (pass, writer) ∧
      (build units known).info? name = some ⟨last.kind, pass.before.directSupertypes writer⟩ ∧
      (writer = last ↔ ∀ pass ∈ buildPasses units known, ∀ other, ¬ pass.Outlives last other) ∧
      ((∀ pass ∈ buildPasses units known, ∀ other, pass.Outlives last other →
          other.kind = last.kind) →
        ∃ type ∈ ofUnits units, type.name = name ∧
          TypeEntry.ComesFrom ⟨last.kind, pass.before.directSupertypes writer⟩
            (buildPasses units known) type) := by
  obtain ⟨last, h⟩ : ∃ last, last? (ofUnits units) name = some last := by
    by_contra none
    exact last?_eq_none_iff.1 (Option.eq_none_iff_forall_ne_some.2 (not_exists.1 none)) declared
  obtain ⟨pass, writer, written, stored⟩ := @info?_build_of_last units known name last h
  obtain ⟨listed, own⟩ := mem_of_writer? written
  refine ⟨last, pass, writer, h, written, stored, ?_, fun sameKind => ?_⟩
  · rcases writer_eq_or_outlives h written with ⟨same, none⟩ | ⟨differs, other, listed', outlives⟩
    · exact iff_of_true same none
    · exact iff_of_false differs fun none => none other listed' writer outlives
  · have kind : last.kind = writer.kind := by
      rcases writer_eq_or_outlives h written with ⟨rfl, -⟩ | ⟨-, other, listed', outlives⟩
      · rfl
      · exact (sameKind other listed' writer outlives).symm
    exact ⟨writer, (types_sublist_of_mem_passes listed).subset (mem_of_last? own),
      name_of_last? own, kind, pass, listed, rfl⟩

/-! ## Two local types of one name

In the first pass nothing is known of what `Host` inherits, so that `X` is not found for the class,
while the interface has nothing to be looked up. -/

/-- A class with a local class and a local interface of the same name. -/
def namesakes : SourceUnit where
  path := "Host.java"
  decls :=
    [ .type { name := "Base" } [.type { name := "X" } []],
      .type { name := "Host" }
        [ .supertype ⟨.extends, ⟨["Base"]⟩⟩,
          .method { name := "first" }
            [.type { name := "Local" } [.supertype ⟨.extends, ⟨["X"]⟩⟩]],
          .method { name := "second" } [.type { name := "Local", kind := .interface } []] ] ]

def localClass : DeclaredType where
  name := "Host.Local"
  kind := .plain
  supertypes := [⟨.extends, ⟨["X"]⟩⟩]
  scope := { enclosing := ["Host"] }

def localInterface : DeclaredType where
  name := "Host.Local"
  kind := .interface
  supertypes := []
  scope := { enclosing := ["Host"] }

theorem ofUnits_namesakes :
    ofUnits [namesakes] =
      [ { name := "Base.X", kind := .plain, supertypes := [], scope := { enclosing := ["Base"] } },
        { name := "Base", kind := .plain, supertypes := [], scope := {} },
        localClass, localInterface,
        { name := "Host"
          kind := .plain
          supertypes := [⟨.extends, ⟨["Base"]⟩⟩]
          scope := {} } ] := by
  cbv

theorem seed_namesakes_unknown {name : String} (h : name ∈ ["Host.X", "X", "java.lang.X"]) :
    (seed (ofUnits [namesakes]) []).contains name = false := by
  rw [← contains_build, ← Bool.not_eq_true, contains_build_iff, ofUnits_namesakes]
  revert name
  decide

theorem lookup_namesakes :
    (seed (ofUnits [namesakes]) []).lookupReference ⟨["X"]⟩ { enclosing := ["Host"] } =
      .error (.unknownType "X") := by
  refine lookupReference_of_unknown ?_ (by decide) rfl rfl fun name h => seed_namesakes_unknown h
  rw [supertypes, info?_seed, ofUnits_namesakes]
  rfl

theorem outlives_namesakes :
    Pass.Outlives ⟨seed (ofUnits [namesakes]) [], ofUnits [namesakes]⟩
      localInterface localClass where
  takes := by simp [ofUnits_namesakes]
  settled := rfl
  takesOther := by simp [ofUnits_namesakes]
  sameName := rfl
  unsettled := isUnsettled_of_clause (List.mem_singleton.2 rfl) lookup_namesakes

theorem eq_of_name_namesakes {type : DeclaredType} (declared : type ∈ ofUnits [namesakes])
    (named : type.name = "Host.Local") : type = localClass ∨ type = localInterface := by
  rw [ofUnits_namesakes] at declared
  simp only [List.mem_cons, List.not_mem_nil, or_false] at declared
  rcases declared with rfl | rfl | rfl | rfl | rfl
  · simp at named
  · simp at named
  · exact .inl rfl
  · exact .inr rfl
  · simp at named

theorem last?_namesakes : last? (ofUnits [namesakes]) "Host.Local" = some localInterface := by
  rw [ofUnits_namesakes]
  rfl

/-- The interface is outlived by the class. -/
theorem writer_namesakes {pass : Pass} {writer : DeclaredType}
    (written : writer? (buildPasses [namesakes] []) "Host.Local" = some (pass, writer)) :
    writer = localClass := by
  obtain ⟨listed, own⟩ := mem_of_writer? written
  have declared := (types_sublist_of_mem_passes listed).subset (mem_of_last? own)
  refine (eq_of_name_namesakes declared (name_of_last? own)).resolve_right ?_
  rcases writer_eq_or_outlives last?_namesakes written with ⟨-, none⟩ | ⟨differs, -⟩
  · have first : ⟨seed (ofUnits [namesakes]) [], ofUnits [namesakes]⟩ ∈
        (seed (ofUnits [namesakes]) []).passes (ofUnits [namesakes]) := by
      rw [passes]
      exact List.mem_cons_self
    exact absurd outlives_namesakes (none _ first localClass)
  · exact differs

/-- The name of the local types has the kind of the interface and the supertypes of the class; the
entry of `Base` comes from its declaration. -/
theorem namesakes_sources :
    (∃ pass ∈ buildPasses [namesakes] [],
      (build [namesakes] []).info? "Host.Local" =
        some ⟨.interface, pass.before.directSupertypes localClass⟩) ∧
    ∃ entry, (build [namesakes] []).info? "Base" = some entry ∧
      ∃ type ∈ ofUnits [namesakes], type.name = "Base" ∧
        entry.ComesFrom (buildPasses [namesakes] []) type := by
  constructor
  · obtain ⟨last, pass, writer, h, written, stored, -⟩ :=
      @build_entry_sources [namesakes] [] "Host.Local" (by rw [ofUnits_namesakes]; decide)
    obtain rfl := Option.some.inj (last?_namesakes.symm.trans h)
    obtain rfl := writer_namesakes written
    exact ⟨pass, (mem_of_writer? written).1, stored⟩
  · obtain ⟨last, pass, writer, h, -, stored, -, single⟩ :=
      @build_entry_sources [namesakes] [] "Base" (by rw [ofUnits_namesakes]; decide)
    refine ⟨_, stored, single fun pass listed other outlives => ?_⟩
    have declared := (types_sublist_of_mem_passes listed).subset outlives.takesOther
    have named := outlives.sameName.trans (name_of_last? h)
    rw [ofUnits_namesakes] at h declared
    simp only [List.mem_cons, List.not_mem_nil, or_false] at declared
    obtain rfl := Option.some.inj h
    rcases declared with rfl | rfl | rfl | rfl | rfl <;> simp_all [localClass, localInterface]

/-- Not every entry comes from a single declaration. -/
theorem build_entries_mixed :
    ¬ ∀ (units : List SourceUnit) (known : List KnownType) (name : String) (entry : TypeEntry),
      name ∈ (ofUnits units).map DeclaredType.name →
      (build units known).info? name = some entry →
      ∃ type ∈ ofUnits units, type.name = name ∧
        entry.ComesFrom (buildPasses units known) type := by
  intro single
  obtain ⟨pass, writer, written, stored⟩ := @info?_build_of_last _ [] _ _ last?_namesakes
  obtain rfl := writer_namesakes written
  obtain ⟨type, declared, named, kind, other, -, supers⟩ :=
    single [namesakes] [] "Host.Local" _ (by rw [ofUnits_namesakes]; decide) stored
  rcases eq_of_name_namesakes declared named with rfl | rfl
  · cases kind
  · -- the class has a clause to look up and the interface has none
    cases supers

end TypeIndex

end ClassCatalog
