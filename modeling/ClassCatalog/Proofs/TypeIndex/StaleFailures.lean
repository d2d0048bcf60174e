import ClassCatalog.Proofs.Extraction.StandardUnits
import ClassCatalog.Proofs.TypeIndex.Dependence
import ClassCatalog.Proofs.TypeIndex.Passes

/-!
# Failures that stay in a built index

Building stops when a pass leaves as many types with a failure as it was given.  Such a pass may
still enter supertypes, those of the clauses that it does find, and these come too late for the
other types of the pass.  So a failure may stay although the name is found in the index that is
built.  But this takes a type with a failure of its own, for a look-up depends only on the supertypes
of what is reached from the types it asks, and the last pass changes those of its own types alone.
-/

namespace ClassCatalog.TypeIndex

open DeclaredType Text

variable {index stage : TypeIndex}

/-! ## The last pass -/

/-- Failures are stored only for types of the last pass. -/
theorem mem_last_of_storesFailure {types : List DeclaredType} {type : DeclaredType} {last : Pass}
    {e : ResolveError} (distinct : (types.map DeclaredType.name).Nodup) (declared : type ∈ types)
    (isLast : (index.passes types).getLast? = some last)
    (failed : (index.settle types).StoresFailure type.name e) : type ∈ last.types := by
  fun_induction settle index types with
  | case1 index types remaining stop =>
    rw [passes_of_stop stop] at isLast
    obtain rfl := Option.some.inj isLast
    exact declared
  | case2 index types remaining go ih =>
    cases found : index.isUnsettled type with
    | true =>
      obtain ⟨later, isLater, -⟩ := exists_last_pass (index.pass types) remaining
      rw [passes_of_go go, List.getLast?_cons, isLater] at isLast
      obtain rfl := Option.some.inj isLast
      exact ih (distinct.sublist (List.filter_sublist.map _)) (List.mem_filter.2 ⟨declared, found⟩)
        isLater failed
    | false =>
      obtain ⟨entry, stored, failure⟩ := failed
      rw [← settle_of_go go, info?_settle_of_found distinct declared found] at stored
      obtain ⟨before, -, rfl⟩ := Option.map_eq_some_iff.1 stored
      have again := isUnsettled_iff.2 ⟨e, failure⟩
      simp [found] at again

/-- The pass with which the building of an index ends. -/
structure EndsWith (units : List SourceUnit) (known : List KnownType) (last : Pass) : Prop where
  isLast : (buildPasses units known).getLast? = some last
  made : build units known = last.before.pass last.types
  stop : last.before.unsettled last.types = [] ∨
    (last.before.unsettled last.types).length = last.types.length

namespace EndsWith

variable {units : List SourceUnit} {known : List KnownType} {last : Pass}

theorem contains_eq (ends : EndsWith units known last) :
    (build units known).contains = last.before.contains := by
  rw [ends.made, contains_pass]

theorem mem_of_changed (ends : EndsWith units known last) {name : String}
    (changed : (build units known).supertypes name ≠ last.before.supertypes name) :
    ∃ type ∈ last.types, type.name = name := by
  by_contra other
  refine changed ?_
  rw [supertypes, supertypes, ends.made, info?_pass_of_not_mem (by simpa using other)]

/-- What is stored for the types of the last pass was looked up before it. -/
theorem info?_eq (ends : EndsWith units known last)
    (distinct : ((ofUnits units).map DeclaredType.name).Nodup) {type : DeclaredType}
    (h : type ∈ last.types) :
    ∃ kind, (build units known).info? type.name =
      some ⟨kind, last.before.directSupertypes type⟩ := by
  have fewer := types_sublist_of_mem_passes (List.mem_of_getLast? ends.isLast)
  have contained : (build units known).contains type.name = true :=
    contains_build_iff.2 (.inl (List.mem_map_of_mem (fewer.subset h)))
  rw [ends.contains_eq, contains_eq_isSome] at contained
  obtain ⟨entry, before⟩ := Option.isSome_iff_exists.1 contained
  rw [ends.made, info?_pass_of_mem (distinct.sublist (fewer.map _)) h, before]
  exact ⟨entry.kind, rfl⟩

theorem isUnsettled_iff_storesFailure (ends : EndsWith units known last)
    (distinct : ((ofUnits units).map DeclaredType.name).Nodup) {type : DeclaredType}
    (h : type ∈ last.types) :
    last.before.isUnsettled type = true ↔ ∃ e, (build units known).StoresFailure type.name e := by
  obtain ⟨kind, stored⟩ := ends.info?_eq distinct h
  rw [isUnsettled_iff]
  constructor
  · rintro ⟨e, failed⟩
    exact ⟨e, _, stored, failed⟩
  · rintro ⟨e, entry, found, failed⟩
    obtain rfl := Option.some.inj (stored.symm.trans found)
    exact ⟨e, failed⟩

/-- If there are failures at all, then for all types of the last pass. -/
theorem storesFailure (ends : EndsWith units known last)
    (distinct : ((ofUnits units).map DeclaredType.name).Nodup) {type other : DeclaredType}
    {e : ResolveError} (failed : (build units known).StoresFailure type.name e)
    (h : type ∈ last.types) (h' : other ∈ last.types) :
    ∃ e, (build units known).StoresFailure other.name e := by
  have missing := (ends.isUnsettled_iff_storesFailure distinct h).2 ⟨e, failed⟩
  exact (ends.isUnsettled_iff_storesFailure distinct h').1
    (isUnsettled_of_stop ends.stop h missing h')

end EndsWith

/-! ## Stale failures -/

/-- The clauses of a declared type with what is stored for them, which comes behind the superclass
that the type has without naming it. -/
def storedClauses (index : TypeIndex) (type : DeclaredType) :
    List (Supertype × Except ResolveError String) :=
  type.supertypes.zip <|
    ((index.info? type.name).elim [] TypeEntry.supertypes).drop type.implicit?.toList.length

theorem storedClauses_eq {type : DeclaredType} {kind : ClassKind}
    (stored : index.info? type.name = some ⟨kind, stage.directSupertypes type⟩) :
    index.storedClauses type =
      type.supertypes.map fun clause => (clause, stage.lookupReference clause.name type.scope) := by
  have behind : (stage.directSupertypes type).drop type.implicit?.toList.length =
      type.supertypes.map fun clause => stage.lookupReference clause.name type.scope := by
    rw [directSupertypes_eq, List.drop_left' (List.length_map _), clauses, List.map_map]
    rfl
  rw [storedClauses, stored, Option.elim_some, behind, ← List.zip_map', List.map_id']

theorem storesFailure_of_mem_storedClauses {type : DeclaredType} {clause : Supertype}
    {e : ResolveError} (failed : (clause, .error e) ∈ index.storedClauses type) :
    index.StoresFailure type.name e := by
  have stored := List.mem_of_mem_drop (List.of_mem_zip failed).2
  cases found : index.info? type.name with
  | none => simp [found] at stored
  | some entry => exact ⟨entry, found, by simpa [found] using stored⟩

/-- A failure is stored for a clause whose name is found in the index itself. -/
def Stale (index : TypeIndex) (type : DeclaredType) (clause : Supertype) : Prop :=
  (∃ e, (clause, .error e) ∈ index.storedClauses type) ∧
    ∃ found, index.lookupReference clause.name type.scope = .ok found

/-- Building ends with a pass, and a failure that it leaves stale is due to another one: from a type
that the look-up of the clause asks, a type is reached that is left with a failure as well and whose
supertypes were changed by this last pass. -/
theorem build_stale_behind_failure {units : List SourceUnit} {known : List KnownType}
    (distinct : ((ofUnits units).map DeclaredType.name).Nodup) :
    ∃ last, EndsWith units known last ∧
      ∀ type ∈ ofUnits units, ∀ clause, (build units known).Stale type clause →
        ∃ owner, (build units known).Asks clause.name type.scope owner ∧
          ∃ other ∈ last.types, (build units known).Reaches owner other.name ∧
            (∃ e, (build units known).StoresFailure other.name e) ∧
            (build units known).supertypes other.name ≠ last.before.supertypes other.name := by
  obtain ⟨last, isLast, made, stop⟩ := exists_last_pass (seed (ofUnits units) known) (ofUnits units)
  have ends : EndsWith units known last := ⟨isLast, made, stop⟩
  refine ⟨last, ends, ?_⟩
  rintro type declared clause ⟨⟨e, failed⟩, found, looked⟩
  have stores := storesFailure_of_mem_storedClauses failed
  have listed := mem_last_of_storesFailure distinct declared isLast stores
  -- the failure is that of the look-up before the last pass, so that the pass made the difference
  obtain ⟨kind, stored⟩ := ends.info?_eq distinct listed
  rw [storedClauses_eq stored] at failed
  obtain ⟨clause', -, same⟩ := List.mem_map.1 failed
  obtain ⟨rfl, before⟩ := Prod.mk.inj same
  have differs : (build units known).lookupReference clause'.name type.scope ≠
      last.before.lookupReference clause'.name type.scope := by
    rw [looked, before]
    exact nofun
  obtain ⟨owner, name, asks, reaches, changed⟩ :=
    exists_changed_of_lookup_ne ends.contains_eq differs
  obtain ⟨other, listed', rfl⟩ := ends.mem_of_changed changed
  exact ⟨owner, asks, other, listed', reaches, ends.storesFailure distinct stores listed listed',
    changed⟩

/-! ## A supertype that comes too late

The only pass finds `Map` and not `Missing` for the outer type.  It does not find `Entry` for the
inner one, which the outer type inherits from `Map`. -/

/-- A type with a supertype that is missing, around one that inherits a member of another. -/
def lateUnit : SourceUnit where
  path := "Outer.java"
  decls :=
    [ .imported { path := "java.util.Map" },
      .type { name := "Outer", kind := .interface }
        [ .supertype ⟨.extends, ⟨["Map"]⟩⟩,
          .supertype ⟨.extends, ⟨["Missing"]⟩⟩,
          .type { name := "Inner", kind := .interface } [.supertype ⟨.extends, ⟨["Entry"]⟩⟩] ] ]

def lateImports : ImportTable := .ofList [{ path := "java.util.Map" }]

def lateInner : DeclaredType where
  name := "Outer.Inner"
  kind := .interface
  supertypes := [⟨.extends, ⟨["Entry"]⟩⟩]
  scope := { imports := lateImports, enclosing := ["Outer"] }

def lateOuter : DeclaredType where
  name := "Outer"
  kind := .interface
  supertypes := [⟨.extends, ⟨["Map"]⟩⟩, ⟨.extends, ⟨["Missing"]⟩⟩]
  scope := { imports := lateImports }

theorem ofUnits_lateUnit : ofUnits [lateUnit] = [lateInner, lateOuter] := by
  cbv

theorem distinct_lateUnit : ((ofUnits [lateUnit]).map DeclaredType.name).Nodup := by
  rw [ofUnits_lateUnit]
  decide

theorem contains_lateUnit {name : String} {known : Bool}
    (h : decide (name ∈ ["Outer.Inner", "Outer"] ++ StandardType.all.map (·.name)) = known) :
    (seed (ofUnits [lateUnit]) []).contains name = known := by
  rw [← contains_build, ← h, Bool.eq_iff_iff, contains_build_iff, ofUnits_lateUnit]
  simp [lateInner, lateOuter, or_assoc]

/-- The inherited member is found as soon as the supertype is stored. -/
theorem lookup_lateInner (names : index.contains = (seed (ofUnits [lateUnit]) []).contains) :
    (index.supertypes "Outer" = [] →
      index.lookupReference ⟨["Entry"]⟩ lateInner.scope = .error (.unknownType "Entry")) ∧
    (index.supertypes "Outer" = ["java.util.Map"] →
      index.lookupReference ⟨["Entry"]⟩ lateInner.scope = .ok "java.util.Map.Entry") := by
  have unknown : ∀ name ∈ ["Outer.Entry", "Entry", "java.lang.Entry"],
      index.contains name = false := by
    have undeclared : ∀ name ∈ ["Outer.Entry", "Entry", "java.lang.Entry"],
        decide (name ∈ ["Outer.Inner", "Outer"] ++ StandardType.all.map (·.name)) = false := by
      decide
    exact fun name h => names ▸ contains_lateUnit (undeclared name h)
  have own : index.contains "Outer.Entry" = false := unknown _ List.mem_cons_self
  have inherited : index.contains "java.util.Map.Entry" = true :=
    names ▸ contains_lateUnit (by decide)
  constructor
  · intro supers
    exact lookupReference_of_unknown supers (by decide) (by cbv) (by cbv) unknown
  · intro supers
    simp [lookupReference, lookup, lookupSimple?, inEnclosing?, memberType?, depthFirst, supers,
      own, inherited, lateInner, member, below, memberPath?]

theorem directSupertypes_lateOuter
    (names : index.contains = (seed (ofUnits [lateUnit]) []).contains) :
    index.directSupertypes lateOuter =
      [.ok "java.util.Map", .error (.unknownType "Missing")] := by
  have map : index.contains "java.util.Map" = true := names ▸ contains_lateUnit (by decide)
  have package : index.contains "Missing" = false := names ▸ contains_lateUnit (by decide)
  have standard : index.contains "java.lang.Missing" = false :=
    names ▸ contains_lateUnit (by decide)
  have imports : lateImports.single? "Map" = some "java.util.Map" := by cbv
  have others : lateImports.single? "Missing" = none := by cbv
  have onDemand : lateImports.onDemand = [] := by cbv
  simp [directSupertypes, lookupReference, lookup, lookupSimple?, map, package, standard, imports,
    others, onDemand, lateOuter, member, qualify, firstKnown?, below, memberPath?, lookupQualified,
    TypeName.dotted, ClassKind.implicitSuperclass?]

theorem lookup_seed_lateInner :
    (seed (ofUnits [lateUnit]) []).lookupReference ⟨["Entry"]⟩ lateInner.scope =
      .error (.unknownType "Entry") := by
  refine (lookup_lateInner rfl).1 ?_
  rw [supertypes, info?_seed, ofUnits_lateUnit]
  rfl

theorem isUnsettled_lateUnit {type : DeclaredType} (declared : type ∈ ofUnits [lateUnit]) :
    (seed (ofUnits [lateUnit]) []).isUnsettled type = true := by
  rw [ofUnits_lateUnit, List.mem_pair] at declared
  rcases declared with rfl | rfl
  · exact isUnsettled_of_clause (List.mem_singleton.2 rfl) lookup_seed_lateInner
  · exact isUnsettled_iff.2 ⟨.unknownType "Missing", by simp [directSupertypes_lateOuter rfl]⟩

/-- The first pass is the last one, since both types are left with a failure. -/
theorem info?_lateUnit {type : DeclaredType} (declared : type ∈ ofUnits [lateUnit]) :
    (build [lateUnit] []).info? type.name =
      some ⟨type.kind, (seed (ofUnits [lateUnit]) []).directSupertypes type⟩ := by
  have stop := List.length_filter_eq_length_iff.2 fun type => @isUnsettled_lateUnit type
  rw [build, settle_of_stop (.inr stop), info?_pass_of_mem distinct_lateUnit declared,
    info?_seed_of_mem distinct_lateUnit declared]
  rfl

theorem stale_lateUnit : (build [lateUnit] []).Stale lateInner ⟨.extends, ⟨["Entry"]⟩⟩ := by
  constructor
  · have stored := info?_lateUnit (ofUnits_lateUnit ▸ List.mem_cons_self : lateInner ∈ _)
    refine ⟨.unknownType "Entry", ?_⟩
    rw [storedClauses_eq stored, ← lookup_seed_lateInner]
    exact List.mem_map.2 ⟨_, List.mem_singleton.2 rfl, rfl⟩
  · have stored : (build [lateUnit] []).info? "Outer" =
        some ⟨.interface, [.ok "java.util.Map", .error (.unknownType "Missing")]⟩ := by
      rw [← directSupertypes_lateOuter rfl]
      exact info?_lateUnit (ofUnits_lateUnit ▸ by simp : lateOuter ∈ _)
    refine ⟨"java.util.Map.Entry", (lookup_lateInner contains_build).2 ?_⟩
    rw [supertypes, stored]
    rfl

/-- The inner type waits for the outer one, which has a failure itself. -/
theorem lateUnit_stale_behind_failure :
    (build [lateUnit] []).Stale lateInner ⟨.extends, ⟨["Entry"]⟩⟩ ∧
    ∃ owner, (build [lateUnit] []).Asks ⟨["Entry"]⟩ lateInner.scope owner ∧
      ∃ other ∈ [lateInner, lateOuter], (build [lateUnit] []).Reaches owner other.name ∧
        ∃ e, (build [lateUnit] []).StoresFailure other.name e := by
  obtain ⟨last, ends, behind⟩ := @build_stale_behind_failure [lateUnit] [] distinct_lateUnit
  obtain ⟨owner, asks, other, listed, reaches, stores, -⟩ :=
    behind lateInner (by simp [ofUnits_lateUnit]) _ stale_lateUnit
  have declared := (types_sublist_of_mem_passes (List.mem_of_getLast? ends.isLast)).subset listed
  exact ⟨stale_lateUnit, owner, asks, other, ofUnits_lateUnit ▸ declared, reaches, stores⟩

/-- Building does not go on until no failure is stale. -/
theorem build_leaves_stale_failures :
    ¬ ∀ (units : List SourceUnit) (known : List KnownType),
      ((ofUnits units).map DeclaredType.name).Nodup →
      ∀ type ∈ ofUnits units, ∀ clause, ¬ (build units known).Stale type clause := by
  intro fixed
  have declared : lateInner ∈ ofUnits [lateUnit] := by simp [ofUnits_lateUnit]
  exact fixed [lateUnit] [] distinct_lateUnit lateInner declared _ stale_lateUnit

end ClassCatalog.TypeIndex
