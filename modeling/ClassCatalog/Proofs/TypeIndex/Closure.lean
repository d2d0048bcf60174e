import ClassCatalog.Proofs.Except
import ClassCatalog.Proofs.TypeIndex.Building
import ClassCatalog.Proofs.TypeIndex.Reachability
import Mathlib.Data.List.Induction

/-!
# What stored supertypes and look-ups lead to

A look-up in a scope whose enclosing types are known gives a known type, or a name below the path of
an import (`lookup_accounts`).  So do the look-ups of every pass, since a pass changes no names, and
the types known from the start name only known types.  Together: every supertype stored in a built
index is known or imported (`closed_build`).  No look-up fails for want of a declaration, so that
such a failure is never stored either.
-/

namespace ClassCatalog

open Text

/-! ## Imported names -/

/-- Whether an import makes one type visible under its simple name. -/
def Import.isSingleType (entry : Import) : Bool :=
  !entry.isStatic && !entry.onDemand

/-- The unit imports a type by its path, and the name is this path or one with further segments
behind it. -/
def SourceUnit.Imports (unit : SourceUnit) (name : String) : Prop :=
  ∃ entry ∈ unit.imports, entry.isSingleType = true ∧
    ∃ segments : List String, name = segments.foldl member entry.path

namespace ImportTable

theorem single?_add {imports : ImportTable} {entry : Import} {simple path : String}
    (found : (imports.add entry).single? simple = some path) :
    imports.single? simple = some path ∨ entry.isSingleType = true ∧ entry.path = path := by
  rw [add] at found
  split at found
  · exact .inl found
  · rename_i named
    split at found
    · split at found <;> exact .inl found
    · rename_i single
      rw [single?, Table.get?_insert] at found
      split at found
      · exact .inr ⟨by simp [Import.isSingleType, named, single], Option.some.inj found⟩
      · exact .inl found

theorem single?_ofList {entries : List Import} {simple path : String}
    (found : (ofList entries).single? simple = some path) :
    ∃ entry ∈ entries, entry.isSingleType = true ∧ entry.path = path := by
  induction entries using List.reverseRecOn with
  | nil => cases found
  | append_singleton front entry ih =>
    rw [ofList, List.foldl_append, List.foldl_cons, List.foldl_nil] at found
    rcases single?_add found with before | ⟨single, same⟩
    · obtain ⟨other, h, rest⟩ := ih before
      exact ⟨other, List.mem_append_left _ h, rest⟩
    · exact ⟨entry, by simp, single, same⟩

end ImportTable

/-- The class or interface that a type is made of. -/
def ResolvedType.named? : ResolvedType → Option String
  | reference name => some name
  | array element => element.named?
  | _ => none

theorem ResolvedType.named?_arrayOf (type : ResolvedType) (dimensions : Nat) :
    (type.arrayOf dimensions).named? = type.named? := by
  induction dimensions with
  | zero => rfl
  | succ n ih => exact ih

namespace TypeIndex

/-- The name is known, or one of the units imports it. -/
def Accounts (index : TypeIndex) (units : List SourceUnit) (name : String) : Prop :=
  index.contains name = true ∨ ∃ unit ∈ units, unit.Imports name

/-- The types around a scope are known, and its imports are those of one of the units. -/
structure Covers (index : TypeIndex) (units : List SourceUnit) (scope : Scope) : Prop where
  enclosing : ∀ name ∈ scope.enclosing, index.contains name = true
  imports : ∃ unit ∈ units, scope.imports = ImportTable.ofList unit.imports

/-! ## Look-ups -/

variable {index : TypeIndex} {units : List SourceUnit}

theorem contains_of_memberType? {owner simple type : String}
    (found : index.memberType? owner simple = some type) : index.contains type = true := by
  obtain ⟨holder, -, h⟩ := List.exists_of_findSome?_eq_some found
  split at h
  · rename_i known
    rwa [← Option.some.inj h]
  · cases h

theorem contains_of_memberPath? {base : String} {segments : List String} {type : String}
    (known : index.contains base = true) (found : index.memberPath? base segments = some type) :
    index.contains type = true := by
  induction segments generalizing base with
  | nil => rwa [← Option.some.inj found]
  | cons segment rest ih =>
    obtain ⟨inner, first, more⟩ := Option.bind_eq_some_iff.1 found
    exact ih (contains_of_memberType? first) more

theorem contains_of_below {base : String} {rest : List String} {full : TypeName} {type : String}
    (known : index.contains base = true) (found : index.below base rest full = .ok type) :
    index.contains type = true := by
  rw [below, if_pos known] at found
  split at found
  · rename_i inner path
    rw [← Except.ok.inj found]
    exact contains_of_memberPath? known path
  · cases found

theorem below_imported {unit : SourceUnit} {entry : Import} {rest : List String} {full : TypeName}
    {type : String} (imported : entry ∈ unit.imports) (single : entry.isSingleType = true)
    (found : index.below entry.path rest full = .ok type) :
    index.contains type = true ∨ unit.Imports type := by
  cases known : index.contains entry.path with
  | true => exact .inl (contains_of_below known found)
  | false =>
    -- nothing is known of the import, so that the segments are taken as they are
    rw [below, known] at found
    exact .inr ⟨entry, imported, single, rest, (Except.ok.inj found).symm⟩

theorem lookupSimple?_eq_some {simple base : String} {scope : Scope}
    (covers : index.Covers units scope) (found : index.lookupSimple? simple scope = some base) :
    index.contains base = true ∨
      ∃ unit ∈ units, ∃ entry ∈ unit.imports, entry.isSingleType = true ∧ entry.path = base := by
  rw [lookupSimple?, Option.or_eq_some_iff, Option.or_eq_some_iff] at found
  rcases found with inside | ⟨-, imported | ⟨-, known⟩⟩
  · left
    obtain ⟨enclosing, around, h⟩ := List.exists_of_findSome?_eq_some inside
    rw [inEnclosing?] at h
    split at h
    · rename_i type member
      rw [← Option.some.inj h]
      exact contains_of_memberType? member
    · split at h
      · rw [← Option.some.inj h]
        exact covers.enclosing enclosing (List.mem_reverse.1 around)
      · cases h
  · right
    obtain ⟨unit, h, table⟩ := covers.imports
    rw [table] at imported
    exact ⟨unit, h, ImportTable.single?_ofList imported⟩
  · exact .inl (List.find?_some known)

theorem contains_of_lookupQualified {full : TypeName} {taken segments : List String} {type : String}
    (found : index.lookupQualified full taken segments = .ok type) :
    index.contains type = true := by
  induction segments generalizing taken with
  | nil => cases found
  | cons segment rest ih =>
    rw [lookupQualified] at found
    split at found
    · rename_i known
      exact contains_of_below known found
    · exact ih found

theorem lookup_eq_ok {name : TypeName} {scope : Scope} {resolved : ResolvedType}
    (found : index.lookup name scope = .ok resolved) :
    (∃ simple, resolved = .typeVariable simple) ∨
      ∃ type, resolved = .reference type ∧
        ((∃ first base rest, index.lookupSimple? first scope = some base ∧
            index.below base rest name = .ok type) ∨
          index.lookupQualified name [] name.segments = .ok type) := by
  rw [lookup] at found
  split at found
  · cases found
  · rename_i first rest segments
    split at found
    · exact .inl ⟨first, (Except.ok.inj found).symm⟩
    · obtain ⟨type, looked, rfl⟩ := map_eq_ok_iff.1 found
      refine .inr ⟨type, rfl, ?_⟩
      split at looked
      · rename_i base simple
        exact .inl ⟨first, base, rest, simple, looked⟩
      · exact .inr looked

theorem lookup_accounts {name : TypeName} {scope : Scope} {resolved : ResolvedType}
    (covers : index.Covers units scope) (found : index.lookup name scope = .ok resolved) :
    ∀ type ∈ resolved.named?, index.Accounts units type := by
  rcases lookup_eq_ok found with ⟨simple, rfl⟩ | ⟨type, rfl, way⟩
  · simp [ResolvedType.named?]
  · intro type' same
    obtain rfl := Option.some.inj same
    rcases way with ⟨first, base, rest, simple, looked⟩ | looked
    · rcases lookupSimple?_eq_some covers simple with
        known | ⟨unit, h, entry, imported, single, rfl⟩
      · exact .inl (contains_of_below known looked)
      · exact (below_imported imported single looked).imp_right fun imports => ⟨unit, h, imports⟩
    · exact .inl (contains_of_lookupQualified looked)

theorem resolve_accounts {type : TypeExpr} {scope : Scope} {resolved : ResolvedType}
    (covers : index.Covers units scope) (found : index.resolve type scope = .ok resolved) :
    ∀ name ∈ resolved.named?, index.Accounts units name := by
  induction type generalizing resolved with
  | inferred => cases found
  | primitive p =>
    obtain rfl := Except.ok.inj found
    simp [ResolvedType.named?]
  | named written => exact lookup_accounts covers found
  | array element dimensions ih =>
    obtain ⟨inner, looked, rfl⟩ := map_eq_ok_iff.1 found
    rw [ResolvedType.named?_arrayOf]
    exact ih looked

/-! ## No look-up asks for a declaration -/

theorem below_eq_error {base : String} {rest : List String} {full : TypeName} {e : ResolveError}
    (failed : index.below base rest full = .error e) : e = .unknownType full.dotted := by
  rw [below] at failed
  split at failed
  · split at failed
    · cases failed
    · exact (Except.error.inj failed).symm
  · cases failed

theorem lookupQualified_eq_error {full : TypeName} {taken segments : List String} {e : ResolveError}
    (failed : index.lookupQualified full taken segments = .error e) :
    e = .unknownType full.dotted := by
  induction segments generalizing taken with
  | nil => exact (Except.error.inj failed).symm
  | cons segment rest ih =>
    rw [lookupQualified] at failed
    split at failed
    · exact below_eq_error failed
    · exact ih failed

theorem lookup_eq_error {name : TypeName} {scope : Scope} {e : ResolveError}
    (failed : index.lookup name scope = .error e) : e = .unknownType name.dotted := by
  rw [lookup] at failed
  split at failed
  · exact (Except.error.inj failed).symm
  · split at failed
    · cases failed
    · have looked := map_eq_error_iff.1 failed
      split at looked
      · exact below_eq_error looked
      · exact lookupQualified_eq_error looked

theorem resolve_eq_error {type : TypeExpr} {scope : Scope} {e : ResolveError}
    (failed : index.resolve type scope = .error e) :
    e = .inferredType ∨ ∃ name, e = .unknownType name := by
  induction type with
  | inferred => exact .inl (Except.error.inj failed).symm
  | primitive p => cases failed
  | named name => exact .inr ⟨_, lookup_eq_error failed⟩
  | array element dimensions ih =>
    exact ih (map_eq_error_iff.1 failed)

/-! ## Names of a built index -/

section Names

variable {α : Type} {step : TypeIndex → α → TypeIndex} (key : α → String)

theorem contains_foldl_iff
    (enters : ∀ index x name, (step index x).contains name = true ↔
      key x = name ∨ index.contains name = true)
    (xs : List α) (index : TypeIndex) (name : String) :
    (xs.foldl step index).contains name = true ↔
      name ∈ xs.map key ∨ index.contains name = true := by
  induction xs generalizing index with
  | nil => simp
  | cons x rest ih =>
    rw [List.foldl_cons, ih, enters, List.map_cons, List.mem_cons, eq_comm, or_left_comm, or_assoc]

end Names

theorem contains_insert_iff (index : TypeIndex) (name key : String) (entry : TypeEntry) :
    (index.insert name entry).contains key = true ↔ name = key ∨ index.contains key = true := by
  rw [contains_eq_isSome, info?_insert, contains_eq_isSome]
  by_cases same : name = key <;> simp [same]

theorem contains_insertResolved_iff (index : TypeIndex) (name key : String) (kind : ClassKind)
    (superclass : Option String) (interfaces : List String) :
    (index.insertResolved name kind superclass interfaces).contains key = true ↔
      name = key ∨ index.contains key = true :=
  contains_insert_iff _ _ _ _

theorem contains_standard_iff (name : String) :
    standard.contains name = true ↔ name ∈ StandardType.all.map (·.name) := by
  have empty : ({} : TypeIndex).contains name = false := rfl
  rw [standard, contains_foldl_iff (fun type : StandardType => type.name)
    (fun index type name => contains_insertResolved_iff _ _ _ _ _ _), empty]
  simp

theorem contains_build_iff {known : List KnownType} {name : String} :
    (build units known).contains name = true ↔
      name ∈ (DeclaredType.ofUnits units).map DeclaredType.name ∨
        name ∈ known.map KnownType.name ∨ name ∈ StandardType.all.map (·.name) := by
  have enters (index : TypeIndex) (type : KnownType) (name : String) :
      (index.insertKnown type).contains name = true ↔
        type.name = name ∨ index.contains name = true :=
    contains_insertResolved_iff _ _ _ _ _ _
  rw [contains_build, seed, contains_foldl_iff DeclaredType.name
      (fun index type name => contains_insert_iff _ _ _ _),
    contains_foldl_iff KnownType.name enters, contains_standard_iff]

/-! ## Stored supertypes -/

/-- A stored supertype that is fine: one with a property, or a failure that is not for want of a
declaration. -/
def Storable (P : String → Prop) : Except ResolveError String → Prop
  | .ok type => P type
  | .error e => ∀ name, e ≠ .missingDeclaration name

/-- All stored supertypes are fine. -/
def Closed (index : TypeIndex) (P : String → Prop) : Prop :=
  ∀ name entry, index.info? name = some entry → ∀ stored ∈ entry.supertypes, Storable P stored

namespace Closed

variable {P : String → Prop}

theorem insert (closed : index.Closed P) (name : String) {entry : TypeEntry}
    (fine : ∀ stored ∈ entry.supertypes, Storable P stored) :
    (index.insert name entry).Closed P := by
  intro key entry' found
  rw [info?_insert] at found
  split at found
  · rwa [← Option.some.inj found]
  · exact closed key entry' found

theorem setSupertypes (closed : index.Closed P) (name : String)
    {supertypes : List (Except ResolveError String)}
    (fine : ∀ stored ∈ supertypes, Storable P stored) :
    (index.setSupertypes name supertypes).Closed P := by
  intro key entry' found
  rw [info?_setSupertypes] at found
  split at found
  · obtain ⟨entry, -, rfl⟩ := Option.map_eq_some_iff.1 found
    exact fine
  · exact closed key entry' found

theorem insertResolved (closed : index.Closed P) (name : String) (kind : ClassKind)
    {superclass : Option String} {interfaces : List String}
    (implicit : ∀ parent ∈ kind.implicitSuperclass?, P parent)
    (named : ∀ parent ∈ superclass.toList ++ interfaces, P parent) :
    (index.insertResolved name kind superclass interfaces).Closed P := by
  refine closed.insert name fun stored h => ?_
  obtain ⟨parent, listed, rfl⟩ := List.mem_map.1 h
  rcases List.mem_append.1 listed with above | listed
  · split at above
    · exact named parent (List.mem_append_left _ above)
    · split at above
      · cases above
      · exact implicit parent (Option.mem_toList.1 above)
  · exact named parent (List.mem_append_right _ listed)

theorem pass (closed : index.Closed P) {types : List DeclaredType}
    (fine : ∀ type ∈ types, ∀ stored ∈ index.directSupertypes type, Storable P stored) :
    (index.pass types).Closed P := by
  rw [pass_eq_foldl]
  refine List.foldlRecOn (motive := (TypeIndex.Closed · P)) types _ closed ?_
  intro result ih type h
  exact ih.setSupertypes type.name (fine type h)

-- Each pass has an index of its own, but it knows the same names as the first one.
theorem settle {types : List DeclaredType} (closed : index.Closed P)
    (fine : ∀ stage : TypeIndex, stage.contains = index.contains →
      ∀ type ∈ types, ∀ stored ∈ stage.directSupertypes type, Storable P stored) :
    (index.settle types).Closed P := by
  fun_induction TypeIndex.settle index types with
  | case1 index types remaining stop => exact closed.pass (fine index rfl)
  | case2 index types remaining go ih =>
    refine ih (closed.pass (fine index rfl)) fun stage same type h => ?_
    exact fine stage (same.trans (contains_pass index types)) type (List.mem_filter.1 h).1

theorem of_reaches (closed : index.Closed P) {name other : String} (start : P name)
    (reaches : index.Reaches name other) : P other := by
  induction reaches with
  | refl => exact start
  | @tail sub super _ edge _ =>
    cases found : index.info? sub with
    | none => simp [Edge, supertypes, found] at edge
    | some entry =>
      have stored := (edge_iff_of_info? found super).1 edge
      exact closed sub entry found (.ok super) stored

end Closed

/-! ## The types known from the start -/

theorem standard_parents :
    ∀ type ∈ StandardType.all, ∀ parent ∈ type.superclass.toList ++ type.interfaces,
      parent ∈ StandardType.all.map (·.name) := by
  decide +kernel

theorem standard_implicit (kind : ClassKind) :
    ∀ parent ∈ kind.implicitSuperclass?, parent ∈ StandardType.all.map (·.name) := by
  cases kind <;> simp only [ClassKind.implicitSuperclass?, Option.mem_def, Option.some.injEq,
    reduceCtorEq, false_implies, implies_true, forall_eq'] <;> decide +kernel

theorem closed_standard {P : String → Prop}
    (known : ∀ name ∈ StandardType.all.map (·.name), P name) : standard.Closed P := by
  refine List.foldlRecOn (motive := (TypeIndex.Closed · P)) StandardType.all _ ?_ ?_
  · intro name entry found
    cases found
  · intro index closed type h
    exact closed.insertResolved type.name type.kind
      (fun parent h => known parent (standard_implicit type.kind parent h))
      (fun parent h' => known parent (standard_parents type h parent h'))

theorem closed_seed {P : String → Prop} {known : List KnownType}
    (standard : ∀ name ∈ StandardType.all.map (·.name), P name)
    (named : ∀ type ∈ known, ∀ parent ∈ type.superclass.toList ++ type.interfaces, P parent)
    (types : List DeclaredType) : (seed types known).Closed P := by
  have configured : (known.foldl insertKnown TypeIndex.standard).Closed P := by
    refine List.foldlRecOn (motive := (TypeIndex.Closed · P)) known _ (closed_standard standard) ?_
    intro index closed type h
    exact closed.insertResolved type.name _
      (fun parent h => standard parent (standard_implicit _ parent h)) (named type h)
  refine List.foldlRecOn (motive := (TypeIndex.Closed · P)) types _ configured ?_
  intro index closed type h
  exact closed.insert type.name (by simp)

end TypeIndex

/-! ## Scopes of declared types -/

/-- A scope inside an outer one: the imports are the same, and the types around it are those around
the outer one and some of the given names. -/
def Scope.Within (scope outer : Scope) (names : List String) : Prop :=
  scope.imports = outer.imports ∧ scope.enclosing ⊆ outer.enclosing ++ names

theorem Scope.Within.mono {scope outer : Scope} {names more : List String}
    (within : scope.Within outer names) (subset : names ⊆ more) : scope.Within outer more := by
  refine ⟨within.1, fun name h => ?_⟩
  rcases List.mem_append.1 (within.2 h) with around | inside
  · exact List.mem_append_left _ around
  · exact List.mem_append_right _ (subset inside)

namespace DeclaredType

mutual

theorem within_ofDecl : ∀ (decl : Decl) (scope : Scope), ∀ type ∈ ofDecl scope decl,
    type.scope.Within scope ((ofDecl scope decl).map name)
  | .type head members, scope, type, h => by
    rw [ofDecl] at h ⊢
    rcases List.mem_append.1 h with inner | own
    · obtain ⟨imports, enclosing⟩ := within_ofMembers members _ type inner
      refine ⟨imports, fun name around => ?_⟩
      have := enclosing around
      simp only [innerScope, List.mem_append, List.mem_singleton] at this
      simp only [List.map_append, List.mem_append, List.map_cons, List.map_nil, List.mem_singleton]
      rcases this with (outside | self) | nested
      · exact .inl outside
      · exact .inr (.inr self)
      · exact .inr (.inl nested)
    · obtain rfl := List.mem_singleton.1 own
      exact ⟨rfl, List.subset_append_left _ _⟩

theorem within_ofMembers : ∀ (decls : List Decl) (scope : Scope), ∀ type ∈ ofMembers scope decls,
    type.scope.Within scope ((ofMembers scope decls).map name)
  | .type head members :: rest, scope, type, h => by
    rw [ofMembers] at h ⊢
    rw [List.map_append]
    rcases List.mem_append.1 h with first | more
    · exact (within_ofDecl (.type head members) scope type first).mono
        (List.subset_append_left _ _)
    · exact (within_ofMembers rest scope type more).mono (List.subset_append_right _ _)
  | .method head members :: rest, scope, type, h => by
    rw [ofMembers] at h ⊢
    rw [List.map_append]
    rcases List.mem_append.1 h with inner | more
    · obtain ⟨imports, enclosing⟩ := within_ofLocals members _ type inner
      exact Scope.Within.mono ⟨imports, enclosing⟩ (List.subset_append_left _ _)
    · exact (within_ofMembers rest scope type more).mono (List.subset_append_right _ _)
  | .package _ :: rest, scope, type, h => within_ofMembers rest scope type h
  | .imported _ :: rest, scope, type, h => within_ofMembers rest scope type h
  | .parameter _ :: rest, scope, type, h => within_ofMembers rest scope type h
  | .supertype _ :: rest, scope, type, h => within_ofMembers rest scope type h

theorem within_ofLocals : ∀ (decls : List Decl) (scope : Scope), ∀ type ∈ ofLocals scope decls,
    type.scope.Within scope ((ofLocals scope decls).map name)
  | .type head members :: rest, scope, type, h => by
    rw [ofLocals] at h ⊢
    rw [List.map_append]
    rcases List.mem_append.1 h with first | more
    · exact (within_ofDecl (.type head members) scope type first).mono
        (List.subset_append_left _ _)
    · exact (within_ofLocals rest scope type more).mono (List.subset_append_right _ _)
  | .method _ _ :: rest, scope, type, h => within_ofLocals rest scope type h
  | .package _ :: rest, scope, type, h => within_ofLocals rest scope type h
  | .imported _ :: rest, scope, type, h => within_ofLocals rest scope type h
  | .parameter _ :: rest, scope, type, h => within_ofLocals rest scope type h
  | .supertype _ :: rest, scope, type, h => within_ofLocals rest scope type h

end

theorem within_ofUnit {unit : SourceUnit} {type : DeclaredType} (h : type ∈ ofUnit unit) :
    type.scope.Within (unitScope unit) ((ofUnit unit).map name) := by
  obtain ⟨decl, declared, own⟩ := List.mem_flatMap.1 h
  refine (within_ofDecl decl (unitScope unit) type own).mono (List.map_subset _ fun other h => ?_)
  exact List.mem_flatMap.2 ⟨decl, declared, h⟩

end DeclaredType

namespace TypeIndex

theorem covers_of_within {units : List SourceUnit} {known : List KnownType} {stage : TypeIndex}
    (same : stage.contains = (build units known).contains) {unit : SourceUnit} (h : unit ∈ units)
    {scope : Scope} (within : scope.Within (DeclaredType.unitScope unit)
      ((DeclaredType.ofUnit unit).map DeclaredType.name)) : stage.Covers units scope := by
  refine ⟨fun name around => ?_, unit, h, within.1⟩
  have declared : name ∈ (DeclaredType.ofUnit unit).map DeclaredType.name := within.2 around
  obtain ⟨type, own, rfl⟩ := List.mem_map.1 declared
  rw [same, contains_build_iff]
  exact .inl (List.mem_map_of_mem (List.mem_flatMap.2 ⟨unit, h, own⟩))

theorem storable_directSupertypes {index : TypeIndex} {units : List SourceUnit}
    {type : DeclaredType} (covers : index.Covers units type.scope)
    (standard : ∀ name ∈ StandardType.all.map (·.name), index.contains name = true) :
    ∀ stored ∈ index.directSupertypes type, Storable (index.Accounts units) stored := by
  intro stored h
  rcases List.mem_append.1 h with implicit | looked
  · obtain ⟨parent, unnamed, rfl⟩ := List.mem_map.1 implicit
    split at unnamed
    · cases unnamed
    · have listed := standard_implicit type.kind parent (Option.mem_toList.1 unnamed)
      exact .inl (standard parent listed)
  · obtain ⟨s, -, rfl⟩ := List.mem_map.1 looked
    rw [lookupReference]
    split
    · rename_i name found
      exact lookup_accounts covers found name rfl
    · rintro name ⟨⟩
    · rename_i e failed
      rw [lookup_eq_error failed]
      rintro name ⟨⟩

/-- In a built index every stored supertype is known or imported, provided that the types of the
configuration name known types. -/
theorem closed_build {units : List SourceUnit} {known : List KnownType}
    (named : ∀ type ∈ known, ∀ parent ∈ type.superclass.toList ++ type.interfaces,
      (build units known).contains parent = true) :
    (build units known).Closed ((build units known).Accounts units) := by
  have standard : ∀ name ∈ StandardType.all.map (·.name),
      (build units known).contains name = true :=
    fun name h => contains_build_iff.2 (.inr (.inr h))
  have start := closed_seed (P := (build units known).Accounts units)
    (fun name h => .inl (standard name h)) (fun type h parent h' => .inl (named type h parent h'))
    (DeclaredType.ofUnits units)
  refine start.settle ?_
  intro stage same type declared
  obtain ⟨unit, h, own⟩ := List.mem_flatMap.1 declared
  have names : stage.contains = (build units known).contains := same.trans contains_build.symm
  have covers := covers_of_within names h (DeclaredType.within_ofUnit own)
  have fine := storable_directSupertypes covers (names ▸ standard)
  have accounts : stage.Accounts units = (build units known).Accounts units := by
    funext name
    rw [Accounts, Accounts, names]
  rwa [accounts] at fine

end TypeIndex

end ClassCatalog
