import ClassCatalog.Extraction
import ClassCatalog.Proofs.TypeIndex.Building
import ClassCatalog.Proofs.TypeIndex.Dependence

/-!
# The order of source units

An index is asked only for what it stores under a name, so that two indexes that agree on this give
the same answers to every question (`Agrees.resolver_eq`).  A pass looks all its types up in one and
the same index, and with distinct names each of them changes an entry of its own.  Hence passes over
the same types in another order leave indexes that agree, and they leave the same types unsettled,
so that both runs stop after the same pass (`agrees_settle`).
-/

namespace ClassCatalog.TypeIndex

/-- Two indexes store the same under every name. -/
def Agrees (index other : TypeIndex) : Prop :=
  ∀ name, index.info? name = other.info? name

/-! ## The same answers -/

namespace Agrees

variable {index other : TypeIndex}

theorem contains_eq (agrees : index.Agrees other) : index.contains = other.contains := by
  funext name
  rw [contains_eq_isSome, contains_eq_isSome, agrees name]

theorem kind?_eq (agrees : index.Agrees other) : index.kind? = other.kind? := by
  funext name
  rw [kind?, kind?, agrees name]

theorem supertypes_eq (agrees : index.Agrees other) (name : String) :
    index.supertypes name = other.supertypes name := by
  rw [supertypes, supertypes, agrees name]

theorem lookup_eq (agrees : index.Agrees other) (name : TypeName) (scope : Scope) :
    index.lookup name scope = other.lookup name scope :=
  lookup_congr agrees.contains_eq fun _ _ =>
    memberType?_congr agrees.contains_eq fun type _ => agrees.supertypes_eq type

theorem resolve_eq (agrees : index.Agrees other) (type : TypeExpr) (scope : Scope) :
    index.resolve type scope = other.resolve type scope := by
  induction type with
  | inferred => rfl
  | primitive p => rfl
  | named name => exact agrees.lookup_eq name scope
  | array element dimensions ih => rw [resolve, resolve, ih]

theorem ancestorsAlong_eq (agrees : index.Agrees other) (path : List String) (name : String) :
    index.ancestorsAlong path name = other.ancestorsAlong path name := by
  refine (ancestorsAlong.mutual_induct index
    (fun path name => index.ancestorsAlong path name = other.ancestorsAlong path name)
    (fun path supertypes listed => index.ancestorsThrough path supertypes listed =
      other.ancestorsThrough path supertypes listed) ?_ ?_ ?_ ?_ ?_ ?_ ?_).1 path name
  · intro path name cyclic
    rw [ancestorsAlong, ancestorsAlong, dif_pos cyclic, dif_pos cyclic]
  · intro path name new missing
    have missing' := (agrees name).symm.trans missing
    rw [ancestorsAlong, ancestorsAlong, dif_neg new, dif_neg new]
    split <;> split <;> simp_all
  · intro path name new entry found ih
    have found' := (agrees name).symm.trans found
    rw [ancestorsAlong, ancestorsAlong, dif_neg new, dif_neg new]
    split <;> split <;> simp_all
  · intro path listed
    rw [ancestorsThrough, ancestorsThrough]
  · intro path e rest listed
    rw [ancestorsThrough, ancestorsThrough]
  · intro path super rest listed e failed ih
    rw [ancestorsThrough, ancestorsThrough, ← ih, failed]
  · intro path super rest listed inherited found ih ihRest
    rw [ancestorsThrough, ancestorsThrough, ← ih, found]
    exact ihRest

theorem resolver_eq (agrees : index.Agrees other) : index.resolver = other.resolver := by
  have resolve : index.resolve = other.resolve := by
    funext type scope
    exact agrees.resolve_eq type scope
  have ancestors : index.ancestors = other.ancestors := by
    funext name
    exact agrees.ancestorsAlong_eq [] name
  rw [resolver, resolver, resolve, ancestors]

theorem directSupertypes_eq (agrees : index.Agrees other) (type : DeclaredType) :
    index.directSupertypes type = other.directSupertypes type := by
  simp only [directSupertypes, lookupReference, agrees.lookup_eq]

theorem isUnsettled_eq (agrees : index.Agrees other) : index.isUnsettled = other.isUnsettled := by
  funext type
  rw [isUnsettled, isUnsettled, agrees.directSupertypes_eq]

end Agrees

/-! ## The same passes -/

section Order

variable {index other : TypeIndex} {types types' : List DeclaredType}

theorem Agrees.pass (agrees : index.Agrees other) (perm : types.Perm types')
    (distinct : (types.map DeclaredType.name).Nodup) :
    (index.pass types).Agrees (other.pass types') := by
  have distinct' := (perm.map DeclaredType.name).nodup_iff.1 distinct
  intro name
  by_cases declared : name ∈ types.map DeclaredType.name
  · obtain ⟨type, h, rfl⟩ := List.mem_map.1 declared
    rw [info?_pass_of_mem distinct h, info?_pass_of_mem distinct' (perm.mem_iff.1 h),
      agrees type.name, agrees.directSupertypes_eq]
  · have declared' := fun h => declared ((perm.map DeclaredType.name).mem_iff.2 h)
    rw [info?_pass_of_not_mem declared, info?_pass_of_not_mem declared', agrees name]

theorem Agrees.unsettled_perm (agrees : index.Agrees other) (perm : types.Perm types') :
    (index.unsettled types).Perm (other.unsettled types') := by
  rw [unsettled, unsettled, agrees.isUnsettled_eq]
  exact perm.filter _

theorem Agrees.stops_iff (agrees : index.Agrees other) (perm : types.Perm types') :
    (index.unsettled types = [] ∨ (index.unsettled types).length = types.length) ↔
      (other.unsettled types' = [] ∨ (other.unsettled types').length = types'.length) := by
  have left := agrees.unsettled_perm perm
  rw [← List.length_eq_zero_iff, ← List.length_eq_zero_iff, left.length_eq, perm.length_eq]

-- Both runs go on or stop together, so that the induction over the one follows the other.
theorem agrees_settle (distinct : (types.map DeclaredType.name).Nodup) :
    ∀ {other : TypeIndex} {types' : List DeclaredType}, index.Agrees other → types.Perm types' →
      (index.settle types).Agrees (other.settle types') := by
  fun_induction settle index types with
  | case1 index types remaining stop =>
    intro other types' agrees perm
    rw [settle_of_stop ((agrees.stops_iff perm).1 stop)]
    exact agrees.pass perm distinct
  | case2 index types remaining go ih =>
    intro other types' agrees perm
    have kept : (remaining.map DeclaredType.name).Nodup :=
      distinct.sublist (List.filter_sublist.map _)
    rw [settle_of_go fun stop => go ((agrees.stops_iff perm).2 stop)]
    exact ih kept (agrees.pass perm distinct) (agrees.unsettled_perm perm)

theorem agrees_seed (perm : types.Perm types') (distinct : (types.map DeclaredType.name).Nodup)
    (known : List KnownType) : (seed types known).Agrees (seed types' known) := by
  have distinct' := (perm.map DeclaredType.name).nodup_iff.1 distinct
  intro name
  by_cases declared : name ∈ types.map DeclaredType.name
  · obtain ⟨type, h, rfl⟩ := List.mem_map.1 declared
    rw [info?_seed_of_mem distinct h, info?_seed_of_mem distinct' (perm.mem_iff.1 h)]
  · have declared' := fun h => declared ((perm.map DeclaredType.name).mem_iff.2 h)
    rw [info?_seed_of_not_mem declared, info?_seed_of_not_mem declared']

theorem agrees_build {units units' : List SourceUnit} (perm : units.Perm units')
    (distinct : ((DeclaredType.ofUnits units).map DeclaredType.name).Nodup)
    (known : List KnownType) : (build units known).Agrees (build units' known) := by
  have declared : (DeclaredType.ofUnits units).Perm (DeclaredType.ofUnits units') :=
    perm.flatMap_right DeclaredType.ofUnit
  exact agrees_settle distinct (agrees_seed declared distinct known) declared

end Order

/-- Where the declared types have distinct names, the order of the source units does not matter: the
index stores the same under every name, the failures included, and gives the same answers, and every
unit is documented in the same way. -/
theorem build_order_irrelevant {units units' : List SourceUnit} (perm : units.Perm units')
    (distinct : ((DeclaredType.ofUnits units).map DeclaredType.name).Nodup)
    (known : List KnownType) :
    (build units known).info? = (build units' known).info? ∧
    (build units known).contains = (build units' known).contains ∧
    (build units known).kind? = (build units' known).kind? ∧
    (build units known).resolve = (build units' known).resolve ∧
    (build units known).ancestors = (build units' known).ancestors ∧
    ∀ unit, extractUnit (build units known).resolver unit =
      extractUnit (build units' known).resolver unit := by
  have agrees := agrees_build perm distinct known
  have resolver := agrees.resolver_eq
  refine ⟨funext agrees, agrees.contains_eq, agrees.kind?_eq, congrArg Resolver.resolve resolver,
    congrArg Resolver.ancestors resolver, fun unit => ?_⟩
  rw [resolver]

/-- A class whose inner class extends a member that only the outer one makes visible. -/
def heirUnit : SourceUnit where
  path := "Outer.java"
  decls :=
    [ .type { name := "Outer" }
        [ .supertype ⟨.extends, ⟨["Base"]⟩⟩,
          .type { name := "E" } [.supertype ⟨.extends, ⟨["X"]⟩⟩] ] ]

/-- The class with that member. -/
def baseUnit : SourceUnit where
  path := "Base.java"
  decls := [.type { name := "Base" } [.type { name := "X" } []]]

/-- The inner class needs a second pass in either order. -/
theorem build_swapped_units :
    ((DeclaredType.ofUnits [heirUnit, baseUnit]).map DeclaredType.name).Nodup ∧
    (build [heirUnit, baseUnit] []).info? = (build [baseUnit, heirUnit] []).info? ∧
    extractUnit (build [heirUnit, baseUnit] []).resolver heirUnit =
      extractUnit (build [baseUnit, heirUnit] []).resolver heirUnit := by
  have names : (DeclaredType.ofUnits [heirUnit, baseUnit]).map DeclaredType.name =
      ["Outer.E", "Outer", "Base.X", "Base"] := by
    cbv
  have distinct : ((DeclaredType.ofUnits [heirUnit, baseUnit]).map DeclaredType.name).Nodup := by
    rw [names]
    decide
  obtain ⟨stored, -, -, -, -, extracted⟩ :=
    build_order_irrelevant (List.Perm.swap baseUnit heirUnit []) distinct []
  exact ⟨distinct, stored, extracted heirUnit⟩

end ClassCatalog.TypeIndex
