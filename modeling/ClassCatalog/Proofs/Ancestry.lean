import ClassCatalog.Proofs.Selection
import ClassCatalog.Proofs.TypeIndex.Building
import ClassCatalog.Proofs.TypeIndex.Dependence

/-!
# Ancestry across documents

The ancestors in the document of a class come from looking its supertype clauses up in the finished
index, while its subtypes reach them through the supertypes that were stored for it on the way to
that index.  An index upholds a declared type if the second way leads to everything the first one
leads to; this is so when the clauses, looked up again, stand for the stored types, as simple names
outside of all types always do.  A subtype has all ancestors of a type that is upheld, and where it
inherits from that type alone, it has them only then.

Not every type is upheld.  Supertypes that the first pass finds are not looked up again, though a
member type that an enclosing class inherits may hide them in the finished index
(`SourceUnit.shadowed`).
-/

namespace ClassCatalog

namespace TypeIndex

/-- The clauses of a declared type stand for the supertypes stored under its name. -/
def IsSettled (index : TypeIndex) (type : DeclaredType) : Prop :=
  (index.info? type.name).map TypeEntry.supertypes = some (index.directSupertypes type)

/-- What the clauses of a declared type lead to is reached from its name along stored supertypes,
the root type not counting. -/
def Upholds (index : TypeIndex) (type : DeclaredType) : Prop :=
  ∀ s ∈ type.supertypes, ∀ found, index.lookupReference s.name type.scope = .ok found →
    ∀ above, index.Reaches found above → above ≠ rootType → index.Reaches type.name above

variable {index : TypeIndex}

theorem IsSettled.edge {type : DeclaredType} (settled : index.IsSettled type) {s : Supertype}
    (declared : s ∈ type.supertypes) {found : String}
    (looked : index.lookupReference s.name type.scope = .ok found) :
    index.Edge type.name found := by
  obtain ⟨entry, info, stored⟩ := Option.map_eq_some_iff.1 settled
  rw [edge_iff_of_info? info, stored, directSupertypes_eq, ← looked]
  exact List.mem_append_right _ (List.mem_map.2 ⟨_, List.mem_map.2 ⟨s, declared, rfl⟩, rfl⟩)

theorem IsSettled.upholds {type : DeclaredType} (settled : index.IsSettled type) :
    index.Upholds type := by
  intro s declared found looked above reaches _
  exact .head (settled.edge declared looked) reaches

end TypeIndex

namespace DeclaredType

/-- The type is declared outside of all types and writes its supertypes as simple names. -/
def NamesPlainly (type : DeclaredType) : Prop :=
  type.scope.enclosing = [] ∧ ∀ s ∈ type.supertypes, ∃ simple, s.name = ⟨[simple]⟩

theorem NamesPlainly.directSupertypes_congr {index stage : TypeIndex} {type : DeclaredType}
    (plain : type.NamesPlainly) (same : stage.contains = index.contains) :
    stage.directSupertypes type = index.directSupertypes type := by
  refine congrArg _ (List.map_congr_left fun s declared => ?_)
  obtain ⟨simple, written⟩ := plain.2 s declared
  rw [written]
  exact TypeIndex.lookupReference_simple_congr same simple plain.1

theorem NamesPlainly.isSettled {units : List SourceUnit} {known : List KnownType}
    {type : DeclaredType} (plain : type.NamesPlainly) (distinct : ((ofUnits units).map name).Nodup)
    (declared : type ∈ ofUnits units) : (TypeIndex.build units known).IsSettled type := by
  obtain ⟨stage, same, stored⟩ := TypeIndex.info?_build_of_mem distinct declared
  rw [TypeIndex.IsSettled, stored, Option.map_some, plain.directSupertypes_congr same]

/-- The ancestors of a document are what the clauses of a declared type lead to in an index, the
root type left out. -/
def Ancestry (index : TypeIndex) (type : DeclaredType) (doc : ClassDoc) : Prop :=
  ∀ name, name ∈ doc.ancestors ↔ name ≠ rootType ∧
    ∃ s ∈ type.supertypes, ∃ found,
      index.lookupReference s.name type.scope = .ok found ∧ index.Reaches found name

variable {index : TypeIndex} {sub super : DeclaredType} {subDoc superDoc : ClassDoc}

theorem Ancestry.of_site {site : ClassSite} {type : DeclaredType} {doc : ClassDoc}
    (outline : site.outline = type.outline) (documents : site.Documents index.resolver doc) :
    Ancestry index type doc := by
  intro name
  have clauses : Item.clauses site.items = type.clauses := congrArg Prod.snd outline
  rw [documents.mem_ancestors_iff, clauses, DeclaredType.clauses]
  simp

theorem Ancestry.of_sites {sites : List ClassSite} {types : List DeclaredType}
    {docs : List ClassDoc} (outlines : sites.map ClassSite.outline = types.map outline)
    (documents : List.Forall₂ (ClassSite.Documents index.resolver) sites docs) :
    List.Forall₂ (Ancestry index) types docs := by
  induction documents generalizing types with
  | nil =>
    obtain rfl : types = [] := by simpa using outlines
    exact .nil
  | cons first _ ih =>
    cases types with
    | nil => cases outlines
    | cons type rest =>
      obtain ⟨same, more⟩ := List.cons.inj outlines
      exact .cons (.of_site same first) (ih more)

/-- A subtype has everything that a type it inherits from reaches. -/
theorem Ancestry.mem_of_reaches (ancestry : Ancestry index sub subDoc) {name above : String}
    (inherited : name ∈ subDoc.ancestors) (reaches : index.Reaches name above)
    (other : above ≠ rootType) : above ∈ subDoc.ancestors := by
  obtain ⟨-, s, declared, found, looked, leads⟩ := (ancestry name).1 inherited
  exact (ancestry above).2 ⟨other, s, declared, found, looked, leads.trans reaches⟩

/-- The documented ancestors of a type are reached from it exactly if it is upheld. -/
theorem Ancestry.upholds_iff (ancestry : Ancestry index super superDoc) :
    index.Upholds super ↔ ∀ name ∈ superDoc.ancestors, index.Reaches super.name name := by
  constructor
  · intro upheld name h
    obtain ⟨other, s, declared, found, looked, leads⟩ := (ancestry name).1 h
    exact upheld s declared found looked name leads other
  · intro reached s declared found looked above leads other
    exact reached above ((ancestry above).2 ⟨other, s, declared, found, looked, leads⟩)

theorem Ancestry.subset_of_upholds (subtype : Ancestry index sub subDoc)
    (supertype : Ancestry index super superDoc) (upheld : index.Upholds super)
    (inherits : super.name ∈ subDoc.ancestors) : superDoc.ancestors ⊆ subDoc.ancestors := by
  intro name h
  have other := ((supertype name).1 h).1
  exact subtype.mem_of_reaches inherits (supertype.upholds_iff.1 upheld name h) other

/-- A class that inherits from one type alone has no other way to the ancestors of that type. -/
theorem Ancestry.upholds_of_subset (subtype : Ancestry index sub subDoc)
    (supertype : Ancestry index super superDoc)
    (alone : ∀ s ∈ sub.supertypes, index.lookupReference s.name sub.scope = .ok super.name)
    (subset : superDoc.ancestors ⊆ subDoc.ancestors) : index.Upholds super := by
  refine supertype.upholds_iff.2 fun name h => ?_
  obtain ⟨-, s, declared, found, looked, leads⟩ := (subtype name).1 (subset h)
  obtain rfl := Except.ok.inj ((alone s declared).symm.trans looked)
  exact leads

end DeclaredType

theorem Selection.isInteresting_of_subset {names : List String} {subDoc superDoc : ClassDoc}
    (subset : superDoc.ancestors ⊆ subDoc.ancestors)
    (kept : (ofList names).isInteresting superDoc = true) :
    (ofList names).isInteresting subDoc = true := by
  obtain ⟨name, h, inherited⟩ := (isInteresting_ofList_iff names superDoc).1 kept
  exact (isInteresting_ofList_iff names subDoc).2 ⟨name, h, subset inherited⟩

/-! ## Extracted units -/

theorem outline_ofUnits {units : List SourceUnit} (standard : ∀ unit ∈ units, unit.IsStandard) :
    (units.flatMap SourceUnit.classSites).map ClassSite.outline =
      (DeclaredType.ofUnits units).map DeclaredType.outline := by
  induction units with
  | nil => rfl
  | cons unit rest ih =>
    have first := (standard unit (by simp)).outline_classSites
    have more := ih fun other h => standard other (by simp [h])
    rw [List.flatMap_cons, DeclaredType.ofUnits, List.flatMap_cons, List.map_append,
      List.map_append, first, more]
    rfl

/-- The documents of standard units belong to their declared types, in order. -/
theorem ancestry_of_extracted {index : TypeIndex} {units : List SourceUnit}
    {docs : List (List ClassDoc)} (standard : ∀ unit ∈ units, unit.IsStandard)
    (extracted : List.Forall₂ (fun unit docs => (extractUnit index.resolver unit).result = .ok docs)
      units docs) :
    List.Forall₂ (DeclaredType.Ancestry index) (DeclaredType.ofUnits units) docs.flatten :=
  DeclaredType.Ancestry.of_sites (outline_ofUnits standard) (forall₂_flatten_of_extracted extracted)

/-- When standard units are extracted against the index built of them, ancestry is transitive at
each type that the index upholds: a subtype has all ancestors of the type, and is selected where the
type is.  A class that inherits from the type alone has them only if the type is upheld.  Upheld are
the types whose clauses stand for what is stored, among them those that write simple names outside
of all types. -/
theorem ancestry_transitive_of_upheld {units : List SourceUnit} {known : List KnownType}
    {docs : List (List ClassDoc)} (standard : ∀ unit ∈ units, unit.IsStandard)
    (extracted : List.Forall₂
      (fun unit docs => (extractUnit (TypeIndex.build units known).resolver unit).result = .ok docs)
      units docs)
    {super : DeclaredType} {superDoc : ClassDoc}
    (finished : (super, superDoc) ∈ (DeclaredType.ofUnits units).zip docs.flatten) :
    (((DeclaredType.ofUnits units).map DeclaredType.name).Nodup → super.NamesPlainly →
      (TypeIndex.build units known).IsSettled super) ∧
    ((TypeIndex.build units known).IsSettled super →
      (TypeIndex.build units known).Upholds super) ∧
    ∀ sub subDoc, (sub, subDoc) ∈ (DeclaredType.ofUnits units).zip docs.flatten →
      super.name ∈ subDoc.ancestors →
      ((TypeIndex.build units known).Upholds super →
        superDoc.ancestors ⊆ subDoc.ancestors ∧
        ∀ names, (Selection.ofList names).isInteresting superDoc = true →
          (Selection.ofList names).isInteresting subDoc = true) ∧
      ((∀ s ∈ sub.supertypes,
          (TypeIndex.build units known).lookupReference s.name sub.scope = .ok super.name) →
        (superDoc.ancestors ⊆ subDoc.ancestors ↔
          (TypeIndex.build units known).Upholds super)) := by
  have ancestry := ancestry_of_extracted standard extracted
  have supertype := (List.forall₂_iff_zip.1 ancestry).2 finished
  refine ⟨fun distinct plain => ?_, TypeIndex.IsSettled.upholds, ?_⟩
  · exact plain.isSettled distinct (List.of_mem_zip finished).1
  intro sub subDoc finished' inherits
  have subtype := (List.forall₂_iff_zip.1 ancestry).2 finished'
  have subset (upheld : (TypeIndex.build units known).Upholds super) :=
    subtype.subset_of_upholds supertype upheld inherits
  refine ⟨fun upheld => ⟨subset upheld, ?_⟩, fun alone => ⟨?_, subset⟩⟩
  · intro names kept
    exact Selection.isInteresting_of_subset (subset upheld) kept
  · exact subtype.upholds_of_subset supertype alone

/-! ## A member that hides a class

In the first pass nothing is known of what `Outer` inherits, so that `X` inside it is the class of
the package.  In the finished index it is the member of `Base`. -/

namespace SourceUnit

open Text TypeIndex

def shadowed : SourceUnit where
  path := "A.java"
  decls :=
    [ .type { name := "Base" } [.type { name := "X" } []],
      .type { name := "X" } [],
      .type { name := "Outer" }
        [ .supertype ⟨.extends, ⟨["Base"]⟩⟩,
          .type { name := "E" } [.supertype ⟨.extends, ⟨["X"]⟩⟩] ],
      .type { name := "D" } [.supertype ⟨.extends, ⟨["Outer", "E"]⟩⟩],
      .type { name := "F" } [.supertype ⟨.extends, ⟨["Outer"]⟩⟩] ]

/-- A class by its full name, the segments of the names it extends and the classes around it. -/
def declared (name : String) (extended : List (List String)) (enclosing : List String) :
    DeclaredType where
  name := name
  kind := .plain
  supertypes := extended.map fun segments => ⟨.extends, ⟨segments⟩⟩
  scope := { enclosing }

/-- The documents of the classes in `shadowed`, in order. -/
def shadowedDocs : List ClassDoc :=
  [ { name := "Base.X" }, { name := "Base" }, { name := "X" },
    { name := "Outer.E", ancestors := ["Base.X"] },
    { name := "Outer", ancestors := ["Base"] },
    { name := "D", ancestors := ["Outer.E", "X"] },
    { name := "F", ancestors := ["Outer", "Base"] } ]

theorem isStandard_shadowed : shadowed.IsStandard :=
  ⟨⟨[], shadowed.decls, rfl, by decide, by decide⟩, by decide⟩

theorem ofUnits_shadowed :
    DeclaredType.ofUnits [shadowed] =
      [ declared "Base.X" [] ["Base"], declared "Base" [] [], declared "X" [] [],
        declared "Outer.E" [["X"]] ["Outer"], declared "Outer" [["Base"]] [],
        declared "D" [["Outer", "E"]] [], declared "F" [["Outer"]] [] ] := by
  cbv

theorem classSites_shadowed :
    shadowed.classSites =
      [ ⟨⟨none, ["Base"], "X"⟩, none, []⟩, ⟨⟨none, [], "Base"⟩, none, []⟩,
        ⟨⟨none, [], "X"⟩, none, []⟩,
        ⟨⟨none, ["Outer"], "E"⟩, none,
          [.supertype ⟨.extends, ⟨["X"]⟩⟩ { enclosing := ["Outer"] }]⟩,
        ⟨⟨none, [], "Outer"⟩, none, [.supertype ⟨.extends, ⟨["Base"]⟩⟩ {}]⟩,
        ⟨⟨none, [], "D"⟩, none, [.supertype ⟨.extends, ⟨["Outer", "E"]⟩⟩ {}]⟩,
        ⟨⟨none, [], "F"⟩, none, [.supertype ⟨.extends, ⟨["Outer"]⟩⟩ {}]⟩ ] := by
  rfl

theorem names_shadowed :
    (DeclaredType.ofUnits [shadowed]).map DeclaredType.name =
      ["Base.X", "Base", "X", "Outer.E", "Outer", "D", "F"] := by
  rw [ofUnits_shadowed]
  rfl

theorem nodup_shadowed : ((DeclaredType.ofUnits [shadowed]).map DeclaredType.name).Nodup := by
  rw [names_shadowed]
  decide

theorem contains_shadowed {name : String}
    (h : name ∈ ["Base.X", "Base", "X", "Outer.E", "Outer", "D", "F"]) :
    (build [shadowed] []).contains name = true := by
  rw [← names_shadowed] at h
  obtain ⟨type, declared, rfl⟩ := List.mem_map.1 h
  obtain ⟨stage, -, stored⟩ := info?_build_of_mem nodup_shadowed declared
  rw [contains_eq_isSome, stored, Option.isSome_some]

theorem not_contains_shadowed : (build [shadowed] []).contains "Outer.X" = false := by
  have undeclared : "Outer.X" ∉ (DeclaredType.ofUnits [shadowed]).map DeclaredType.name := by
    rw [names_shadowed]
    decide
  rw [contains_eq_isSome, info?_build_of_not_mem undeclared, List.foldl_nil,
    info?_standard_eq_none (by decide), Option.isSome_none]

section Lookups

variable {stage : TypeIndex} (same : stage.contains = (build [shadowed] []).contains)

include same

theorem lookup_class_shadowed {name : String}
    (h : name ∈ ["Base.X", "Base", "X", "Outer.E", "Outer", "D", "F"]) :
    stage.lookupReference ⟨[name]⟩ {} = .ok name :=
  lookupReference_of_contains (same ▸ contains_shadowed h)

theorem lookup_member_shadowed :
    stage.lookupReference ⟨["Outer", "E"]⟩ {} = .ok "Outer.E" := by
  have outer : stage.contains "Outer" = true := same ▸ contains_shadowed (by simp)
  have inner : stage.contains "Outer.E" = true := same ▸ contains_shadowed (by simp)
  simp [lookupReference, lookup, lookupSimple?, memberType?, depthFirst, outer, inner, member,
    qualify, firstKnown?, ImportTable.single?, Table.get?, Table.find?, below, memberPath?]

theorem lookup_early_shadowed (nothing : stage.supertypes "Outer" = []) :
    stage.lookupReference ⟨["X"]⟩ { enclosing := ["Outer"] } = .ok "X" := by
  have own : stage.contains "Outer.X" = false := same ▸ not_contains_shadowed
  have outer : stage.contains "X" = true := same ▸ contains_shadowed (by simp)
  have other : lastSegment "Outer" ≠ "X" := by decide
  simp [lookupReference, lookup, lookupSimple?, inEnclosing?, memberType?, depthFirst, nothing, own,
    outer, other, member, qualify, firstKnown?, ImportTable.single?, Table.get?, Table.find?, below,
    memberPath?]

theorem directSupertypes_early_shadowed
    (entered : stage.info? (declared "Outer" [["Base"]] []).name = some ⟨.plain, []⟩) :
    stage.directSupertypes (declared "Outer.E" [["X"]] ["Outer"]) = [.ok "X"] := by
  have nothing : stage.supertypes "Outer" = [] := by
    simp only [declared] at entered
    simp [supertypes, entered]
  exact congrArg (fun type => [type]) (lookup_early_shadowed same nothing)

theorem lookup_late_shadowed (base : stage.supertypes "Outer" = ["Base"]) :
    stage.lookupReference ⟨["X"]⟩ { enclosing := ["Outer"] } = .ok "Base.X" := by
  have own : stage.contains "Outer.X" = false := same ▸ not_contains_shadowed
  have inherited : stage.contains "Base.X" = true := same ▸ contains_shadowed (by simp)
  simp [lookupReference, lookup, lookupSimple?, inEnclosing?, memberType?, depthFirst, base, own,
    inherited, member, below, memberPath?]

end Lookups

theorem stored_class_shadowed (name : String) (enclosing : List String)
    (h : declared name [] enclosing ∈ DeclaredType.ofUnits [shadowed]) :
    (build [shadowed] []).info? name = some ⟨.plain, [.ok rootType]⟩ := by
  obtain ⟨stage, -, stored⟩ := @info?_build_of_mem [shadowed] [] nodup_shadowed _ h
  exact stored

theorem stored_outer_shadowed :
    (build [shadowed] []).info? "Outer" = some ⟨.plain, [.ok "Base"]⟩ := by
  have outer : declared "Outer" [["Base"]] [] ∈ DeclaredType.ofUnits [shadowed] := by
    simp [ofUnits_shadowed]
  obtain ⟨stage, same, stored⟩ := @info?_build_of_mem [shadowed] [] nodup_shadowed _ outer
  have looked : stage.lookupReference ⟨["Base"]⟩ {} = .ok "Base" :=
    lookup_class_shadowed same (by simp)
  rw [← looked]
  exact stored

/-- The first pass finds `X` for `E`, and this stays. -/
theorem stored_inner_shadowed :
    (build [shadowed] []).info? "Outer.E" = some ⟨.plain, [.ok "X"]⟩ := by
  have outer : declared "Outer" [["Base"]] [] ∈ DeclaredType.ofUnits [shadowed] := by
    simp [ofUnits_shadowed]
  have inner : declared "Outer.E" [["X"]] ["Outer"] ∈ DeclaredType.ofUnits [shadowed] := by
    simp [ofUnits_shadowed]
  have found : (seed (DeclaredType.ofUnits [shadowed]) []).directSupertypes
      (declared "Outer.E" [["X"]] ["Outer"]) = [.ok "X"] := by
    refine directSupertypes_early_shadowed contains_build.symm ?_
    exact @info?_seed_of_mem _ [] nodup_shadowed _ outer
  have kept := @info?_build_of_found [shadowed] [] nodup_shadowed _ inner
  rw [isUnsettled, found] at kept
  exact kept rfl

theorem ancestorsAlong_root_shadowed {path : List String} (new : rootType ∉ path) :
    (build [shadowed] []).ancestorsAlong path rootType = .ok [] := by
  have undeclared : rootType ∉ (DeclaredType.ofUnits [shadowed]).map DeclaredType.name := by
    rw [names_shadowed]
    decide
  have root : (build [shadowed] []).info? rootType = some ⟨.plain, []⟩ := by
    rw [info?_build_of_not_mem undeclared, List.foldl_nil, info?_standard_root]
  rw [ancestorsAlong, dif_neg new]
  split <;> simp_all [ancestorsThrough]

/-- What the four clauses contribute: `E` inherits from the member of `Base`, but `D` has the class
of the package above `E`. -/
theorem ancestorChain_shadowed :
    (build [shadowed] []).resolver.ancestorChain ⟨["X"]⟩ { enclosing := ["Outer"] } =
        .ok ["Base.X"] ∧
    (build [shadowed] []).resolver.ancestorChain ⟨["Base"]⟩ {} = .ok ["Base"] ∧
    (build [shadowed] []).resolver.ancestorChain ⟨["Outer", "E"]⟩ {} = .ok ["Outer.E", "X"] ∧
    (build [shadowed] []).resolver.ancestorChain ⟨["Outer"]⟩ {} = .ok ["Outer", "Base"] := by
  have member := stored_class_shadowed "Base.X" ["Base"] (by simp [ofUnits_shadowed])
  have base := stored_class_shadowed "Base" [] (by simp [ofUnits_shadowed])
  have hidden := stored_class_shadowed "X" [] (by simp [ofUnits_shadowed])
  have outer := stored_outer_shadowed
  have inner := stored_inner_shadowed
  have root {path} := @ancestorsAlong_root_shadowed path
  have known {name} := @lookup_class_shadowed (build [shadowed] []) rfl name
  have below := @lookup_member_shadowed (build [shadowed] []) rfl
  have late := @lookup_late_shadowed (build [shadowed] []) rfl
    (by simp [supertypes, outer, Except.toOption])
  generalize build [shadowed] [] = index at *
  simp only [ancestorChain_eq_ok_iff]
  refine ⟨⟨_, [rootType], late, ?_, ?_⟩, ⟨_, [rootType], known (by simp), ?_, ?_⟩,
    ⟨_, ["X", rootType], below, ?_, ?_⟩, ⟨_, ["Base", rootType], known (by simp), ?_, ?_⟩⟩
  · exact ancestorsAlong_eq_of_info? (by simp) member (root (by decide))
  · decide
  · exact ancestorsAlong_eq_of_info? (by simp) base (root (by decide))
  · decide
  · exact ancestorsAlong_eq_of_info? (by simp) inner
      (ancestorsAlong_eq_of_info? (by decide) hidden (root (by decide)))
  · decide
  · exact ancestorsAlong_eq_of_info? (by simp) outer
      (ancestorsAlong_eq_of_info? (by decide) base (root (by decide)))
  · decide

theorem extractUnit_shadowed :
    (extractUnit (build [shadowed] []).resolver shadowed).result = .ok shadowedDocs := by
  rw [extractUnit_result_eq_ok_iff, classSites_shadowed, shadowedDocs]
  obtain ⟨inner, outer, sub, other⟩ := ancestorChain_shadowed
  generalize (build [shadowed] []).resolver = resolver at *
  have none (path : ClassPath) :
      ClassSite.Documents resolver ⟨path, .none, []⟩ { name := path.name } :=
    ⟨rfl, rfl, .nil, [], .nil, rfl⟩
  have single {name : TypeName} {scope : Scope} {chain : List String} (path : ClassPath)
      (done : resolver.ancestorChain name scope = .ok chain) :
      ClassSite.Documents resolver ⟨path, .none, [.supertype ⟨.extends, name⟩ scope]⟩
        { name := path.name, ancestors := chain } :=
    ⟨rfl, rfl, .nil, [chain], .cons done .nil, (List.append_nil chain).symm⟩
  exact .cons (none _) <| .cons (none _) <| .cons (none _) <| .cons (single _ inner) <|
    .cons (single _ outer) <| .cons (single _ sub) <| .cons (single _ other) .nil

theorem extracted_shadowed :
    List.Forall₂
      (fun unit docs => (extractUnit (build [shadowed] []).resolver unit).result = .ok docs)
      [shadowed] [shadowedDocs] :=
  .cons extractUnit_shadowed .nil

theorem mem_zip_shadowed :
    ∀ entry ∈
        [ (declared "Outer.E" [["X"]] ["Outer"],
            { name := "Outer.E", ancestors := ["Base.X"] : ClassDoc }),
          (declared "Outer" [["Base"]] [], { name := "Outer", ancestors := ["Base"] }),
          (declared "D" [["Outer", "E"]] [], { name := "D", ancestors := ["Outer.E", "X"] }),
          (declared "F" [["Outer"]] [], { name := "F", ancestors := ["Outer", "Base"] }) ],
      entry ∈ (DeclaredType.ofUnits [shadowed]).zip [shadowedDocs].flatten := by
  rw [ofUnits_shadowed]
  simp [shadowedDocs]

/-- `Outer` is upheld, and so `F` has its ancestors; `E` is not, since `D` has them not. -/
theorem upholds_shadowed :
    (build [shadowed] []).Upholds (declared "Outer" [["Base"]] []) ∧
    ¬ (build [shadowed] []).Upholds (declared "Outer.E" [["X"]] ["Outer"]) := by
  have standard : ∀ unit ∈ [shadowed], unit.IsStandard := by
    simpa using isStandard_shadowed
  have finished := mem_zip_shadowed
  simp only [List.forall_mem_cons] at finished
  obtain ⟨inner, outer, sub, -⟩ := finished
  obtain ⟨plainly, upholds, -⟩ :=
    ancestry_transitive_of_upheld standard extracted_shadowed outer
  obtain ⟨-, -, transitive⟩ := ancestry_transitive_of_upheld standard extracted_shadowed inner
  constructor
  · exact upholds (plainly nodup_shadowed ⟨rfl, by simp [declared]⟩)
  · have alone : ∀ s ∈ (declared "D" [["Outer", "E"]] []).supertypes,
        (build [shadowed] []).lookupReference s.name {} = .ok "Outer.E" := by
      simpa [declared] using lookup_member_shadowed rfl
    rw [← (transitive _ _ sub (by decide)).2 alone]
    decide

end SourceUnit

/-- Ancestry is not transitive at every type. -/
theorem ancestry_not_transitive :
    ¬ ∀ (units : List SourceUnit) (known : List KnownType) (docs : List (List ClassDoc)),
      (∀ unit ∈ units, unit.IsStandard) →
      ((DeclaredType.ofUnits units).map DeclaredType.name).Nodup →
      List.Forall₂
        (fun unit docs =>
          (extractUnit (TypeIndex.build units known).resolver unit).result = .ok docs) units docs →
      ∀ super superDoc sub subDoc,
        (super, superDoc) ∈ (DeclaredType.ofUnits units).zip docs.flatten →
        (sub, subDoc) ∈ (DeclaredType.ofUnits units).zip docs.flatten →
        super.name ∈ subDoc.ancestors → superDoc.ancestors ⊆ subDoc.ancestors := by
  intro transitive
  have finished := SourceUnit.mem_zip_shadowed
  simp only [List.forall_mem_cons] at finished
  obtain ⟨inner, -, sub, -⟩ := finished
  have subset := transitive [.shadowed] [] [SourceUnit.shadowedDocs]
    (by simpa using SourceUnit.isStandard_shadowed) SourceUnit.nodup_shadowed
    SourceUnit.extracted_shadowed _ _ _ _ inner sub (by decide)
  exact absurd subset (by decide)

end ClassCatalog
