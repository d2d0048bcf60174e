import ClassCatalog.Proofs.Extraction.StandardUnits
import ClassCatalog.Proofs.TypeIndex.Reachability

/-!
# Selected classes

A class is selected because of an interesting type if and only if one of its supertype clauses
stands for a type that is the interesting one or reaches it in the index.  The root type is no
reason to select a class.
-/

namespace ClassCatalog

/-- Some supertype clause of a class leads to one of the named types, the root type not counting. -/
def ClassSite.Inherits (index : TypeIndex) (names : List String) (site : ClassSite) : Prop :=
  ∃ name ∈ names, name ≠ rootType ∧
    ∃ clause ∈ Item.clauses site.items, ∃ type,
      index.lookupReference clause.1.name clause.2 = .ok type ∧ index.Reaches type name

namespace ClassSite

variable {index : TypeIndex}

theorem mem_flatten_iff_of_contributes {clauses : List (Supertype × Scope)}
    {chains : List (List String)}
    (contribute : List.Forall₂ (Contributes index.resolver) clauses chains) (name : String) :
    name ∈ chains.flatten ↔ name ≠ rootType ∧
      ∃ clause ∈ clauses, ∃ type,
        index.lookupReference clause.1.name clause.2 = .ok type ∧ index.Reaches type name := by
  induction contribute with
  | nil => simp
  | @cons clause chain clauses chains first _ ih =>
    rw [List.flatten_cons, List.mem_append, TypeIndex.mem_of_ancestorChain_eq_ok first, ih]
    simp only [List.mem_cons, exists_eq_or_imp, ← and_or_left]

/-- The ancestors in the document of a class are the types its clauses stand for and reach. -/
theorem Documents.mem_ancestors_iff {site : ClassSite} {doc : ClassDoc}
    (documents : site.Documents index.resolver doc) (name : String) :
    name ∈ doc.ancestors ↔ name ≠ rootType ∧
      ∃ clause ∈ Item.clauses site.items, ∃ type,
        index.lookupReference clause.1.name clause.2 = .ok type ∧ index.Reaches type name := by
  obtain ⟨chains, contribute, ancestors⟩ := documents.ancestors
  rw [ancestors, mem_flatten_iff_of_contributes contribute]

end ClassSite

namespace Selection

theorem mem_types_ofList (name : String) (names : List String) :
    name ∈ (ofList names).types ↔ name ∈ names := by
  have fold (names types : List String) :
      names.foldl (fun types name => if name ∈ types then types else types ++ [name]) types =
        TypeIndex.addNew types names := by
    induction names generalizing types with
    | nil => rfl
    | cons other rest ih => exact ih _
  rw [ofList, fold, TypeIndex.mem_addNew]
  simp

theorem isInteresting_ofList_iff (names : List String) (doc : ClassDoc) :
    (ofList names).isInteresting doc = true ↔ ∃ name ∈ names, name ∈ doc.ancestors := by
  simp [isInteresting, ClassDoc.extendsAny, mem_types_ofList]

end Selection

theorem ClassSite.Documents.isInteresting_iff {index : TypeIndex} {site : ClassSite} {doc : ClassDoc}
    (documents : site.Documents index.resolver doc) (names : List String) :
    (Selection.ofList names).isInteresting doc = true ↔ site.Inherits index names := by
  rw [Selection.isInteresting_ofList_iff, ClassSite.Inherits]
  simp only [documents.mem_ancestors_iff]

/-! ## Several units -/

theorem Extraction.extend_eq_ok_iff {resolver : Resolver} {selection : Selection}
    {units : List SourceUnit} {before after : Extraction} :
    extend resolver selection units before = .ok after ↔
      ∃ docs, List.Forall₂ (fun unit docs => (extractUnit resolver unit).result = .ok docs) units docs ∧
        after =
          { classes := before.classes ++ selection.apply docs.flatten
            units := before.units + units.length
            seen := before.seen + docs.flatten.length } := by
  induction units generalizing before with
  | nil => simp [extend, Selection.apply, eq_comm]
  | cons unit rest ih =>
    rw [extend]
    cases result : (extractUnit resolver unit).result with
    | error failure =>
      simp only [reduceCtorEq, false_iff, not_exists, not_and]
      intro docs extracted
      obtain ⟨first, others, h, -⟩ := List.forall₂_cons_left_iff.1 extracted
      cases result.symm.trans h
    | ok found =>
      simp only [ih]
      constructor
      · rintro ⟨docs, extracted, rfl⟩
        refine ⟨found :: docs, .cons result extracted, ?_⟩
        simp [add, Selection.apply, Nat.add_assoc, Nat.add_comm 1]
      · rintro ⟨docs, extracted, rfl⟩
        obtain ⟨first, others, h, extracted', rfl⟩ := List.forall₂_cons_left_iff.1 extracted
        obtain rfl := Except.ok.inj (result.symm.trans h)
        refine ⟨others, extracted', ?_⟩
        simp [add, Selection.apply, Nat.add_assoc, Nat.add_comm 1]

theorem forall₂_flatten_of_extracted {resolver : Resolver} {units : List SourceUnit}
    {docs : List (List ClassDoc)}
    (extracted : List.Forall₂ (fun unit docs => (extractUnit resolver unit).result = .ok docs)
      units docs) :
    List.Forall₂ (ClassSite.Documents resolver) (units.flatMap SourceUnit.classSites)
      docs.flatten := by
  induction extracted with
  | nil => exact .nil
  | cons first _ ih =>
    rw [List.flatMap_cons, List.flatten_cons]
    exact List.rel_append (extractUnit_result_eq_ok_iff.1 first) ih

open scoped Classical in
/-- Choosing documents by what their sites inherit is choosing them by their ancestors. -/
theorem apply_ofList_eq {index : TypeIndex} {sites : List ClassSite} {docs : List ClassDoc}
    (documents : List.Forall₂ (ClassSite.Documents index.resolver) sites docs)
    (names : List String) :
    (Selection.ofList names).apply docs =
      ((sites.zip docs).filter fun p => p.1.Inherits index names).map Prod.snd := by
  induction documents with
  | nil => rfl
  | @cons site doc sites docs first _ ih =>
    rw [Selection.apply] at ih
    rw [Selection.apply, List.zip_cons_cons, List.filter_cons, List.filter_cons, ih]
    by_cases inherits : site.Inherits index names
    · simp [inherits, (first.isInteresting_iff names).2 inherits]
    · have : ¬ (Selection.ofList names).isInteresting doc = true := fun h =>
        inherits ((first.isInteresting_iff names).1 h)
      simp [inherits, this]

open scoped Classical in
/-- Selection is sound and complete: the classes kept are, in order, those of the finished classes
with a supertype clause that leads to an interesting type other than the root type. -/
theorem extractUnits_selects {index : TypeIndex} {names : List String} {units : List SourceUnit}
    {extraction : Extraction}
    (succeeds : extractUnits index.resolver (Selection.ofList names) units = .ok extraction) :
    ∃ docs : List (List ClassDoc),
      List.Forall₂ (fun unit docs => (extractUnit index.resolver unit).result = .ok docs)
        units docs ∧
      List.Forall₂ (ClassSite.Documents index.resolver) (units.flatMap SourceUnit.classSites)
        docs.flatten ∧
      extraction.classes =
        (((units.flatMap SourceUnit.classSites).zip docs.flatten).filter fun p =>
          p.1.Inherits index names).map Prod.snd ∧
      ((∀ name ∈ names, name = rootType) → extraction.classes = []) ∧
      extraction.seen = docs.flatten.length ∧
      extraction.units = units.length := by
  obtain ⟨docs, extracted, rfl⟩ := Extraction.extend_eq_ok_iff.1 succeeds
  have documents := forall₂_flatten_of_extracted extracted
  have chosen := apply_ofList_eq documents names
  refine ⟨docs, extracted, documents, ?_, ?_, by simp, by simp⟩
  · rw [← chosen]
    rfl
  · intro root
    have none (site : ClassSite) : ¬ site.Inherits index names := by
      rintro ⟨name, h, other, -⟩
      exact other (root name h)
    simp [chosen, none]

theorem nested_inherits :
    ∃ site ∈ SourceUnit.nested.classSites,
      site.Inherits SourceUnit.nestedIndex ["p.A", rootType] := by
  classical
  have succeeds :
      extractUnits SourceUnit.nestedIndex.resolver (Selection.ofList ["p.A", rootType])
          [SourceUnit.nested] =
        .ok
          { classes :=
              [ { name := "A.B", ancestors := ["p.A", "q.Base"] },
                { name := "A.L", ancestors := ["p.A.B", "p.A", "q.Base"] } ]
            units := 1
            seen := 3 } := by
    rw [extractUnits, Extraction.extend, SourceUnit.extractUnit_nested]
    rfl
  obtain ⟨docs, -, -, kept, -⟩ := extractUnits_selects succeeds
  obtain ⟨_, member⟩ := List.exists_mem_of_ne_nil _ (ne_of_eq_of_ne kept.symm (by simp))
  obtain ⟨⟨site, doc⟩, chosen, -⟩ := List.mem_map.1 member
  obtain ⟨zipped, inherits⟩ := List.mem_filter.1 chosen
  refine ⟨site, ?_, of_decide_eq_true inherits⟩
  simpa using (List.of_mem_zip zipped).1

end ClassCatalog
