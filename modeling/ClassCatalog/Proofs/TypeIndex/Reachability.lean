import ClassCatalog.Extraction.Signature
import ClassCatalog.TypeIndex.Build
import Mathlib.Logic.Relation

/-!
# Reachable types

The resolved supertypes stored in an index are the edges of a graph.  When the ancestors of a type
can be listed at all, the list holds exactly the types that are reached from it in one or more
steps (`mem_ancestors_iff`), and so a supertype clause contributes exactly the types that its
resolved type is or reaches, the root type left out (`mem_of_ancestorChain_eq_ok`).
-/

namespace ClassCatalog

namespace TypeIndex

variable {index : TypeIndex}

/-- The second type is stored as a direct supertype of the first. -/
def Edge (index : TypeIndex) (sub super : String) : Prop := super ∈ index.supertypes sub

/-- The second type is the first, or is reached from it along stored supertypes. -/
def Reaches (index : TypeIndex) (sub super : String) : Prop :=
  Relation.ReflTransGen index.Edge sub super

theorem edge_iff_of_info? {name : String} {entry : TypeEntry}
    (found : index.info? name = some entry) (super : String) :
    index.Edge name super ↔ .ok super ∈ entry.supertypes := by
  rw [Edge, supertypes, found, List.mem_filterMap]
  constructor
  · rintro ⟨stored, h, hs⟩
    cases stored with
    | error e => cases hs
    | ok type =>
      obtain rfl := Option.some.inj hs
      exact h
  · intro h
    exact ⟨.ok super, h, rfl⟩

theorem mem_addNew {name : String} {names more : List String} :
    name ∈ addNew names more ↔ name ∈ names ∨ name ∈ more := by
  induction more generalizing names with
  | nil => simp [addNew]
  | cons other rest ih =>
    rw [addNew, ih]
    by_cases listed : other ∈ names
    · rw [if_pos listed, List.mem_cons]
      constructor
      · rintro (h | h)
        · exact .inl h
        · exact .inr (.inr h)
      · rintro (h | rfl | h)
        · exact .inl h
        · exact .inl listed
        · exact .inr h
    · rw [if_neg listed, List.mem_append, List.mem_singleton, List.mem_cons, or_assoc]

theorem ancestorsAlong_eq_missing {path : List String} {name : String} (new : name ∉ path)
    (unknown : index.info? name = none) :
    index.ancestorsAlong path name = .error (.missingDeclaration name) := by
  rw [ancestorsAlong, dif_neg new]
  split <;> simp_all

theorem ancestorsAlong_eq_through {path : List String} {name : String} {entry : TypeEntry}
    (new : name ∉ path) (found : index.info? name = some entry) :
    index.ancestorsAlong path name = index.ancestorsThrough (name :: path) entry.supertypes [] := by
  rw [ancestorsAlong, dif_neg new]
  split <;> simp_all

/-- The induction over a listing that succeeds: a type with its supertypes, which are all resolved,
and one supertype behind the other. -/
theorem ancestorsAlong_induction (type : List String → String → List String → Prop)
    (through : List String → List String → List String → List String → Prop)
    (enter : ∀ path name listed, index.ancestorsAlong path name = .ok listed → name ∉ path →
      through (name :: path) (index.supertypes name) [] listed → type path name listed)
    (done : ∀ path listed, through path [] listed listed)
    (next : ∀ path super rest before inherited listed,
      index.ancestorsAlong path super = .ok inherited → type path super inherited →
      through path rest (addNew (before ++ [super]) inherited) listed →
      through path (super :: rest) before listed)
    {path : List String} {name : String} {listed : List String}
    (succeeds : index.ancestorsAlong path name = .ok listed) : type path name listed := by
  refine (ancestorsAlong.mutual_induct index
    (fun path name => ∀ listed, index.ancestorsAlong path name = .ok listed →
      type path name listed)
    (fun path supertypes before => ∀ listed,
      index.ancestorsThrough path supertypes before = .ok listed →
      through path (supertypes.filterMap Except.toOption) before listed)
    ?_ ?_ ?_ ?_ ?_ ?_ ?_).1 path name listed succeeds
  · intro path name cyclic listed succeeds
    rw [ancestorsAlong, dif_pos cyclic] at succeeds
    cases succeeds
  · intro path name new missing listed succeeds
    rw [ancestorsAlong_eq_missing new missing] at succeeds
    cases succeeds
  · intro path name new entry found ih listed succeeds
    refine enter path name listed succeeds new ?_
    rw [ancestorsAlong_eq_through new found] at succeeds
    rw [supertypes, found]
    exact ih listed succeeds
  · intro path before listed succeeds
    rw [ancestorsThrough] at succeeds
    obtain rfl := Except.ok.inj succeeds
    exact done path before
  · intro path e rest before listed succeeds
    rw [ancestorsThrough] at succeeds
    cases succeeds
  · intro path super rest before e failed _ listed succeeds
    rw [ancestorsThrough, failed] at succeeds
    cases succeeds
  · intro path super rest before inherited found ih ihRest listed succeeds
    rw [ancestorsThrough, found] at succeeds
    exact next path super _ before inherited listed found (ih inherited found)
      (ihRest listed succeeds)

/-- Listing the ancestors of a type goes along every path of stored supertypes and nowhere else. -/
theorem mem_ancestorsAlong_iff (path : List String) (name : String) {listed : List String}
    (done : index.ancestorsAlong path name = .ok listed) (other : String) :
    other ∈ listed ↔ Relation.TransGen index.Edge name other := by
  -- the other half of the recursion: what is listed already, and what the rest leads to
  refine ancestorsAlong_induction
    (fun _ name listed => other ∈ listed ↔ Relation.TransGen index.Edge name other)
    (fun _ supers before listed =>
      other ∈ listed ↔ other ∈ before ∨ ∃ super ∈ supers, index.Reaches super other)
    ?_ ?_ ?_ done
  · intro path name listed _ _ through
    rw [through, Relation.TransGen.head'_iff]
    simp only [List.not_mem_nil, false_or]
    rfl
  · intro path listed
    simp
  · intro path super rest before inherited listed _ above later
    have first : index.Reaches super other ↔ other = super ∨ other ∈ inherited := by
      rw [above, Reaches, Relation.reflTransGen_iff_eq_or_transGen]
    rw [later, mem_addNew, List.mem_append, List.mem_singleton]
    simp only [List.mem_cons, exists_eq_or_imp, first, or_assoc]

/-- A type is the reason of a failure: it is not known, or the failure is stored for it. -/
def BreaksAt (index : TypeIndex) (e : ResolveError) (type : String) : Prop :=
  index.info? type = none ∧ e = .missingDeclaration type ∨
    ∃ entry, index.info? type = some entry ∧ .error e ∈ entry.supertypes

/-- A type is the reason of a failure, or it inherits from itself and the failure says so. -/
def FailsAt (index : TypeIndex) (e : ResolveError) (type : String) : Prop :=
  index.BreaksAt e type ∨ e = .cyclicInheritance type ∧ Relation.TransGen index.Edge type type

/-- Listing the ancestors of a type fails at a type that is reached from it, provided that the types
on the path lead to it. -/
theorem ancestorsAlong_eq_error (path : List String) (name : String)
    (leads : ∀ sub ∈ path, Relation.TransGen index.Edge sub name) {e : ResolveError}
    (failed : index.ancestorsAlong path name = .error e) :
    ∃ type, index.Reaches name type ∧ index.FailsAt e type := by
  refine (ancestorsAlong.mutual_induct index
    (fun path name => (∀ sub ∈ path, Relation.TransGen index.Edge sub name) → ∀ e,
      index.ancestorsAlong path name = .error e →
      ∃ type, index.Reaches name type ∧ index.FailsAt e type)
    (fun path supertypes before =>
      (∀ sub ∈ path, ∀ super, .ok super ∈ supertypes → Relation.TransGen index.Edge sub super) →
      ∀ e, index.ancestorsThrough path supertypes before = .error e →
      .error e ∈ supertypes ∨ ∃ super, .ok super ∈ supertypes ∧
        ∃ type, index.Reaches super type ∧ index.FailsAt e type)
    ?_ ?_ ?_ ?_ ?_ ?_ ?_).1 path name leads e failed
  · intro path name cyclic leads e failed
    rw [ancestorsAlong, dif_pos cyclic] at failed
    exact ⟨name, .refl, .inr ⟨(Except.error.inj failed).symm, leads name cyclic⟩⟩
  · intro path name new missing leads e failed
    rw [ancestorsAlong_eq_missing new missing] at failed
    exact ⟨name, .refl, .inl (.inl ⟨missing, (Except.error.inj failed).symm⟩)⟩
  · intro path name new entry found ih leads e failed
    rw [ancestorsAlong_eq_through new found] at failed
    have edge (super : String) (stored : .ok super ∈ entry.supertypes) :
        index.Edge name super := (edge_iff_of_info? found super).2 stored
    have further : ∀ sub ∈ name :: path, ∀ super, .ok super ∈ entry.supertypes →
        Relation.TransGen index.Edge sub super := by
      intro sub h super stored
      rcases List.mem_cons.1 h with rfl | h
      · exact .single (edge super stored)
      · exact (leads sub h).tail (edge super stored)
    rcases ih further e failed with stored | ⟨super, stored, type, reaches, reason⟩
    · exact ⟨name, .refl, .inl (.inr ⟨entry, found, stored⟩)⟩
    · exact ⟨type, .head (edge super stored) reaches, reason⟩
  · intro path before leads e failed
    rw [ancestorsThrough] at failed
    cases failed
  · intro path e' rest before leads e failed
    rw [ancestorsThrough] at failed
    obtain rfl := Except.error.inj failed
    exact .inl List.mem_cons_self
  · intro path super rest before e' failed' ih leads e failed
    rw [ancestorsThrough, failed'] at failed
    obtain rfl := Except.error.inj failed
    have first : ∀ sub ∈ path, Relation.TransGen index.Edge sub super :=
      fun sub h => leads sub h super List.mem_cons_self
    exact .inr ⟨super, List.mem_cons_self, ih first e' failed'⟩
  · intro path super rest before inherited found ih ihRest leads e failed
    rw [ancestorsThrough, found] at failed
    have others : ∀ sub ∈ path, ∀ other, .ok other ∈ rest →
        Relation.TransGen index.Edge sub other :=
      fun sub h other stored => leads sub h other (List.mem_cons_of_mem _ stored)
    rcases ihRest others e failed with stored | ⟨other, stored, reached⟩
    · exact .inl (List.mem_cons_of_mem _ stored)
    · exact .inr ⟨other, List.mem_cons_of_mem _ stored, reached⟩

/-- A type with one direct supertype has it and its ancestors. -/
theorem ancestorsAlong_eq_of_info? {path : List String} {name super : String} {kind : ClassKind}
    {above : List String} (new : name ∉ path)
    (found : index.info? name = some ⟨kind, [.ok super]⟩)
    (listed : index.ancestorsAlong (name :: path) super = .ok above) :
    index.ancestorsAlong path name = .ok (addNew [super] above) := by
  rw [ancestorsAlong_eq_through new found]
  simp only [ancestorsThrough, listed, List.nil_append]

theorem mem_ancestors_iff {name : String} {listed : List String}
    (done : index.ancestors name = .ok listed) (other : String) :
    other ∈ listed ↔ Relation.TransGen index.Edge name other :=
  mem_ancestorsAlong_iff [] name done other

theorem lookupReference_eq_ok_iff {name : TypeName} {scope : Scope} {type : String} :
    index.lookupReference name scope = .ok type ↔
      index.lookup name scope = .ok (.reference type) := by
  rw [lookupReference]
  split <;> simp_all

theorem ancestorChain_eq_ok_iff {name : TypeName} {scope : Scope} {chain : List String} :
    index.resolver.ancestorChain name scope = .ok chain ↔
      ∃ type above, index.lookupReference name scope = .ok type ∧
        index.ancestors type = .ok above ∧ (type :: above).filter (· ≠ rootType) = chain := by
  simp only [lookupReference_eq_ok_iff, Resolver.ancestorChain, resolver, resolve]
  cases index.lookup name scope with
  | error e => simp
  | ok resolved =>
    cases resolved with
    | reference type =>
      cases listed : index.ancestors type <;> simp [ResolvedType.reference?, listed, Except.map]
    | _ => simp [ResolvedType.reference?]

/-- A supertype clause contributes the type it stands for and everything above it, without the
root type. -/
theorem mem_of_ancestorChain_eq_ok {name : TypeName} {scope : Scope} {chain : List String}
    (done : index.resolver.ancestorChain name scope = .ok chain) (other : String) :
    other ∈ chain ↔ other ≠ rootType ∧
      ∃ type, index.lookupReference name scope = .ok type ∧ index.Reaches type other := by
  obtain ⟨type, above, looked, listed, rfl⟩ := ancestorChain_eq_ok_iff.1 done
  simp only [List.mem_filter, List.mem_cons, mem_ancestors_iff listed, looked,
    Except.ok.injEq, exists_eq_left', Reaches, Relation.reflTransGen_iff_eq_or_transGen,
    decide_not, Bool.not_eq_true', decide_eq_false_iff_not]
  exact and_comm

end TypeIndex

end ClassCatalog
