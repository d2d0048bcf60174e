import ClassCatalog.Proofs.TypeIndex.Reachability
import Mathlib.Data.List.Basic
import Mathlib.Tactic.ByContra

/-!
# What a look-up depends on

A look-up asks an index which names it knows, and for member types of the types around the place and
of those that the qualifiers of the name stand for (`Asks`).  A member type in turn depends on the
supertypes of the types that are reached.  So two indexes of the same names that disagree on a
look-up disagree on the supertypes of such a type (`exists_changed_of_lookup_ne`).
-/

namespace ClassCatalog.TypeIndex

variable {index stage : TypeIndex}

/-! ## Look-ups -/

/-- The types whose members are searched when a name is looked up: those around the place, and those
that the qualifiers of the name stand for. -/
def Asks (index : TypeIndex) (name : TypeName) (scope : Scope) (owner : String) : Prop :=
  owner ∈ scope.enclosing ∨
    ∃ front, front <+: name.segments ∧ front ≠ name.segments ∧
      index.lookupReference ⟨front⟩ { scope with typeVariables := [] } = .ok owner

theorem memberPath?_congr {base : String} {segments : List String}
    (same : ∀ front owner, front <+: segments → front ≠ segments →
      index.memberPath? base front = some owner →
      index.memberType? owner = stage.memberType? owner) :
    index.memberPath? base segments = stage.memberPath? base segments := by
  induction segments generalizing base with
  | nil => rfl
  | cons segment rest ih =>
    have own := same [] base List.nil_prefix (by simp) rfl
    rw [memberPath?, memberPath?, ← own]
    cases found : index.memberType? base segment with
    | none => rfl
    | some type =>
      refine ih fun front owner leading proper leads => ?_
      refine same (segment :: front) owner (by simpa using leading) (by simpa using proper) ?_
      rw [memberPath?, found]
      exact leads

theorem below_congr (known : index.contains = stage.contains) {base : String} {rest : List String}
    (same : ∀ front owner, front <+: rest → front ≠ rest →
      (∀ full, index.below base front full = .ok owner) →
      index.memberType? owner = stage.memberType? owner) (full : TypeName) :
    index.below base rest full = stage.below base rest full := by
  rw [below, below, known]
  split
  · rename_i declared
    rw [memberPath?_congr fun front owner leading proper leads =>
      same front owner leading proper ?_]
    intro full
    rw [below, known, if_pos declared, leads]
  · rfl

theorem lookupQualified_congr (known : index.contains = stage.contains)
    {taken segments : List String}
    (same : ∀ front owner, front <+: segments → front ≠ segments →
      (∀ full, index.lookupQualified full taken front = .ok owner) →
      index.memberType? owner = stage.memberType? owner) (full : TypeName) :
    index.lookupQualified full taken segments = stage.lookupQualified full taken segments := by
  induction segments generalizing taken with
  | nil => rfl
  | cons segment rest ih =>
    rw [lookupQualified, lookupQualified, ← known]
    split
    · rename_i declared
      refine below_congr known (fun front owner leading proper leads => ?_) full
      refine same (segment :: front) owner (by simpa using leading) (by simpa using proper) ?_
      intro full
      rw [lookupQualified, if_pos declared, leads]
    · rename_i unknown
      refine ih fun front owner leading proper leads => ?_
      refine same (segment :: front) owner (by simpa using leading) (by simpa using proper) ?_
      intro full
      rw [lookupQualified, if_neg unknown, leads]

theorem lookupSimple?_congr (known : index.contains = stage.contains) {scope : Scope}
    (same : ∀ owner ∈ scope.enclosing, index.memberType? owner = stage.memberType? owner)
    (simple : String) : index.lookupSimple? simple scope = stage.lookupSimple? simple scope := by
  have around : scope.enclosing.reverse.findSome? (index.inEnclosing? simple) =
      scope.enclosing.reverse.findSome? (stage.inEnclosing? simple) := by
    rw [← List.head?_filterMap, ← List.head?_filterMap]
    refine congrArg List.head? (List.filterMap_congr fun owner h => ?_)
    rw [inEnclosing?, inEnclosing?, same owner (List.mem_reverse.1 h)]
  rw [lookupSimple?, lookupSimple?, around, firstKnown?, firstKnown?, known]

section Qualifiers

variable {first : String} {rest : List String} {scope : Scope}

theorem lookupReference_of_simple {base : String}
    (simple : index.lookupSimple? first scope = some base) :
    index.lookupReference ⟨first :: rest⟩ { scope with typeVariables := [] } =
      index.below base rest ⟨first :: rest⟩ := by
  replace simple : index.lookupSimple? first { scope with typeVariables := [] } = some base :=
    simple
  simp only [lookupReference, lookup, List.contains_nil, Bool.and_false, Bool.false_eq_true,
    if_false, simple]
  cases index.below base rest ⟨first :: rest⟩ <;> rfl

theorem lookupReference_of_qualified (simple : index.lookupSimple? first scope = none) :
    index.lookupReference ⟨first :: rest⟩ { scope with typeVariables := [] } =
      index.lookupQualified ⟨first :: rest⟩ [] (first :: rest) := by
  replace simple : index.lookupSimple? first { scope with typeVariables := [] } = none := simple
  simp only [lookupReference, lookup, List.contains_nil, Bool.and_false, Bool.false_eq_true,
    if_false, simple]
  cases index.lookupQualified ⟨first :: rest⟩ [] (first :: rest) <;> rfl

end Qualifiers

/-- A look-up depends on the known names and on the member types of the types it asks. -/
theorem lookup_congr (known : index.contains = stage.contains) {name : TypeName} {scope : Scope}
    (same : ∀ owner, index.Asks name scope owner →
      index.memberType? owner = stage.memberType? owner) :
    index.lookup name scope = stage.lookup name scope := by
  have simple := lookupSimple?_congr known fun owner h => same owner (.inl h)
  cases segments : name.segments with
  | nil => rw [lookup, lookup, segments]
  | cons first rest =>
    rw [lookup, lookup, segments]
    dsimp only
    rw [← simple]
    cases found : index.lookupSimple? first scope with
    | some base =>
      dsimp only
      rw [below_congr known fun front owner leading proper leads => same owner (.inr ?_)]
      refine ⟨first :: front, by simpa [segments], by simpa [segments], ?_⟩
      rw [lookupReference_of_simple found, leads]
    | none =>
      dsimp only
      rw [lookupQualified_congr known fun front owner leading proper leads => same owner (.inr ?_)]
      refine ⟨front, segments ▸ leading, segments ▸ proper, ?_⟩
      cases front with
      | nil => cases leads name
      | cons first' front =>
        obtain ⟨rfl, -⟩ := List.cons_prefix_cons.1 leading
        rw [lookupReference_of_qualified found, leads]

/-! ## Searches -/

theorem depthFirst_congr_above {queue seen : List String}
    (same : ∀ name ∈ queue, ∀ type, index.Reaches name type →
      index.supertypes type = stage.supertypes type) :
    index.depthFirst queue seen = stage.depthFirst queue seen := by
  fun_induction depthFirst index queue seen with
  | case1 seen => rw [depthFirst]
  | case2 seen name rest met ih =>
    rw [depthFirst, if_pos met, ih (List.forall_mem_cons.1 same).2]
  | case3 seen name rest new ih =>
    rw [List.forall_mem_cons] at same
    have own := same.1 name .refl
    rw [depthFirst, if_neg new, ← own, ih ?_]
    intro other h type reaches
    rcases List.mem_append.1 h with edge | h
    · exact same.1 type (.head edge reaches)
    · exact same.2 other h type reaches

theorem memberType?_congr (known : index.contains = stage.contains) {owner : String}
    (same : ∀ type, index.Reaches owner type → index.supertypes type = stage.supertypes type) :
    index.memberType? owner = stage.memberType? owner := by
  funext simple
  rw [memberType?, memberType?, known, depthFirst_congr_above (by simpa using same)]

/-- Where two indexes of the same names disagree on a look-up, they disagree on the supertypes of a
type that is reached from one that it asks. -/
theorem exists_changed_of_lookup_ne (known : index.contains = stage.contains) {name : TypeName}
    {scope : Scope}
    (differs : index.lookupReference name scope ≠ stage.lookupReference name scope) :
    ∃ owner type, index.Asks name scope owner ∧ index.Reaches owner type ∧
      index.supertypes type ≠ stage.supertypes type := by
  by_contra! none
  refine differs ?_
  rw [lookupReference, lookupReference, lookup_congr known fun owner asks =>
    memberType?_congr known fun type reaches => none owner type asks reaches]

/-- Outside of all types, what a simple name stands for depends only on the names that are known. -/
theorem lookupReference_simple_congr (same : stage.contains = index.contains) (simple : String)
    {scope : Scope} (outside : scope.enclosing = []) :
    stage.lookupReference ⟨[simple]⟩ scope = index.lookupReference ⟨[simple]⟩ scope := by
  rw [lookupReference, lookupReference, lookup_congr same]
  rintro owner (around | ⟨front, leading, proper, leads⟩)
  · simp [outside] at around
  · obtain rfl : front = [] := by simpa [List.prefix_cons_iff, proper] using leading
    cases leads

end ClassCatalog.TypeIndex
