import ClassCatalog.Proofs.TypeIndex.AncestorOrder
import ClassCatalog.Proofs.TypeIndex.Passes

/-!
# When ancestors cannot be listed

Listing the ancestors of a type looks at every type that is reached from it, each time along a path
of its subtypes.  A type that is met again on another path has no harm in it; one that is met on its
own path is its own ancestor.  So the listing fails exactly if a type that is reached has a defect:
it is not known, a supertype of it is not resolved, or it is its own ancestor.  In an index that is
built of units, the failures that are stored are those of look-ups, and hence the two that the
listing adds always name the type with the defect.
-/

namespace ClassCatalog.TypeIndex

variable {index : TypeIndex}

/-- Ancestors cannot be listed beyond the type: it is not known, has a supertype that could not be
resolved, or is its own ancestor. -/
def IsDefective (index : TypeIndex) (type : String) : Prop :=
  index.contains type = false ∨
    (∃ e, index.StoresFailure type e) ∨
    Relation.TransGen index.Edge type type

/-! ## Listings that succeed -/

theorem ancestorsAlong_of_through {path before listed : List String}
    {supertypes : List (Except ResolveError String)}
    (succeeds : index.ancestorsThrough path supertypes before = .ok listed) :
    ∀ stored ∈ supertypes, ∃ super above,
      stored = .ok super ∧ index.ancestorsAlong path super = .ok above := by
  induction supertypes generalizing before with
  | nil => simp
  | cons first rest ih =>
    cases first with
    | error e =>
      rw [ancestorsThrough] at succeeds
      cases succeeds
    | ok super =>
      rw [ancestorsThrough] at succeeds
      split at succeeds
      · cases succeeds
      · rename_i above found
        exact List.forall_mem_cons.2 ⟨⟨super, above, rfl, found⟩, ih succeeds⟩

theorem ancestorsAlong_eq_ok {path listed : List String} {name : String}
    (succeeds : index.ancestorsAlong path name = .ok listed) :
    ∃ entry, index.info? name = some entry ∧ ∀ stored ∈ entry.supertypes, ∃ super above,
      stored = .ok super ∧ index.ancestorsAlong (name :: path) super = .ok above := by
  rw [ancestorsAlong] at succeeds
  split at succeeds
  · cases succeeds
  · split at succeeds
    · cases succeeds
    · rename_i entry found
      exact ⟨entry, found, ancestorsAlong_of_through succeeds⟩

theorem ancestorsAlong_of_reaches {path listed : List String} {name other : String}
    (succeeds : index.ancestorsAlong path name = .ok listed) (reaches : index.Reaches name other) :
    ∃ path' above, index.ancestorsAlong path' other = .ok above := by
  induction reaches with
  | refl => exact ⟨path, listed, succeeds⟩
  | tail _ edge ih =>
    obtain ⟨path', above, below⟩ := ih
    obtain ⟨entry, found, listed'⟩ := ancestorsAlong_eq_ok below
    obtain ⟨super, above', same, succeeds'⟩ := listed' _ ((edge_iff_of_info? found _).1 edge)
    obtain rfl := Except.ok.inj same
    exact ⟨_, above', succeeds'⟩

theorem not_isDefective_of_reaches {path listed : List String} {name type : String}
    (succeeds : index.ancestorsAlong path name = .ok listed) (reaches : index.Reaches name type) :
    ¬ index.IsDefective type := by
  obtain ⟨path', above, listed'⟩ := ancestorsAlong_of_reaches succeeds reaches
  obtain ⟨entry, found, resolved⟩ := ancestorsAlong_eq_ok listed'
  rintro (unknown | ⟨e, entry', found', failed⟩ | cyclic)
  · simp [contains_eq_isSome, found] at unknown
  · obtain rfl := Option.some.inj (found.symm.trans found')
    obtain ⟨super, above', same, -⟩ := resolved _ failed
    cases same
  · exact not_mem_of_ancestorsAlong listed' cyclic List.mem_cons_self

theorem FailsAt.isDefective {e : ResolveError} {type : String} (fails : index.FailsAt e type) :
    index.IsDefective type := by
  rcases fails with (⟨unknown, -⟩ | stored) | ⟨-, cyclic⟩
  · exact .inl (by rw [contains_eq_isSome, unknown, Option.isSome_none])
  · exact .inr (.inl ⟨e, stored⟩)
  · exact .inr (.inr cyclic)

/-- Listing fails exactly if a type with a defect is reached. -/
theorem ancestors_eq_error_iff (name : String) :
    (∃ e, index.ancestors name = .error e) ↔
      ∃ type, index.Reaches name type ∧ index.IsDefective type := by
  constructor
  · rintro ⟨e, failed⟩
    obtain ⟨type, reaches, fails⟩ := ancestorsAlong_eq_error [] name (by simp) failed
    exact ⟨type, reaches, fails.isDefective⟩
  · rintro ⟨type, reaches, defective⟩
    cases h : index.ancestors name with
    | error e => exact ⟨e, rfl⟩
    | ok listed => exact absurd defective (not_isDefective_of_reaches h reaches)

/-! ## Stored failures -/

theorem lookupReference_eq_error {name : TypeName} {scope : Scope} {e : ResolveError}
    (failed : index.lookupReference name scope = .error e) :
    e = .unknownType name.dotted ∨ e = .notAReferenceType name.dotted := by
  rw [lookupReference] at failed
  split at failed
  · cases failed
  · exact .inr (Except.error.inj failed).symm
  · rename_i e' failed'
    obtain rfl := Except.error.inj failed
    exact .inl (lookup_eq_error failed')

theorem exists_clause_of_error {type : DeclaredType} {e : ResolveError}
    (failed : .error e ∈ index.directSupertypes type) :
    ∃ s ∈ type.supertypes, index.lookupReference s.name type.scope = .error e := by
  rcases List.mem_append.1 failed with implicit | looked
  · obtain ⟨parent, -, same⟩ := List.mem_map.1 implicit
    cases same
  · exact List.mem_map.1 looked

/-- The indexes that there are: the empty one, and those of some units and of types described in the
configuration. -/
inductive Arises : TypeIndex → Prop
  | empty : Arises {}
  | build (units : List SourceUnit) (known : List KnownType) : Arises (build units known)

/-- Every failure that is stored comes from a look-up. -/
theorem Arises.stored_eq (arises : index.Arises) {name : String} {e : ResolveError}
    (stored : index.StoresFailure name e) :
    ∃ written, e = .unknownType written ∨ e = .notAReferenceType written := by
  cases arises with
  | empty =>
    obtain ⟨entry, found, -⟩ := stored
    cases found
  | build units known =>
    obtain ⟨pass, writer, -, stored⟩ := exists_writer?_of_storesFailure stored
    obtain ⟨s, -, failed⟩ := exists_clause_of_error stored
    exact ⟨s.name.dotted, lookupReference_eq_error failed⟩

/-- A failure to list the ancestors of a type says what is wrong: a type that is reached is not
known, or is its own ancestor, and any other failure is stored for a type that is reached. -/
def Explains (index : TypeIndex) (name : String) : ResolveError → Prop
  | .missingDeclaration type => index.Reaches name type ∧ index.contains type = false
  | .cyclicInheritance type =>
    index.Reaches name type ∧ Relation.TransGen index.Edge type type
  | e => ∃ type, index.Reaches name type ∧ index.StoresFailure type e

theorem Arises.explains (arises : index.Arises) {name type : String} {e : ResolveError}
    (reaches : index.Reaches name type) (fails : index.FailsAt e type) : index.Explains name e := by
  rcases fails with (⟨unknown, rfl⟩ | stored) | ⟨rfl, cyclic⟩
  · exact ⟨reaches, by rw [contains_eq_isSome, unknown, Option.isSome_none]⟩
  · obtain ⟨written, rfl | rfl⟩ := arises.stored_eq stored
    · exact ⟨type, reaches, stored⟩
    · exact ⟨type, reaches, stored⟩
  · exact ⟨reaches, cyclic⟩

/-- Listing the ancestors of a type fails exactly if a type with a defect is reached from it, and
then it names a real one. -/
theorem ancestors_fail_exactly_at_defects (arises : index.Arises) (name : String) :
    ((∃ e, index.ancestors name = .error e) ↔
      ∃ type, index.Reaches name type ∧ index.IsDefective type) ∧
    ∀ e, index.ancestors name = .error e → index.Explains name e := by
  refine ⟨ancestors_eq_error_iff name, fun e failed => ?_⟩
  obtain ⟨type, reaches, fails⟩ := ancestorsAlong_eq_error [] name (by simp) failed
  exact arises.explains reaches fails

/-- Two types of the configuration that extend each other. -/
def circle : List KnownType :=
  [{ name := "k.A", superclass := some "k.B" }, { name := "k.B", superclass := some "k.A" }]

theorem info?_circle :
    (build [] circle).info? "k.A" = some ⟨.plain, [.ok "k.B"]⟩ ∧
    (build [] circle).info? "k.B" = some ⟨.plain, [.ok "k.A"]⟩ := by
  have none (name : String) : name ∉ (DeclaredType.ofUnits []).map DeclaredType.name := by
    simp [DeclaredType.ofUnits]
  rw [info?_build_of_not_mem (none _), info?_build_of_not_mem (none _)]
  simp [circle, insertKnown, insertResolved, info?_insert]

theorem ancestors_circle :
    (build [] circle).ancestors "k.A" = .error (.cyclicInheritance "k.A") ∧
    (build [] circle).Explains "k.A" (.cyclicInheritance "k.A") ∧
    ∃ type, (build [] circle).Reaches "k.A" type ∧ (build [] circle).IsDefective type := by
  obtain ⟨first, second⟩ := info?_circle
  have failed : (build [] circle).ancestors "k.A" = .error (.cyclicInheritance "k.A") := by
    have again : (build [] circle).ancestorsAlong ["k.B", "k.A"] "k.A" =
        .error (.cyclicInheritance "k.A") := by
      rw [ancestorsAlong, dif_pos (by simp)]
    have above : (build [] circle).ancestorsAlong ["k.A"] "k.B" =
        .error (.cyclicInheritance "k.A") := by
      rw [ancestorsAlong_eq_through (by simp) second]
      simp only [ancestorsThrough, again]
    rw [ancestors, ancestorsAlong_eq_through (by simp) first]
    simp only [ancestorsThrough, above]
  obtain ⟨exactly, explained⟩ :=
    ancestors_fail_exactly_at_defects (.build [] circle) "k.A"
  exact ⟨failed, explained _ failed, exactly.1 ⟨_, failed⟩⟩

end ClassCatalog.TypeIndex
