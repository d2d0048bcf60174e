import ClassCatalog.Proofs.Extraction.Questions

/-!
# Missing declarations

A walk through a standard unit can ask for the declaration of an unknown type only where an import
names it.  Every type that the walk resolves and every supertype stored in the index is known or
imported, and listing ancestors goes from these along stored supertypes; the unknown type at which
it stops is therefore an imported one.
-/

namespace ClassCatalog

open TypeIndex

variable {units : List SourceUnit} {known : List KnownType}

/-- The ancestors of a type that is known or imported fail for want of a declaration only at an
imported type. -/
theorem ancestors_missing {index : TypeIndex} {name missing : String}
    (closed : index.Closed (index.Accounts units)) (start : index.Accounts units name)
    (failed : index.ancestors name = .error (.missingDeclaration missing)) :
    index.contains missing = false ∧ ∃ unit ∈ units, unit.Imports missing := by
  obtain ⟨type, reaches, reason⟩ := ancestorsAlong_eq_error [] name (by simp) failed
  rcases reason with (⟨unknown, same⟩ | ⟨entry, found, stored⟩) | ⟨cyclic, -⟩
  · obtain rfl := ResolveError.missingDeclaration.inj same
    have outside : index.contains missing = false := by
      rw [contains_eq_isSome, unknown, Option.isSome_none]
    refine ⟨outside, (closed.of_reaches start reaches).resolve_left ?_⟩
    simp [outside]
  · exact absurd rfl (closed type entry found _ stored missing)
  · cases cyclic

theorem covers_questions (standard : ∀ unit ∈ units, unit.IsStandard) {unit : SourceUnit}
    (h : unit ∈ units) {resolver : Resolver} {question : Question}
    (asked : question ∈ unit.questions resolver) :
    (build units known).Covers units question.scope :=
  covers_of_within rfl h ((standard unit h).questions_within question asked)

/-- Where the types of the configuration name known types, a walk through a standard unit that
fails for want of a declaration asks for a type that is not known and that some unit imports by its
path.  Every type that these walks resolve, and every supertype stored in the index, is known or so
imported.  The resolved types are those of the listed questions, for these alone decide a walk. -/
theorem missing_declarations_are_imported (standard : ∀ unit ∈ units, unit.IsStandard)
    (named : ∀ type ∈ known, ∀ parent ∈ type.superclass.toList ++ type.interfaces,
      (build units known).contains parent = true) :
    (∀ unit ∈ units, ∀ path name,
      (extractUnit (build units known).resolver unit).result =
          .error ⟨path, .missingDeclaration name⟩ →
        (build units known).contains name = false ∧ ∃ importer ∈ units, importer.Imports name) ∧
    (∀ unit ∈ units,
      (∀ question ∈ unit.questions (build units known).resolver, ∀ resolved,
        (build units known).resolve question.type question.scope = .ok resolved →
        ∀ name ∈ resolved.named?, (build units known).Accounts units name) ∧
      ∀ other,
        Walk.Answers (build units known).resolver other
          (unit.questions (build units known).resolver) →
        extractUnit other unit = extractUnit (build units known).resolver unit) ∧
    ∀ name entry, (build units known).info? name = some entry →
      ∀ type, .ok type ∈ entry.supertypes → (build units known).Accounts units type := by
  have closed := closed_build named
  refine ⟨?_, fun unit h => ⟨?_, fun other => SourceUnit.extractUnit_eq_of_answers⟩, ?_⟩
  · intro unit h path name failed
    obtain ⟨question, asked, reason⟩ := SourceUnit.extractUnit_eq_error failed
    have covers : (build units known).Covers units question.scope :=
      covers_questions standard h asked
    rcases reason with unresolved | ⟨type, other⟩ | ⟨type, found, broken⟩
    · rcases resolve_eq_error unresolved with inferred | ⟨type, unknown⟩
      · cases inferred
      · cases unknown
    · cases other
    · exact ancestors_missing closed (resolve_accounts covers found type rfl) broken
  · intro question asked resolved found
    exact resolve_accounts (covers_questions standard h asked) found
  · intro name entry found type stored
    exact closed name entry found (.ok type) stored

namespace SourceUnit

/-- A class that extends a member of an imported class. -/
def orphan : SourceUnit where
  path := "A.java"
  decls :=
    [ .imported { path := "q.Base" },
      .type { name := "A" } [.supertype ⟨.extends, ⟨["Base", "Inner"]⟩⟩] ]

theorem isStandard_orphan : orphan.IsStandard :=
  ⟨⟨orphan.decls.take 1, orphan.decls.drop 1, rfl, by decide, by decide⟩, by decide⟩

theorem extractUnit_orphan {resolver : Resolver} {e : ResolveError}
    (broken : resolver.ancestorChain ⟨["Base", "Inner"]⟩
      { imports := ({} : ImportTable).add { path := "q.Base" } } = .error e) :
    (extractUnit resolver orphan).result = .error ⟨"A.java", e⟩ := by
  simp [extractUnit, orphan, Walk.visitAll, Walk.visit, Walk.visitSupertype, Walk.enterClass,
    Walk.modifyContext, UnitContext.addImport, UnitContext.modifyClasses,
    UnitContext.pushTypeVariables, UnitContext.outerScope, ClassStack.enter, ClassStack.current?,
    ClassStack.outerNames, broken]

theorem ancestorChain_orphan {index : TypeIndex} (base : index.contains "q.Base" = false)
    (inner : index.contains "q.Base.Inner" = false) :
    index.resolver.ancestorChain ⟨["Base", "Inner"]⟩
      { imports := ({} : ImportTable).add { path := "q.Base" } } =
        .error (.missingDeclaration "q.Base.Inner") := by
  have imported : (({} : ImportTable).add { path := "q.Base" }).single? "Base" = some "q.Base" := by
    decide
  have missing : index.ancestors "q.Base.Inner" = .error (.missingDeclaration "q.Base.Inner") :=
    ancestorsAlong_eq_missing (by simp) (by simpa [contains_eq_isSome] using inner)
  simp [Resolver.ancestorChain, resolver, resolve, lookup, lookupSimple?, imported, below, base,
    Text.member, ResolvedType.reference?, missing, Except.map]

/-- A type of the configuration that extends the class. -/
def orphanHeir : KnownType where
  name := "k.K"
  superclass := some "A"

theorem orphan_missing :
    (extractUnit (build [orphan] [orphanHeir]).resolver orphan).result =
        .error ⟨"A.java", .missingDeclaration "q.Base.Inner"⟩ ∧
    (build [orphan] [orphanHeir]).contains "q.Base.Inner" = false ∧
    ∃ importer ∈ [orphan], importer.Imports "q.Base.Inner" := by
  have declared : (DeclaredType.ofUnits [orphan]).map DeclaredType.name = ["A"] := by
    cbv
  have unknown {name : String} (h : name = "q.Base" ∨ name = "q.Base.Inner") :
      (build [orphan] [orphanHeir]).contains name = false := by
    rw [← Bool.not_eq_true, contains_build_iff, declared]
    rcases h with rfl | rfl <;> decide
  have named : ∀ type ∈ [orphanHeir], ∀ parent ∈ type.superclass.toList ++ type.interfaces,
      (build [orphan] [orphanHeir]).contains parent = true := by
    simp [orphanHeir, contains_build_iff, declared]
  have failed := extractUnit_orphan
    (ancestorChain_orphan (unknown (.inl rfl)) (unknown (.inr rfl)))
  have standard : ∀ unit ∈ [orphan], unit.IsStandard := by
    simpa using isStandard_orphan
  obtain ⟨missing, -⟩ := missing_declarations_are_imported standard named
  exact ⟨failed, missing orphan (by simp) _ _ failed⟩

end SourceUnit

end ClassCatalog
