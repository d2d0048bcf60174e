import ClassCatalog.Proofs.Extraction.StandardUnits
import ClassCatalog.Proofs.TypeIndex.Closure

/-!
# The questions of a walk

A walk depends on its resolver through the written types that it has resolved on the way.
`Walk.questions` lists them with their scopes, up to the point where the walk fails.  They are all
that matters: resolvers with the same answers to them lead to the same walk (`visit_eq_of_answers`),
and a walk that fails does so at one of them (`visit_eq_error`).  In a standard unit each question
is asked in the scope of declared types of the unit.
-/

namespace ClassCatalog

/-- A written type, to be resolved in a scope. -/
structure Question where
  type : TypeExpr
  scope : Scope

/-- Why a walk fails at a question: the type cannot be resolved, it is none that can be inherited
from, or its ancestors cannot be listed. -/
def Resolver.FailsAt (resolver : Resolver) (question : Question) (e : ResolveError) : Prop :=
  resolver.resolve question.type question.scope = .error e ∨
    (∃ name, e = .notAReferenceType name) ∨
    ∃ name, resolver.resolve question.type question.scope = .ok (.reference name) ∧
      resolver.ancestors name = .error e

namespace Walk

mutual

/-- The types that a visit has resolved, in order. -/
def questions (resolver : Resolver) : Decl → Walk → List Question
  | .parameter p, walk =>
    match walk.context.classes.current? with
    | none => []
    | some frame =>
      if frame.currentMethod.isSome && !p.type.isInferred then [⟨p.type, walk.context.innerScope⟩]
      else []
  | .supertype s, walk =>
    match walk.context.classes.current? with
    | none => []
    | some _ => [⟨.named s.name, walk.context.outerScope⟩]
  | .type head members, walk => questionsAll resolver members (walk.enterClass head)
  | .method head members, walk =>
    match walk.context.classes.current? with
    | none => []
    | some _ => questionsAll resolver members (walk.enterMethod head)
  | .package _, _ => []
  | .imported _, _ => []

/-- The types that some visits have resolved, up to the first failure. -/
def questionsAll (resolver : Resolver) : List Decl → Walk → List Question
  | [], _ => []
  | decl :: rest, walk =>
    questions resolver decl walk ++
      match visit resolver decl walk with
      | (.ok (), next) => questionsAll resolver rest next
      | (.error _, _) => []

end

/-! ## Answers decide the walk -/

/-- Another resolver lists the same ancestors and gives the same answers to some questions. -/
structure Answers (resolver other : Resolver) (questions : List Question) : Prop where
  ancestors : other.ancestors = resolver.ancestors
  resolve : ∀ question ∈ questions,
    other.resolve question.type question.scope = resolver.resolve question.type question.scope

theorem Answers.of_subset {resolver other : Resolver} {questions fewer : List Question}
    (answers : Answers resolver other questions) (subset : fewer ⊆ questions) :
    Answers resolver other fewer :=
  ⟨answers.ancestors, fun question h => answers.resolve question (subset h)⟩

variable {resolver other : Resolver}

theorem visitParameter_eq_of_answers {p : Parameter} {walk : Walk}
    (answers : Answers resolver other (questions resolver (.parameter p) walk)) :
    walk.visitParameter other p = walk.visitParameter resolver p := by
  cases current : walk.context.classes.current? with
  | none => simp only [visitParameter, current]
  | some frame =>
    cases method : frame.currentMethod with
    | none => simp only [visitParameter, current, method]
    | some position =>
      have type : other.parameterType p.type walk.context.innerScope =
          resolver.parameterType p.type walk.context.innerScope := by
        cases inferred : p.type.isInferred with
        | true =>
          rw [Resolver.parameterType, Resolver.parameterType, if_pos inferred, if_pos inferred]
        | false =>
          have asked :
              ⟨p.type, walk.context.innerScope⟩ ∈ questions resolver (.parameter p) walk := by
            simp [questions, current, method, inferred]
          rw [Resolver.parameterType, Resolver.parameterType, answers.resolve _ asked]
      simp only [visitParameter, current, method, type]

theorem visitSupertype_eq_of_answers {s : Supertype} {walk : Walk}
    (answers : Answers resolver other (questions resolver (.supertype s) walk)) :
    walk.visitSupertype other s = walk.visitSupertype resolver s := by
  cases current : walk.context.classes.current? with
  | none => simp only [visitSupertype, current]
  | some frame =>
    have asked : ⟨.named s.name, walk.context.outerScope⟩ ∈
        questions resolver (.supertype s) walk := by
      simp [questions, current]
    have chain : other.ancestorChain s.name walk.context.outerScope =
        resolver.ancestorChain s.name walk.context.outerScope := by
      rw [Resolver.ancestorChain, Resolver.ancestorChain, answers.resolve _ asked,
        answers.ancestors]
    simp only [visitSupertype, current, chain]

mutual

theorem visit_eq_of_answers : ∀ (decl : Decl) {walk : Walk},
    Answers resolver other (questions resolver decl walk) →
    visit other decl walk = visit resolver decl walk
  | .package name, walk, answers => rfl
  | .imported entry, walk, answers => rfl
  | .parameter p, walk, answers => visitParameter_eq_of_answers answers
  | .supertype s, walk, answers => visitSupertype_eq_of_answers answers
  | .type head members, walk, answers => by
    rw [visit, visit, visitAll_eq_of_answers members answers]
  | .method head members, walk, answers => by
    cases current : walk.context.classes.current? with
    | none => simp only [visit, current]
    | some frame =>
      have inner :
          Answers resolver other (questionsAll resolver members (walk.enterMethod head)) := by
        simpa only [questions, current] using answers
      simp only [visit, current, visitAll_eq_of_answers members inner]

theorem visitAll_eq_of_answers : ∀ (decls : List Decl) {walk : Walk},
    Answers resolver other (questionsAll resolver decls walk) →
    visitAll other decls walk = visitAll resolver decls walk
  | [], walk, answers => rfl
  | decl :: rest, walk, answers => by
    rw [questionsAll] at answers
    rw [visitAll, visitAll,
      visit_eq_of_answers decl (answers.of_subset (List.subset_append_left _ _))]
    rcases visited : visit resolver decl walk with ⟨_ | _, next⟩
    · rfl
    · rw [visited] at answers
      exact visitAll_eq_of_answers rest (answers.of_subset (List.subset_append_right _ _))

end

/-! ## Failures -/

theorem visitParameter_eq_error {p : Parameter} {walk : Walk} {e : ResolveError}
    (failed : (walk.visitParameter resolver p).1 = .error e) :
    ∃ question ∈ questions resolver (.parameter p) walk, resolver.FailsAt question e := by
  rw [visitParameter] at failed
  split at failed
  · cases failed
  · rename_i frame current
    split at failed
    · cases failed
    · rename_i position method
      split at failed
      · rename_i e' unresolved
        obtain rfl := Except.error.inj failed
        cases inferred : p.type.isInferred with
        | true =>
          rw [Resolver.parameterType, if_pos inferred] at unresolved
          cases unresolved
        | false =>
          rw [Resolver.parameterType, inferred] at unresolved
          refine ⟨⟨p.type, walk.context.innerScope⟩, ?_, .inl (map_eq_error_iff.1 unresolved)⟩
          simp [questions, current, method, inferred]
      · cases failed

theorem visitSupertype_eq_error {s : Supertype} {walk : Walk} {e : ResolveError}
    (failed : (walk.visitSupertype resolver s).1 = .error e) :
    ∃ question ∈ questions resolver (.supertype s) walk, resolver.FailsAt question e := by
  rw [visitSupertype] at failed
  split at failed
  · cases failed
  · rename_i frame current
    split at failed
    · rename_i e' broken
      obtain rfl := Except.error.inj failed
      refine ⟨⟨.named s.name, walk.context.outerScope⟩, by simp [questions, current], ?_⟩
      rw [Resolver.ancestorChain] at broken
      split at broken
      · rename_i e unresolved
        obtain rfl := Except.error.inj broken
        exact .inl unresolved
      · rename_i resolved found
        split at broken
        · exact .inr (.inl ⟨_, (Except.error.inj broken).symm⟩)
        · rename_i name reference
          have same : resolved = .reference name := by
            cases resolved <;> simp_all [ResolvedType.reference?]
          exact .inr (.inr ⟨name, same ▸ found, map_eq_error_iff.1 broken⟩)
    · cases failed

mutual

theorem visit_eq_error : ∀ (decl : Decl) {walk : Walk} {e : ResolveError},
    (visit resolver decl walk).1 = .error e →
    ∃ question ∈ questions resolver decl walk, resolver.FailsAt question e
  | .package name, walk, e, failed => by cases failed
  | .imported entry, walk, e, failed => by cases failed
  | .parameter p, walk, e, failed => visitParameter_eq_error failed
  | .supertype s, walk, e, failed => visitSupertype_eq_error failed
  | .type head members, walk, e, failed => visitAll_eq_error members failed
  | .method head members, walk, e, failed => by
    rw [visit] at failed
    split at failed
    · cases failed
    · rename_i frame current
      simp only [questions, current]
      exact visitAll_eq_error members failed

theorem visitAll_eq_error : ∀ (decls : List Decl) {walk : Walk} {e : ResolveError},
    (visitAll resolver decls walk).1 = .error e →
    ∃ question ∈ questionsAll resolver decls walk, resolver.FailsAt question e
  | [], walk, e, failed => by cases failed
  | decl :: rest, walk, e, failed => by
    rw [visitAll] at failed
    rw [questionsAll]
    rcases visited : visit resolver decl walk with ⟨e' | _, next⟩
    · rw [visited] at failed
      have first : (visit resolver decl walk).1 = .error e := by
        rw [visited]
        exact failed
      obtain ⟨question, asked, fails⟩ := visit_eq_error decl first
      exact ⟨question, List.mem_append_left _ asked, fails⟩
    · rw [visited] at failed
      obtain ⟨question, asked, fails⟩ := visitAll_eq_error rest failed
      exact ⟨question, List.mem_append_right _ asked, fails⟩

end

/-! ## Scopes in a standard unit -/

theorem areMembers_of_areLocals : ∀ decls : List Decl, Decl.areLocals decls = true →
    Decl.areMembers decls = true
  | [], _ => rfl
  | .type head members :: rest, h => by
    obtain ⟨first, more⟩ := Bool.and_eq_true_iff.1 h
    exact Bool.and_eq_true_iff.2 ⟨first, areMembers_of_areLocals rest more⟩
  | .parameter p :: rest, h => areMembers_of_areLocals rest h

theorem areMembers_of_isClass {decls : List Decl} (classes : ∀ decl ∈ decls, decl.isClass = true) :
    Decl.areMembers decls = true := by
  induction decls with
  | nil => rfl
  | cons decl rest ih =>
    have first := classes decl (by simp)
    have more := ih fun other h => classes other (by simp [h])
    cases decl with
    | type head members => exact Bool.and_eq_true_iff.2 ⟨first, more⟩
    | _ => cases first

theorem outerScope_within (place : Place) : place.outerScope.Within place.innerScope [] := by
  refine ⟨rfl, fun name h => ?_⟩
  simp only [Place.outerScope, List.mem_reverse, List.mem_map] at h
  obtain ⟨path, around, rfl⟩ := h
  simp only [Place.innerScope, List.append_nil, List.mem_reverse, List.mem_map]
  exact ⟨path, List.mem_of_mem_tail around, rfl⟩

abbrev siteNames (sites : List ClassSite) : List String :=
  sites.map (·.path.fullName)

mutual

theorem questions_within : ∀ (decl : Decl) {place : Place} {follows : Bool} {frames : List Frame}
    {docs : List ClassDoc} {warnings : List Warning}, place.Fits follows frames →
    decl.isMember = true →
    ∀ question ∈ questions resolver decl (atPlace place frames docs warnings),
      question.scope.Within place.innerScope (siteNames (ClassSite.ofDecl place decl))
  | .parameter p, place, follows, frames, docs, warnings, fits, member, question, h => by
    rw [questions] at h
    split at h
    · cases h
    · split at h
      · obtain rfl := List.mem_singleton.1 h
        rw [innerScope_atPlace fits]
        exact ⟨rfl, List.subset_append_left _ _⟩
      · cases h
  | .supertype s, place, follows, frames, docs, warnings, fits, member, question, h => by
    rw [questions] at h
    split at h
    · cases h
    · obtain rfl := List.mem_singleton.1 h
      rw [outerScope_atPlace fits]
      exact (outerScope_within place).mono (List.nil_subset _)
  | .type head members, place, follows, frames, docs, warnings, fits, member, question, h => by
    rw [questions, enterClass_atPlace fits docs warnings head []] at h
    obtain ⟨imports, enclosing⟩ :=
      questionsAll_within members (fits.inClass head []) member question h
    refine ⟨imports, fun name around => ?_⟩
    have := enclosing around
    simp only [Place.innerScope, Place.inClass, List.map_cons, List.reverse_cons, List.mem_append,
      List.mem_singleton] at this
    simp only [ClassSite.ofDecl, List.map_append, List.map_cons, List.map_nil, List.mem_append,
      List.mem_singleton]
    rcases this with (outside | self) | nested
    · exact .inl outside
    · exact .inr (.inr self)
    · exact .inr (.inl nested)
  | .method head members, place, follows, frames, docs, warnings, fits, member, question, h => by
    cases frames with
    | nil => cases h
    | cons frame outer =>
      have inside : place.isInside = true := by simp [fits.isInside_eq]
      rw [ClassSite.ofDecl, if_pos inside]
      exact questionsAll_within members (fits.inMethod head)
        (areMembers_of_areLocals members member) question h

theorem questionsAll_within : ∀ (decls : List Decl) {place : Place} {follows : Bool}
    {frames : List Frame} {docs : List ClassDoc} {warnings : List Warning},
    place.Fits follows frames → Decl.areMembers decls = true →
    ∀ question ∈ questionsAll resolver decls (atPlace place frames docs warnings),
      question.scope.Within place.innerScope (siteNames (ClassSite.ofDecls place decls))
  | [], place, follows, frames, docs, warnings, fits, members, question, h => by cases h
  | decl :: rest, place, follows, frames, docs, warnings, fits, members, question, h => by
    obtain ⟨first, more⟩ := Bool.and_eq_true_iff.1 members
    rw [ClassSite.ofDecls, siteNames, List.map_append, Place.after_eq_self first]
    rw [questionsAll, List.mem_append] at h
    rcases h with h | h
    · exact (questions_within decl fits first question h).mono (List.subset_append_left _ _)
    · split at h
      · rename_i next visited
        obtain ⟨frames', docs', added, sites, rfl⟩ := (visit_eq_ok_iff decl fits).1 visited
        have fits' := (fits.addToTop added).after decl
        rw [Place.after_eq_self first] at fits' h
        exact (questionsAll_within rest fits' more question h).mono (List.subset_append_right _ _)
      · cases h

end

theorem questionsAll_header {header : List Decl} (front : ∀ decl ∈ header, decl.isHeader = true)
    (classes : List Decl) (place : Place) (frames : List Frame) (docs : List ClassDoc)
    (warnings : List Warning) :
    questionsAll resolver (header ++ classes) (atPlace place frames docs warnings) =
      questionsAll resolver classes (atPlace (place.afterAll header) frames docs warnings) := by
  induction header generalizing place with
  | nil => rw [List.nil_append, Place.afterAll_nil]
  | cons decl rest ih =>
    have first := front decl (by simp)
    have more := ih fun other h => front other (by simp [h])
    rw [Place.afterAll_cons, ← more, List.cons_append, questionsAll]
    cases decl with
    | package name => rw [visit, setPackage_atPlace, questions, List.nil_append]
    | imported entry => rw [visit, addImport_atPlace, questions, List.nil_append]
    | _ => cases first

end Walk

namespace SourceUnit

/-- The types that the walk through a unit has resolved. -/
def questions (resolver : Resolver) (unit : SourceUnit) : List Question :=
  Walk.questionsAll resolver unit.decls {}

variable {resolver other : Resolver} {unit : SourceUnit}

theorem extractUnit_eq_of_answers
    (answers : Walk.Answers resolver other (unit.questions resolver)) :
    extractUnit other unit = extractUnit resolver unit := by
  rw [extractUnit, extractUnit, Walk.visitAll_eq_of_answers unit.decls answers]

theorem extractUnit_eq_error {failure : UnitFailure}
    (failed : (extractUnit resolver unit).result = .error failure) :
    ∃ question ∈ unit.questions resolver, resolver.FailsAt question failure.cause := by
  refine Walk.visitAll_eq_error unit.decls ?_
  rw [extractUnit] at failed
  split at failed
  · rename_i cause walk visited
    rw [visited, ← Except.error.inj failed]
  · cases failed

/-- In a standard unit types are resolved with the imports of the unit, inside of its declared
types. -/
theorem IsStandard.questions_within (standard : unit.IsStandard) :
    ∀ question ∈ unit.questions resolver,
      question.scope.Within (DeclaredType.unitScope unit)
        ((DeclaredType.ofUnit unit).map DeclaredType.name) := by
  obtain ⟨header, classes, decls, front, plain⟩ := standard.sections
  have place : Place.afterAll {} header = { header } := by
    rw [Place.afterAll, headerAll_header front]
    rfl
  have names : (DeclaredType.ofUnit unit).map DeclaredType.name =
      Walk.siteNames (ClassSite.ofDecls { header } classes) := by
    have outlines := congrArg (List.map Prod.fst) standard.outline_classSites
    rw [List.map_map, List.map_map, classSites, decls, ClassSite.ofDecls_append,
      ClassSite.ofDecls_header front, List.nil_append, place] at outlines
    exact outlines.symm
  have asked : unit.questions resolver =
      Walk.questionsAll resolver classes (Walk.atPlace { header } [] [] []) := by
    rw [questions, decls, ← place]
    exact Walk.questionsAll_header front classes {} [] [] []
  have start : Place.Fits { header } false [] := ⟨rfl, by simp⟩
  rw [asked, names, unitScope_eq decls plain standard.package]
  exact Walk.questionsAll_within classes start (Walk.areMembers_of_isClass plain)

end SourceUnit

end ClassCatalog
