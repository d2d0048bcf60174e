import ClassCatalog.Proofs.Extraction.Units

/-!
# Classes as the walk leaves them

`Walk.exits` follows the states of a walk and notes each class at the moment it is left: its frame
and the supertype clauses that were looked up for it, each with the scope of the look-up.  The
notes agree with the class sites of the unit, and the documents in the frames are the finished
ones.
-/

namespace ClassCatalog

/-- A class as a walk leaves it. -/
structure ClassVisit where
  frame : Frame
  /-- The supertype clauses that were looked up for the class, with the scopes of the look-ups. -/
  clauses : List (Supertype × Scope)

namespace Walk

mutual

/-- The supertype clauses that a visit looks up for the innermost open class. -/
def lookups (resolver : Resolver) : Decl → Walk → List (Supertype × Scope)
  | .supertype s, walk => [(s, walk.context.outerScope)]
  | .method head members, walk => lookupsAll resolver members (walk.enterMethod head)
  | .type _ _, _ => []
  | .parameter _, _ => []
  | .package _, _ => []
  | .imported _, _ => []

/-- The supertype clauses that some visits look up for the innermost open class. -/
def lookupsAll (resolver : Resolver) : List Decl → Walk → List (Supertype × Scope)
  | [], _ => []
  | decl :: rest, walk =>
    lookups resolver decl walk ++ lookupsAll resolver rest (visit resolver decl walk).2

end

mutual

/-- The classes that a visit leaves, in the order in which it leaves them. -/
def exits (resolver : Resolver) : Decl → Walk → List ClassVisit
  | .type head members, walk =>
    let inside := walk.enterClass head
    exitsAll resolver members inside ++
      (visitAll resolver members inside).2.context.classes.current?.toList.map
        fun frame => ⟨frame, lookupsAll resolver members inside⟩
  | .method head members, walk =>
    match walk.context.classes.current? with
    | none => []
    | some _ => exitsAll resolver members (walk.enterMethod head)
  | .parameter _, _ => []
  | .supertype _, _ => []
  | .package _, _ => []
  | .imported _, _ => []

/-- The classes that some visits leave, in the order in which they leave them. -/
def exitsAll (resolver : Resolver) : List Decl → Walk → List ClassVisit
  | [], _ => []
  | decl :: rest, walk =>
    exits resolver decl walk ++ exitsAll resolver rest (visit resolver decl walk).2

end

variable {resolver : Resolver}

mutual

theorem lookups_eq : ∀ (decl : Decl) {place : Place} {follows : Bool} {frame : Frame}
    {outer : List Frame} {docs : List ClassDoc} {warnings : List Warning} {last : Walk},
    place.Fits follows (frame :: outer) →
    visit resolver decl (atPlace place (frame :: outer) docs warnings) = (.ok (), last) →
    lookups resolver decl (atPlace place (frame :: outer) docs warnings) =
      Item.clauses (Item.ofDecl place decl)
  | .package name, place, follows, frame, outer, docs, warnings, last, fits, visited => rfl
  | .imported entry, place, follows, frame, outer, docs, warnings, last, fits, visited => rfl
  | .type head members, place, follows, frame, outer, docs, warnings, last, fits, visited => rfl
  | .parameter p, place, follows, frame, outer, docs, warnings, last, fits, visited => rfl
  | .supertype s, place, follows, frame, outer, docs, warnings, last, fits, visited => by
    rw [lookups, outerScope_atPlace fits]
    rfl
  | .method head members, place, follows, frame, outer, docs, warnings, last, fits, visited => by
    obtain ⟨inner, within, -⟩ := visit_method_eq_ok_iff.1 visited
    have := lookupsAll_eq members (fits.inMethod head) within
    rw [lookups, enterMethod_atPlace, this]
    rfl

theorem lookupsAll_eq : ∀ (decls : List Decl) {place : Place} {follows : Bool} {frame : Frame}
    {outer : List Frame} {docs : List ClassDoc} {warnings : List Warning} {last : Walk},
    place.Fits follows (frame :: outer) →
    visitAll resolver decls (atPlace place (frame :: outer) docs warnings) = (.ok (), last) →
    lookupsAll resolver decls (atPlace place (frame :: outer) docs warnings) =
      Item.clauses (Item.ofDecls place decls)
  | [], place, follows, frame, outer, docs, warnings, last, fits, visited => rfl
  | decl :: rest, place, follows, frame, outer, docs, warnings, last, fits, visited => by
    obtain ⟨middle, first, more⟩ := visitAll_cons_eq_ok_iff.1 visited
    obtain ⟨frames, docs', added, sites, rfl⟩ := (visit_eq_ok_iff decl fits).1 first
    obtain ⟨top, -, rfl⟩ := Item.addToTop_cons_eq_ok_iff.1 added
    have front := lookups_eq decl fits first
    have back := lookupsAll_eq rest ((fits.addToTop added).after decl) more
    rw [lookupsAll, first, front, back, Item.ofDecls, Item.clauses_append]

end

/-- Some visits of classes are those of the given sites, and the documents in their frames are the
given ones. -/
structure Leaves (visits : List ClassVisit) (sites : List ClassSite) (docs : List ClassDoc) :
    Prop where
  names : visits.map (·.frame.fullName) = sites.map (·.path.fullName)
  clauses : visits.map ClassVisit.clauses = sites.map fun site => Item.clauses site.items
  docs : visits.map (·.frame.doc) = docs

theorem Leaves.append {visits visits' : List ClassVisit} {sites sites' : List ClassSite}
    {docs docs' : List ClassDoc} (first : Leaves visits sites docs)
    (second : Leaves visits' sites' docs') :
    Leaves (visits ++ visits') (sites ++ sites') (docs ++ docs') := by
  constructor
  · rw [List.map_append, List.map_append, first.names, second.names]
  · rw [List.map_append, List.map_append, first.clauses, second.clauses]
  · rw [List.map_append, first.docs, second.docs]

theorem Leaves.nil : Leaves [] [] [] := ⟨rfl, rfl, rfl⟩

/-- The clauses noted for a class are the ones its document was made from. -/
theorem Leaves.ancestors_eq {visits : List ClassVisit} {sites : List ClassSite}
    {docs : List ClassDoc} (leaves : Leaves visits sites docs)
    (documents : List.Forall₂ (ClassSite.Documents resolver) sites docs) :
    ∀ visit ∈ visits, ∃ chains,
      List.Forall₂ (ClassSite.Contributes resolver) visit.clauses chains ∧
        visit.frame.doc.ancestors = chains.flatten := by
  induction documents generalizing visits with
  | nil =>
    obtain rfl : visits = [] := by simpa using leaves.docs
    simp
  | @cons site doc sites docs first _ ih =>
    cases visits with
    | nil => cases leaves.docs
    | cons visit rest =>
      have clauses : visit.clauses = Item.clauses site.items := (List.cons.inj leaves.clauses).1
      have document : visit.frame.doc = doc := (List.cons.inj leaves.docs).1
      have others : Leaves rest sites docs :=
        ⟨(List.cons.inj leaves.names).2, (List.cons.inj leaves.clauses).2,
          (List.cons.inj leaves.docs).2⟩
      intro other h
      rcases List.mem_cons.1 h with rfl | h
      · rw [clauses, document]
        exact first.ancestors
      · exact ih others other h

/-- A declaration without classes finishes no document. -/
theorem leaves_nil {decl : Decl} {place : Place} {follows : Bool} {frames : List Frame}
    {docs : List ClassDoc} {warnings : List Warning} {last : Walk}
    (fits : place.Fits follows frames)
    (visited : visit resolver decl (atPlace place frames docs warnings) = (.ok (), last))
    (none : ClassSite.ofDecl place decl = []) :
    ∃ docs', last.context.classes.finished = docs ++ docs' ∧
      Leaves [] (ClassSite.ofDecl place decl) docs' := by
  obtain ⟨frames', docs', added, sites, rfl⟩ := (visit_eq_ok_iff decl fits).1 visited
  rw [none] at sites ⊢
  cases sites
  exact ⟨[], rfl, .nil⟩

mutual

theorem leaves_exits : ∀ (decl : Decl) {place : Place} {follows : Bool} {frames : List Frame}
    {docs : List ClassDoc} {warnings : List Warning} {last : Walk}, place.Fits follows frames →
    visit resolver decl (atPlace place frames docs warnings) = (.ok (), last) →
    ∃ docs', last.context.classes.finished = docs ++ docs' ∧
      Leaves (exits resolver decl (atPlace place frames docs warnings))
        (ClassSite.ofDecl place decl) docs'
  | .package name, place, follows, frames, docs, warnings, last, fits, visited =>
    leaves_nil fits visited rfl
  | .imported entry, place, follows, frames, docs, warnings, last, fits, visited =>
    leaves_nil fits visited rfl
  | .parameter p, place, follows, frames, docs, warnings, last, fits, visited =>
    leaves_nil fits visited rfl
  | .supertype s, place, follows, frames, docs, warnings, last, fits, visited =>
    leaves_nil fits visited rfl
  | .type head members, place, follows, frames, docs, warnings, last, fits, visited => by
    let site : ClassSite :=
      ⟨place.classPath head.name, head.doc, Item.ofDecls (place.inClass head) members⟩
    have inside := fits.inClass head site.items
    obtain ⟨inner, within, rfl⟩ := visit_type_eq_ok_iff.1 visited
    rw [enterClass_atPlace fits docs warnings head site.items] at within
    have clauses := lookupsAll_eq members inside within
    obtain ⟨nested, finished, leaves⟩ := leaves_exitsAll members inside within
    obtain ⟨_, docs', added, -, rfl⟩ := (visitAll_eq_ok_iff members inside).1 within
    obtain ⟨top, filled, rfl⟩ := Item.addToTop_cons_eq_ok_iff.1 added
    obtain ⟨-, full, -⟩ := Item.addAll_eq_ok filled
    obtain rfl : docs' = nested := List.append_cancel_left finished
    refine ⟨docs' ++ [top.doc], ?_, ?_⟩
    · rw [← List.append_assoc]
      exact congrArg (·.context.classes.finished)
        (exitClass_atPlace place head members top frames _ _)
    · rw [exits, enterClass_atPlace fits docs warnings head site.items]
      refine leaves.append ?_
      rw [within, clauses]
      exact ⟨congrArg ([·]) full, rfl, rfl⟩
  | .method head members, place, follows, frames, docs, warnings, last, fits, visited => by
    cases frames with
    | nil =>
      have outside : place.isInside = false := by simp [fits.isInside_eq]
      exact leaves_nil fits visited (by simp [ClassSite.ofDecl, outside])
    | cons frame outer =>
      have inside : place.isInside = true := by simp [fits.isInside_eq]
      obtain ⟨inner, within, rfl⟩ := visit_method_eq_ok_iff.1 visited
      have leaves := leaves_exitsAll members (fits.inMethod head) within
      rw [ClassSite.ofDecl, if_pos inside]
      exact leaves

theorem leaves_exitsAll : ∀ (decls : List Decl) {place : Place} {follows : Bool}
    {frames : List Frame} {docs : List ClassDoc} {warnings : List Warning} {last : Walk},
    place.Fits follows frames →
    visitAll resolver decls (atPlace place frames docs warnings) = (.ok (), last) →
    ∃ docs', last.context.classes.finished = docs ++ docs' ∧
      Leaves (exitsAll resolver decls (atPlace place frames docs warnings))
        (ClassSite.ofDecls place decls) docs'
  | [], place, follows, frames, docs, warnings, last, fits, visited => by
    obtain rfl : atPlace place frames docs warnings = last := by
      simpa [visitAll] using visited
    exact ⟨[], (List.append_nil docs).symm, .nil⟩
  | decl :: rest, place, follows, frames, docs, warnings, last, fits, visited => by
    obtain ⟨middle, first, more⟩ := visitAll_cons_eq_ok_iff.1 visited
    obtain ⟨docs₁, finished₁, leaves₁⟩ := leaves_exits decl fits first
    obtain ⟨frames', docs', added, sites, rfl⟩ := (visit_eq_ok_iff decl fits).1 first
    obtain rfl : docs' = docs₁ := List.append_cancel_left finished₁
    obtain ⟨docs₂, finished₂, leaves₂⟩ :=
      leaves_exitsAll rest ((fits.addToTop added).after decl) more
    refine ⟨docs' ++ docs₂, by rw [finished₂, List.append_assoc], ?_⟩
    rw [exitsAll, first]
    exact leaves₁.append leaves₂

end

end Walk

/-- The classes that the walk through a unit leaves. -/
def SourceUnit.exits (resolver : Resolver) (unit : SourceUnit) : List ClassVisit :=
  Walk.exitsAll resolver unit.decls {}

theorem SourceUnit.leaves_exits {resolver : Resolver} {unit : SourceUnit} {docs : List ClassDoc}
    (completes : (extractUnit resolver unit).result = .ok docs) :
    Walk.Leaves (unit.exits resolver) unit.classSites docs := by
  have sites := extractUnit_result_eq_ok_iff.1 completes
  have visited := (Walk.visitAll_unit_eq_ok_iff unit).2 ⟨docs, sites, rfl⟩
  have start : ({} : Place).Fits false [] := ⟨rfl, by simp⟩
  obtain ⟨docs', rfl, leaves⟩ := Walk.leaves_exitsAll unit.decls start visited
  exact leaves

end ClassCatalog
