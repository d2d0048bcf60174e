import ClassCatalog.Proofs.Extraction.Reading

/-!
# Documents of a unit

For a whole unit the reading of its tree decides what extraction gives: it succeeds with some
documents and warnings exactly if these are the documents of the class sites, in order, and the
warnings about the rest (`extractUnit_eq_ok_iff`).  Among the warnings there is one for each
parameter that no method of its class precedes.
-/

namespace ClassCatalog

theorem Walk.visitAll_unit_eq_ok_iff {resolver : Resolver} {last : Walk} (unit : SourceUnit) :
    Walk.visitAll resolver unit.decls {} = (.ok (), last) ↔
      ∃ docs, List.Forall₂ (ClassSite.Documents resolver) unit.classSites docs ∧
        last = atPlace (Place.afterAll {} unit.decls) [] docs unit.dropped := by
  have start : ({} : Place).Fits false [] := ⟨rfl, by simp⟩
  refine (visitAll_eq_ok_iff unit.decls start).trans ?_
  constructor
  · rintro ⟨frames, docs, added, sites, rfl⟩
    obtain rfl := Except.ok.inj added
    exact ⟨docs, sites, rfl⟩
  · rintro ⟨docs, sites, rfl⟩
    exact ⟨[], docs, rfl, sites, rfl⟩

/-- Extraction succeeds with some documents and warnings exactly if these are what the tree of the
unit describes. -/
theorem extractUnit_eq_ok_iff (resolver : Resolver) (unit : SourceUnit) (docs : List ClassDoc)
    (warnings : List Warning) :
    extractUnit resolver unit = ⟨.ok docs, warnings⟩ ↔
      List.Forall₂ (ClassSite.Documents resolver) unit.classSites docs ∧
        warnings = unit.dropped := by
  constructor
  · intro extracted
    rw [extractUnit] at extracted
    split at extracted
    · simp at extracted
    · rename_i last visited
      obtain ⟨docs', sites, rfl⟩ := (Walk.visitAll_unit_eq_ok_iff unit).1 visited
      simp only [Walk.finish, Walk.atPlace, ClassStack.depth, List.length_nil, ↓reduceIte,
        UnitOutcome.mk.injEq, Except.ok.injEq] at extracted
      obtain ⟨rfl, rfl⟩ := extracted
      exact ⟨sites, rfl⟩
  · rintro ⟨sites, rfl⟩
    have visited := (Walk.visitAll_unit_eq_ok_iff unit).2 ⟨docs, sites, rfl⟩
    simp [extractUnit, visited, Walk.finish, Walk.atPlace, ClassStack.depth]

theorem extractUnit_result_eq_ok_iff {resolver : Resolver} {unit : SourceUnit}
    {docs : List ClassDoc} :
    (extractUnit resolver unit).result = .ok docs ↔
      List.Forall₂ (ClassSite.Documents resolver) unit.classSites docs := by
  constructor
  · intro result
    have extracted : extractUnit resolver unit = ⟨.ok docs, (extractUnit resolver unit).warnings⟩ := by
      rw [← result]
    exact ((extractUnit_eq_ok_iff resolver unit docs _).1 extracted).1
  · intro sites
    rw [(extractUnit_eq_ok_iff resolver unit docs _).2 ⟨sites, rfl⟩]

/-! ## Parameters without a method -/

def Warning.isParameterWithoutMethod : Warning → Bool
  | .parameterWithoutMethod _ _ => true
  | _ => false

/-- The warnings about parameters of the innermost class in front of its first method. -/
def Place.unattached (place : Place) (follows : Bool) (items : List Item) : List Warning :=
  match place.classes with
  | [] => []
  | path :: _ =>
    if follows then []
    else (Item.leading items).map fun p => .parameterWithoutMethod path.name p.1.name

/-- The warnings about parameters of a class in front of its first method. -/
def ClassSite.unattached (site : ClassSite) : List Warning :=
  (Item.leading site.items).map fun p => .parameterWithoutMethod site.path.name p.1.name

theorem Item.leading_append (first second : List Item) :
    leading (first ++ second) =
      leading first ++ if first.any isMethod then [] else leading second := by
  induction first with
  | nil => simp [leading]
  | cons item rest ih =>
    cases item with
    | method head => simp [isMethod]
    | parameter p scope =>
      rw [List.cons_append, leading_parameter, leading_parameter, ih]
      rfl
    | supertype s scope =>
      rw [List.cons_append, leading_supertype, leading_supertype, ih]
      rfl

theorem Place.unattached_append (place : Place) (follows : Bool) (decl : Decl)
    (first second : List Item) :
    place.unattached follows (first ++ second) =
      place.unattached follows first ++
        (place.after decl).unattached (follows || first.any Item.isMethod) second := by
  simp only [unattached, after, Item.leading_append]
  cases place.classes with
  | nil => rfl
  | cons path around => cases follows <;> cases first.any Item.isMethod <;> simp

theorem Place.unattached_eq_nil {place : Place} {follows : Bool} {items : List Item}
    (none : follows = true ∨ Item.leading items = []) : place.unattached follows items = [] := by
  unfold unattached
  rcases none with rfl | none
  · cases place.classes <;> rfl
  · rw [none]
    cases place.classes <;> simp

mutual

theorem filter_dropped_perm : ∀ (decl : Decl) (place : Place) (follows : Bool),
    ((Decl.dropped place follows decl).filter Warning.isParameterWithoutMethod).Perm
      ((ClassSite.ofDecl place decl).flatMap ClassSite.unattached ++
        place.unattached follows (Item.ofDecl place decl))
  | .package name, place, follows => by
    simp [Decl.dropped, ClassSite.ofDecl, Item.ofDecl, Place.unattached_eq_nil]
  | .imported entry, place, follows => by
    simp [Decl.dropped, ClassSite.ofDecl, Item.ofDecl, Place.unattached_eq_nil]
  | .type head members, place, follows => by
    have within := filter_droppedAll_perm members (place.inClass head) false
    rw [Decl.dropped, ClassSite.ofDecl, Item.ofDecl, Place.unattached_eq_nil (.inr rfl),
      List.append_nil, List.flatMap_append, List.flatMap_singleton]
    exact within
  | .method head members, place, follows => by
    cases inside : place.isInside with
    | false =>
      have outside : place.classes = [] := by simpa [Place.isInside] using inside
      simp [Decl.dropped, ClassSite.ofDecl, inside, Place.unattached, outside,
        Warning.isParameterWithoutMethod]
    | true =>
      have within := filter_droppedAll_perm members (place.inMethod head) true
      rw [Place.unattached_eq_nil (.inl rfl)] at within
      rw [Decl.dropped, ClassSite.ofDecl, Item.ofDecl, if_pos inside, if_pos inside,
        Place.unattached_eq_nil (.inr rfl)]
      exact within
  | .parameter p, place, follows => by
    cases classes : place.classes with
    | nil =>
      simp [Decl.dropped, ClassSite.ofDecl, classes, Place.unattached,
        Warning.isParameterWithoutMethod]
    | cons path around =>
      cases follows <;>
        simp [Decl.dropped, ClassSite.ofDecl, Item.ofDecl, classes, Place.unattached,
          Warning.isParameterWithoutMethod]
  | .supertype s, place, follows => by
    rw [ClassSite.ofDecl, Item.ofDecl, Place.unattached_eq_nil (.inr rfl), Decl.dropped]
    cases place.isInside <;> simp [Warning.isParameterWithoutMethod]

theorem filter_droppedAll_perm : ∀ (decls : List Decl) (place : Place) (follows : Bool),
    ((Decl.droppedAll place follows decls).filter Warning.isParameterWithoutMethod).Perm
      ((ClassSite.ofDecls place decls).flatMap ClassSite.unattached ++
        place.unattached follows (Item.ofDecls place decls))
  | [], place, follows => by
    simp [Decl.droppedAll, ClassSite.ofDecls, Item.ofDecls, Place.unattached_eq_nil]
  | decl :: rest, place, follows => by
    have first := filter_dropped_perm decl place follows
    have more := filter_droppedAll_perm rest (place.after decl)
      (follows || (Item.ofDecl place decl).any Item.isMethod)
    rw [Decl.droppedAll, ClassSite.ofDecls, Item.ofDecls, place.unattached_append follows decl,
      List.filter_append, List.flatMap_append]
    refine (first.append more).trans ?_
    rw [List.append_assoc, List.append_assoc]
    exact (List.perm_append_comm_assoc _ _ _).append_left _

end

/-- The result of extraction is the reading of the tree: there is one document per class site in
post-order, with the names, methods, parameters and ancestors that the site states, and the
warnings are those about what belongs to no class or method.  Each parameter in front of the first
method of its class has one warning of its own. -/
theorem extractUnit_reads_tree (resolver : Resolver) (unit : SourceUnit) :
    (∀ docs warnings, extractUnit resolver unit = ⟨.ok docs, warnings⟩ ↔
      List.Forall₂ (ClassSite.Documents resolver) unit.classSites docs ∧
        warnings = unit.dropped) ∧
    (unit.dropped.filter Warning.isParameterWithoutMethod).Perm
      (unit.classSites.flatMap ClassSite.unattached) := by
  refine ⟨extractUnit_eq_ok_iff resolver unit, ?_⟩
  have perm := filter_droppedAll_perm unit.decls {} false
  rw [Place.unattached, List.append_nil] at perm
  exact perm

end ClassCatalog
