import ClassCatalog.Proofs.Extraction.Frames

/-!
# The walk reads the tree

At each place the state of a walk is `Walk.atPlace`: the package, the imports and the type
variables are those of the place, and the open frames fit the classes around it.  A visit that
succeeds moves the walk behind the declaration, adds the items met to the innermost frame and
finishes the documents of the sites met (`visit_eq_ok_iff`, `visitAll_eq_ok_iff`).
-/

namespace ClassCatalog

open Text

theorem forall₂_append_left_iff {α β : Type} {R : α → β → Prop} {first second : List α}
    {images : List β} :
    List.Forall₂ R (first ++ second) images ↔
      ∃ front back, List.Forall₂ R first front ∧ List.Forall₂ R second back ∧
        images = front ++ back := by
  constructor
  · intro h
    induction first generalizing images with
    | nil => exact ⟨[], images, .nil, h, rfl⟩
    | cons x rest ih =>
      obtain ⟨y, others, hxy, more, rfl⟩ := List.forall₂_cons_left_iff.1 h
      obtain ⟨front, back, hf, hb, rfl⟩ := ih more
      exact ⟨y :: front, back, .cons hxy hf, hb, rfl⟩
  · rintro ⟨front, back, hf, hb, rfl⟩
    exact List.rel_append hf hb

/-! ## The innermost frame -/

namespace Item

/-- Adds items to the innermost of some open classes, if there is one. -/
def addToTop (resolver : Resolver) (items : List Item) :
    List Frame → Except ResolveError (List Frame)
  | [] => .ok []
  | frame :: outer => (addAll resolver items frame).map (· :: outer)

theorem addToTop_nil (resolver : Resolver) (frames : List Frame) :
    addToTop resolver [] frames = .ok frames := by
  cases frames <;> rfl

theorem addToTop_cons_eq_ok_iff {resolver : Resolver} {items : List Item} {frame : Frame}
    {outer last : List Frame} :
    addToTop resolver items (frame :: outer) = .ok last ↔
      ∃ top, addAll resolver items frame = .ok top ∧ last = top :: outer := by
  rw [addToTop, map_eq_ok_iff]
  exact exists_congr fun top => and_congr_right fun _ => eq_comm

theorem addToTop_append_eq_ok_iff {resolver : Resolver} {first second : List Item}
    {frames last : List Frame} :
    addToTop resolver (first ++ second) frames = .ok last ↔
      ∃ middle, addToTop resolver first frames = .ok middle ∧
        addToTop resolver second middle = .ok last := by
  cases frames with
  | nil => simp [addToTop]
  | cons frame outer =>
    simp only [addToTop_cons_eq_ok_iff, addAll_append_eq_ok_iff]
    constructor
    · rintro ⟨top, ⟨middle, front, back⟩, rfl⟩
      exact ⟨middle :: outer, ⟨middle, front, rfl⟩, addToTop_cons_eq_ok_iff.2 ⟨top, back, rfl⟩⟩
    · rintro ⟨_, ⟨middle, front, rfl⟩, back⟩
      obtain ⟨top, more, rfl⟩ := addToTop_cons_eq_ok_iff.1 back
      exact ⟨top, ⟨middle, front, more⟩, rfl⟩

end Item

/-- The open frames are those of the classes around a place, and `follows` says whether the
innermost one has a method. -/
structure Place.Fits (place : Place) (follows : Bool) (frames : List Frame) : Prop where
  names : frames.map (fun frame => (frame.doc.name, frame.fullName)) =
    place.classes.map fun path => (path.name, path.fullName)
  current : ∀ frame ∈ frames.head?, frame.currentMethod.isSome = follows

namespace Place.Fits

variable {place : Place} {follows : Bool} {frames : List Frame}

theorem map_fullName (fits : place.Fits follows frames) :
    frames.map Frame.fullName = place.classes.map ClassPath.fullName := by
  have := congrArg (List.map Prod.snd) fits.names
  simpa only [List.map_map, Function.comp_def] using this

theorem map_name (fits : place.Fits follows frames) :
    frames.map (·.doc.name) = place.classes.map ClassPath.name := by
  have := congrArg (List.map Prod.fst) fits.names
  simpa only [List.map_map, Function.comp_def] using this

theorem isInside_eq (fits : place.Fits follows frames) : place.isInside = !frames.isEmpty := by
  have := congrArg List.isEmpty fits.names
  simp only [List.isEmpty_map] at this
  rw [isInside, ← this]

/-- A class begins: its frame goes on top. -/
theorem inClass (fits : place.Fits follows frames) (head : ClassHead) (items : List Item) :
    (place.inClass head).Fits false
      (ClassSite.frame ⟨place.classPath head.name, head.doc, items⟩ :: frames) := by
  refine ⟨?_, by simp [ClassSite.frame]⟩
  simp only [List.map_cons, Place.inClass, fits.names, ClassSite.frame]

/-- Items are added to the innermost frame. -/
theorem addToTop {resolver : Resolver} {items : List Item} {last : List Frame}
    (fits : place.Fits follows frames) (added : Item.addToTop resolver items frames = .ok last) :
    place.Fits (follows || items.any Item.isMethod) last := by
  cases frames with
  | nil =>
    simp only [Item.addToTop, Except.ok.injEq] at added
    subst added
    exact ⟨fits.names, by simp⟩
  | cons frame outer =>
    obtain ⟨top, filled, rfl⟩ := Item.addToTop_cons_eq_ok_iff.1 added
    obtain ⟨name, full, current⟩ := Item.addAll_eq_ok filled
    refine ⟨?_, ?_⟩
    · rw [← fits.names, List.map_cons, List.map_cons, name, full]
    · intro frame' h
      obtain rfl := Option.some.inj h
      rw [current, fits.current frame rfl]

/-- Only the package and the imports of a place may change behind its frames. -/
theorem after (fits : place.Fits follows frames) (decl : Decl) :
    (place.after decl).Fits follows frames :=
  ⟨fits.names, fits.current⟩

/-- A method begins: it is added to the innermost frame. -/
theorem inMethod {frame : Frame} {outer : List Frame} (fits : place.Fits follows (frame :: outer))
    (head : MethodHead) :
    (place.inMethod head).Fits true (frame.addMethod (.ofHead head) :: outer) :=
  ⟨by simpa [Frame.addMethod, ClassDoc.addMethod, Place.inMethod] using fits.names,
    by simp [Frame.addMethod]⟩

end Place.Fits

/-! ## The state of a walk at a place -/

namespace Walk

/-- The state of a walk at a place. -/
def atPlace (place : Place) (frames : List Frame) (docs : List ClassDoc)
    (warnings : List Warning) : Walk :=
  { context :=
      { package := place.package?
        imports := place.imports
        classes := { package := place.package?, frames, finished := docs }
        typeVariables := place.typeVariables }
    warnings }

variable {place : Place} {follows : Bool} {frames : List Frame}

theorem innerScope_atPlace (fits : place.Fits follows frames) (docs : List ClassDoc)
    (warnings : List Warning) :
    (atPlace place frames docs warnings).context.innerScope = place.innerScope := by
  simp only [atPlace, UnitContext.innerScope, ClassStack.enclosingNames, fits.map_fullName,
    Place.innerScope]

theorem outerScope_atPlace (fits : place.Fits follows frames) (docs : List ClassDoc)
    (warnings : List Warning) :
    (atPlace place frames docs warnings).context.outerScope = place.outerScope := by
  simp only [atPlace, UnitContext.outerScope, ClassStack.outerNames, List.map_tail,
    fits.map_fullName, Place.outerScope, Place.innerScope]

theorem setPackage_atPlace (place : Place) (frames : List Frame) (docs : List ClassDoc)
    (warnings : List Warning) (name : String) :
    (atPlace place frames docs warnings).modifyContext (·.setPackage name) =
      atPlace (place.after (.package name)) frames docs warnings := by
  have package : (place.after (.package name)).package? = some name := by
    simp [Place.package?, Place.after, Decl.header, Decl.package?]
  have imports : (place.after (.package name)).imports = place.imports := by
    rw [Place.imports, Place.after, Decl.header, List.filterMap_append]
    exact congrArg ImportTable.ofList (List.append_nil _)
  rw [atPlace, atPlace, package, imports]
  rfl

theorem addImport_atPlace (place : Place) (frames : List Frame) (docs : List ClassDoc)
    (warnings : List Warning) (entry : Import) :
    (atPlace place frames docs warnings).modifyContext (·.addImport entry) =
      atPlace (place.after (.imported entry)) frames docs warnings := by
  have package : (place.after (.imported entry)).package? = place.package? := by
    rw [Place.package?, Place.after, Decl.header, List.filterMap_append]
    exact congrArg List.getLast? (List.append_nil _)
  have imports : (place.after (.imported entry)).imports = place.imports.add entry := by
    simp [Place.imports, Place.after, Decl.header, Decl.import?, ImportTable.ofList]
  rw [atPlace, atPlace, package, imports]
  rfl

theorem enterClass_atPlace (fits : place.Fits follows frames) (docs : List ClassDoc)
    (warnings : List Warning) (head : ClassHead) (items : List Item) :
    (atPlace place frames docs warnings).enterClass head =
      atPlace (place.inClass head)
        (ClassSite.frame ⟨place.classPath head.name, head.doc, items⟩ :: frames) docs warnings := by
  have name : qualify (frames.head?.map (·.doc.name)) head.name =
      (place.classPath head.name).name := by
    rw [Place.name_classPath, ← List.head?_map, ← List.head?_map, fits.map_name]
  simp only [enterClass, modifyContext, atPlace, UnitContext.modifyClasses, ClassStack.enter,
    UnitContext.pushTypeVariables, name]
  rfl

theorem exitClass_atPlace (place : Place) (head : ClassHead) (members : List Decl) (top : Frame)
    (frames : List Frame) (docs : List ClassDoc) (warnings : List Warning) :
    (atPlace ((place.inClass head).afterAll members) (top :: frames) docs warnings).exitClass
        place.typeVariables.length =
      atPlace (place.after (.type head members)) frames (docs ++ [top.doc]) warnings := by
  simp [exitClass, modifyContext, atPlace, UnitContext.popTypeVariables,
    UnitContext.modifyClasses, ClassStack.exit, Place.after, Place.afterAll, Place.inClass,
    Place.package?, Place.imports, Place.isInside, Decl.header]

theorem enterMethod_atPlace (place : Place) (frame : Frame) (outer : List Frame)
    (docs : List ClassDoc) (warnings : List Warning) (head : MethodHead) :
    (atPlace place (frame :: outer) docs warnings).enterMethod head =
      atPlace (place.inMethod head) (frame.addMethod (.ofHead head) :: outer) docs warnings :=
  rfl

theorem exitMethod_atPlace (inside : place.isInside = true) (head : MethodHead)
    (members : List Decl) (frames : List Frame) (docs : List ClassDoc) (warnings : List Warning) :
    (atPlace ((place.inMethod head).afterAll members) frames docs warnings).exitMethod
        place.typeVariables.length =
      atPlace (place.after (.method head members)) frames docs warnings := by
  have inside' : (place.inMethod head).isInside = true := inside
  simp [exitMethod, modifyContext, atPlace, UnitContext.popTypeVariables, Place.after,
    Place.afterAll, Place.package?, Place.imports, Decl.header, inside, inside']
  simp [Place.inMethod]

/-! ## Visits that succeed -/

variable {resolver : Resolver} {docs : List ClassDoc} {warnings : List Warning} {last : Walk}

/-- The walk has moved on to a place: the items met are in the innermost frame, the documents of
the sites met are finished, and there are warnings about the rest. -/
def Moves (resolver : Resolver) (next : Place) (items : List Item) (sites : List ClassSite)
    (dropped : List Warning) (frames : List Frame) (docs : List ClassDoc)
    (warnings : List Warning) (last : Walk) : Prop :=
  ∃ frames' docs', Item.addToTop resolver items frames = .ok frames' ∧
    List.Forall₂ (ClassSite.Documents resolver) sites docs' ∧
    last = atPlace next frames' (docs ++ docs') (warnings ++ dropped)

theorem visit_type_eq_ok_iff {head : ClassHead} {members : List Decl} {walk : Walk} :
    visit resolver (.type head members) walk = (.ok (), last) ↔
      ∃ inner, visitAll resolver members (walk.enterClass head) = (.ok (), inner) ∧
        last = inner.exitClass walk.context.typeVariables.length := by
  rw [visit]
  rcases visitAll resolver members (walk.enterClass head) with ⟨_ | _, inner⟩ <;>
    simp [eq_comm]

theorem visit_method_eq_ok_iff {head : MethodHead} {members : List Decl} {frame : Frame}
    {outer : List Frame} :
    visit resolver (.method head members) (atPlace place (frame :: outer) docs warnings) =
        (.ok (), last) ↔
      ∃ inner, visitAll resolver members (atPlace (place.inMethod head)
          (frame.addMethod (.ofHead head) :: outer) docs warnings) = (.ok (), inner) ∧
        last = inner.exitMethod place.typeVariables.length := by
  rw [← enterMethod_atPlace, visit]
  simp only [atPlace, ClassStack.current?, List.head?_cons]
  rcases visitAll resolver members (Walk.enterMethod head _) with ⟨_ | _, inner⟩ <;>
    simp [eq_comm]

theorem visitAll_cons_eq_ok_iff {decl : Decl} {rest : List Decl} {walk : Walk} :
    visitAll resolver (decl :: rest) walk = (.ok (), last) ↔
      ∃ middle, visit resolver decl walk = (.ok (), middle) ∧
        visitAll resolver rest middle = (.ok (), last) := by
  rw [visitAll]
  rcases visit resolver decl walk with ⟨_ | _, middle⟩ <;> simp

/-- A declaration that only adds one item or is left out. -/
theorem moves_of_after_eq {decl : Decl} {items : List Item} {dropped : List Warning}
    (header : decl.header place.isInside = []) :
    Moves resolver (place.after decl) items [] dropped frames docs warnings last ↔
      ∃ frames', Item.addToTop resolver items frames = .ok frames' ∧
        last = atPlace place frames' docs (warnings ++ dropped) := by
  have stays : place.after decl = place := by simp [Place.after, header]
  simp only [Moves, List.forall₂_nil_left_iff, stays]
  constructor
  · rintro ⟨frames', docs', added, rfl, rfl⟩
    exact ⟨frames', added, by rw [List.append_nil]⟩
  · rintro ⟨frames', added, rfl⟩
    exact ⟨frames', [], added, rfl, by rw [List.append_nil]⟩

theorem visitParameter_eq_ok_iff (fits : place.Fits follows frames) (p : Parameter) :
    visitParameter resolver p (atPlace place frames docs warnings) = (.ok (), last) ↔
      Moves resolver (place.after (.parameter p)) (Item.ofDecl place (.parameter p)) []
        (Decl.dropped place follows (.parameter p)) frames docs warnings last := by
  rw [moves_of_after_eq rfl, visitParameter, innerScope_atPlace fits]
  cases frames with
  | nil =>
    have outside : place.classes = [] := by simpa using fits.names.symm
    simp [atPlace, ClassStack.current?, Decl.dropped, outside, Item.addToTop, warn, eq_comm]
  | cons frame outer =>
    have names := fits.names
    cases classes : place.classes with
    | nil => simp [classes] at names
    | cons path around =>
      have name : frame.doc.name = path.name := by simp_all
      have current : frame.currentMethod.isSome = follows := fits.current frame rfl
      simp only [Item.ofDecl, Item.addToTop_cons_eq_ok_iff, Item.addAll, bind_eq_ok_iff,
        Item.addTo, Decl.dropped, classes]
      cases method : frame.currentMethod with
      | none =>
        have first : follows = false := by rw [← current, method]; rfl
        simp [atPlace, ClassStack.current?, method, warn, first, name, eq_comm]
      | some position =>
        have later : follows = true := by rw [← current, method]; rfl
        cases resolver.parameterType p.type place.innerScope with
        | error e => simp [atPlace, ClassStack.current?, method, Except.map]
        | ok type =>
          simp [atPlace, ClassStack.current?, method, later, Except.map, modifyClasses,
            modifyContext, UnitContext.modifyClasses, ClassStack.modifyCurrent, eq_comm]

theorem visitSupertype_eq_ok_iff (fits : place.Fits follows frames) (s : Supertype) :
    visitSupertype resolver s (atPlace place frames docs warnings) = (.ok (), last) ↔
      Moves resolver (place.after (.supertype s)) (Item.ofDecl place (.supertype s)) []
        (Decl.dropped place follows (.supertype s)) frames docs warnings last := by
  rw [moves_of_after_eq rfl, visitSupertype, outerScope_atPlace fits]
  cases frames with
  | nil =>
    have outside : place.isInside = false := by simp [fits.isInside_eq]
    simp [atPlace, ClassStack.current?, Decl.dropped, outside, Item.addToTop, warn, eq_comm]
  | cons frame outer =>
    have inside : place.isInside = true := by simp [fits.isInside_eq]
    simp only [Item.ofDecl, Item.addToTop_cons_eq_ok_iff, Item.addAll, bind_eq_ok_iff, Item.addTo,
      Decl.dropped, inside]
    cases resolver.ancestorChain s.name place.outerScope with
    | error e => simp [atPlace, ClassStack.current?, Except.map]
    | ok chain =>
      simp [atPlace, ClassStack.current?, Except.map, modifyClasses, modifyContext,
        UnitContext.modifyClasses, ClassStack.modifyCurrent, eq_comm]

mutual

theorem visit_eq_ok_iff : ∀ (decl : Decl) {place : Place} {follows : Bool} {frames : List Frame}
    {docs : List ClassDoc} {warnings : List Warning} {last : Walk}, place.Fits follows frames →
    (visit resolver decl (atPlace place frames docs warnings) = (.ok (), last) ↔
      Moves resolver (place.after decl) (Item.ofDecl place decl) (ClassSite.ofDecl place decl)
        (Decl.dropped place follows decl) frames docs warnings last)
  | .package name, place, follows, frames, docs, warnings, last, fits => by
    simp [visit, setPackage_atPlace, Moves, Item.ofDecl, ClassSite.ofDecl, Decl.dropped,
      Item.addToTop_nil, eq_comm]
  | .imported entry, place, follows, frames, docs, warnings, last, fits => by
    simp [visit, addImport_atPlace, Moves, Item.ofDecl, ClassSite.ofDecl, Decl.dropped,
      Item.addToTop_nil, eq_comm]
  | .type head members, place, follows, frames, docs, warnings, last, fits => by
    let site : ClassSite :=
      ⟨place.classPath head.name, head.doc, Item.ofDecls (place.inClass head) members⟩
    have inside := fits.inClass head site.items
    rw [visit_type_eq_ok_iff, enterClass_atPlace fits docs warnings head site.items]
    constructor
    · rintro ⟨inner, visited, rfl⟩
      obtain ⟨_, docs', added, sites, rfl⟩ := (visitAll_eq_ok_iff members inside).1 visited
      obtain ⟨top, filled, rfl⟩ := Item.addToTop_cons_eq_ok_iff.1 added
      have document := (site.filled_frame_iff resolver top.doc).1 ⟨top, filled, rfl⟩
      refine ⟨frames, docs' ++ [top.doc], Item.addToTop_nil resolver frames,
        List.rel_append sites (.cons document .nil), ?_⟩
      rw [← List.append_assoc]
      exact exitClass_atPlace place head members top frames _ _
    · rintro ⟨frames', docs', added, sites, rfl⟩
      obtain ⟨nested, own, inner, single, rfl⟩ := forall₂_append_left_iff.1 sites
      obtain ⟨doc, _, document, none, rfl⟩ := List.forall₂_cons_left_iff.1 single
      cases none
      obtain rfl : frames = frames' := by simpa [Item.ofDecl, Item.addToTop_nil] using added
      obtain ⟨top, filled, rfl⟩ := (site.filled_frame_iff resolver doc).2 document
      refine ⟨_, (visitAll_eq_ok_iff members inside).2 ⟨top :: frames, nested,
        Item.addToTop_cons_eq_ok_iff.2 ⟨top, filled, rfl⟩, inner, rfl⟩, ?_⟩
      rw [← List.append_assoc]
      exact (exitClass_atPlace place head members top frames _ _).symm
  | .method head members, place, follows, frames, docs, warnings, last, fits => by
    cases frames with
    | nil =>
      have outside : place.isInside = false := by simp [fits.isInside_eq]
      simp [visit, atPlace, ClassStack.current?, Moves, outside, ClassSite.ofDecl, Decl.dropped,
        Item.addToTop, Place.after, Decl.header, warn, eq_comm]
    | cons frame outer =>
      have inside : place.isInside = true := by simp [fits.isInside_eq]
      have begun : Item.addToTop resolver [.method head] (frame :: outer) =
          .ok (frame.addMethod (.ofHead head) :: outer) := rfl
      have fits' := fits.inMethod head
      rw [visit_method_eq_ok_iff, ClassSite.ofDecl, Decl.dropped, if_pos inside, if_pos inside,
        Item.ofDecl]
      constructor
      · rintro ⟨inner, visited, rfl⟩
        obtain ⟨frames', docs', added, sites, rfl⟩ := (visitAll_eq_ok_iff members fits').1 visited
        exact ⟨frames', docs', Item.addToTop_append_eq_ok_iff.2 ⟨_, begun, added⟩, sites,
          exitMethod_atPlace inside head members frames' _ _⟩
      · rintro ⟨frames', docs', added, sites, rfl⟩
        obtain ⟨middle, first, more⟩ :=
          (@Item.addToTop_append_eq_ok_iff _ [.method head] _ _ _).1 added
        obtain rfl := Except.ok.inj (begun.symm.trans first)
        exact ⟨_, (visitAll_eq_ok_iff members fits').2 ⟨frames', docs', more, sites, rfl⟩,
          (exitMethod_atPlace inside head members frames' _ _).symm⟩
  | .parameter p, place, follows, frames, docs, warnings, last, fits => by
    rw [visit]
    exact visitParameter_eq_ok_iff fits p
  | .supertype s, place, follows, frames, docs, warnings, last, fits => by
    rw [visit]
    exact visitSupertype_eq_ok_iff fits s

theorem visitAll_eq_ok_iff : ∀ (decls : List Decl) {place : Place} {follows : Bool}
    {frames : List Frame} {docs : List ClassDoc} {warnings : List Warning} {last : Walk},
    place.Fits follows frames →
    (visitAll resolver decls (atPlace place frames docs warnings) = (.ok (), last) ↔
      Moves resolver (place.afterAll decls) (Item.ofDecls place decls)
        (ClassSite.ofDecls place decls) (Decl.droppedAll place follows decls) frames docs warnings
        last)
  | [], place, follows, frames, docs, warnings, last, fits => by
    simp [visitAll, Moves, Item.ofDecls, ClassSite.ofDecls, Decl.droppedAll, Item.addToTop_nil,
      eq_comm]
  | decl :: rest, place, follows, frames, docs, warnings, last, fits => by
    rw [visitAll_cons_eq_ok_iff]
    constructor
    · rintro ⟨middle, first, more⟩
      obtain ⟨frames₁, docs₁, added₁, sites₁, rfl⟩ := (visit_eq_ok_iff decl fits).1 first
      have fits₁ := (fits.addToTop added₁).after decl
      obtain ⟨frames₂, docs₂, added₂, sites₂, rfl⟩ := (visitAll_eq_ok_iff rest fits₁).1 more
      refine ⟨frames₂, docs₁ ++ docs₂, Item.addToTop_append_eq_ok_iff.2 ⟨_, added₁, added₂⟩,
        List.rel_append sites₁ sites₂, ?_⟩
      rw [Place.afterAll_cons, List.append_assoc, List.append_assoc]
      rfl
    · rintro ⟨frames₂, docs', added, sites, rfl⟩
      obtain ⟨frames₁, added₁, added₂⟩ := Item.addToTop_append_eq_ok_iff.1 added
      obtain ⟨docs₁, docs₂, sites₁, sites₂, rfl⟩ := forall₂_append_left_iff.1 sites
      have fits₁ := (fits.addToTop added₁).after decl
      refine ⟨_, (visit_eq_ok_iff decl fits).2 ⟨frames₁, docs₁, added₁, sites₁, rfl⟩,
        (visitAll_eq_ok_iff rest fits₁).2 ⟨frames₂, docs₂, added₂, sites₂, ?_⟩⟩
      rw [Place.afterAll_cons, List.append_assoc, List.append_assoc]
      rfl

end

end Walk

end ClassCatalog
