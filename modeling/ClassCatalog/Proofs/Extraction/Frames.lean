import ClassCatalog.Proofs.Except
import ClassCatalog.Proofs.Extraction.Places

/-!
# Frames filled with items

An open class takes its items one after the other.  `Item.addAll` is what the items of a class do
to its frame, and `ClassSite.filled_frame_iff` says that the frame of a site, filled with the items
of the site, holds exactly the document that the site describes.
-/

namespace ClassCatalog

namespace Item

/-- Adds an item to an open class.  A parameter with no method before it changes nothing. -/
def addTo (resolver : Resolver) : Item → Frame → Except ResolveError Frame
  | method head, frame => .ok (frame.addMethod (.ofHead head))
  | parameter p scope, frame =>
    match frame.currentMethod with
    | none => .ok frame
    | some current => (resolver.parameterType p.type scope).map fun type =>
        frame.addParameter current { name := p.name, type }
  | supertype s scope, frame => (resolver.ancestorChain s.name scope).map frame.addAncestors

/-- Adds items to an open class, up to the first failure. -/
def addAll (resolver : Resolver) : List Item → Frame → Except ResolveError Frame
  | [], frame => .ok frame
  | item :: rest, frame => (item.addTo resolver frame).bind (addAll resolver rest)

theorem addAll_append_eq_ok_iff (resolver : Resolver) (first second : List Item)
    (frame last : Frame) :
    addAll resolver (first ++ second) frame = .ok last ↔
      ∃ middle, addAll resolver first frame = .ok middle ∧
        addAll resolver second middle = .ok last := by
  induction first generalizing frame with
  | nil => simp [addAll]
  | cons item rest ih =>
    simp only [List.cons_append, addAll, bind_eq_ok_iff, ih]
    constructor
    · rintro ⟨next, added, middle, front, back⟩
      exact ⟨middle, ⟨next, added, front⟩, back⟩
    · rintro ⟨middle, ⟨next, added, front⟩, back⟩
      exact ⟨next, added, middle, front, back⟩

/-! ## What an added item leaves alone -/

/-- Everything in a frame that has its say in names and warnings. -/
theorem addTo_eq_ok {resolver : Resolver} {item : Item} {frame last : Frame}
    (added : item.addTo resolver frame = .ok last) :
    last.doc.name = frame.doc.name ∧ last.fullName = frame.fullName ∧
      last.currentMethod.isSome = (frame.currentMethod.isSome || item.isMethod) := by
  cases item with
  | method head =>
    simp only [addTo, Except.ok.injEq] at added
    subst added
    simp [Frame.addMethod, ClassDoc.addMethod, isMethod]
  | parameter p scope =>
    cases current : frame.currentMethod with
    | none =>
      simp only [addTo, current, Except.ok.injEq] at added
      subst added
      simp [current, isMethod]
    | some position =>
      simp only [addTo, current, map_eq_ok_iff] at added
      obtain ⟨type, -, rfl⟩ := added
      simp [Frame.addParameter, ClassDoc.addParameter, current]
  | supertype s scope =>
    simp only [addTo, map_eq_ok_iff] at added
    obtain ⟨chain, -, rfl⟩ := added
    simp [Frame.addAncestors, ClassDoc.addAncestors, isMethod]

theorem addAll_eq_ok {resolver : Resolver} {items : List Item} {frame last : Frame}
    (added : addAll resolver items frame = .ok last) :
    last.doc.name = frame.doc.name ∧ last.fullName = frame.fullName ∧
      last.currentMethod.isSome = (frame.currentMethod.isSome || items.any isMethod) := by
  induction items generalizing frame with
  | nil =>
    simp only [addAll, Except.ok.injEq] at added
    subst added
    simp
  | cons item rest ih =>
    simp only [addAll, bind_eq_ok_iff] at added
    obtain ⟨next, first, more⟩ := added
    obtain ⟨name₁, full₁, current₁⟩ := addTo_eq_ok first
    obtain ⟨name₂, full₂, current₂⟩ := ih more
    refine ⟨name₂.trans name₁, full₂.trans full₁, ?_⟩
    rw [current₂, current₁, List.any_cons, Bool.or_assoc]

end Item

/-! ## The document in a filled frame -/

/-- A frame that is filled with items holds a document in the end. -/
def Frame.Filled (resolver : Resolver) (items : List Item) (frame : Frame) (doc : ClassDoc) :
    Prop :=
  ∃ last, Item.addAll resolver items frame = .ok last ∧ last.doc = doc

namespace Frame

open ClassSite

variable {resolver : Resolver} {doc : ClassDoc}

theorem filled_nil_iff {frame : Frame} : Filled resolver [] frame doc ↔ frame.doc = doc := by
  simp [Filled, Item.addAll]

theorem filled_cons_iff {item : Item} {rest : List Item} {frame : Frame} :
    Filled resolver (item :: rest) frame doc ↔
      ∃ next, item.addTo resolver frame = .ok next ∧ Filled resolver rest next doc := by
  simp only [Filled, Item.addAll, bind_eq_ok_iff]
  constructor
  · rintro ⟨last, ⟨next, added, more⟩, holds⟩
    exact ⟨next, added, last, more, holds⟩
  · rintro ⟨next, added, last, more, holds⟩
    exact ⟨last, ⟨next, added, more⟩, holds⟩

/-- Items behind a method: parameters up to the next method belong to it, and the other methods
follow with their own. -/
theorem filled_iff_of_current (items : List Item) (frame : Frame) (before : List MethodDoc)
    (current : MethodDoc) (methods : frame.doc.methods = before ++ [current])
    (position : frame.currentMethod = some before.length) :
    Filled resolver items frame doc ↔
      ∃ parameters others chains,
        List.Forall₂ (DocumentsParameter resolver) (Item.leading items) parameters ∧
        List.Forall₂ (DocumentsMethod resolver) (Item.methods items) others ∧
        List.Forall₂ (Contributes resolver) (Item.clauses items) chains ∧
        doc = { frame.doc with
          ancestors := frame.doc.ancestors ++ chains.flatten
          methods := before ++
            { current with parameters := current.parameters ++ parameters } :: others } := by
  induction items generalizing frame before current with
  | nil =>
    rw [filled_nil_iff]
    constructor
    · rintro rfl
      exact ⟨[], [], [], .nil, .nil, .nil, by simp [← methods]⟩
    · rintro ⟨parameters, others, chains, hp, ho, hc, rfl⟩
      cases hp
      cases ho
      cases hc
      simp [← methods]
  | cons item rest ih =>
    rw [filled_cons_iff]
    cases item with
    | method head =>
      have step := ih (frame.addMethod (.ofHead head)) (before ++ [current])
        (.ofHead head) (by simp [addMethod, ClassDoc.addMethod, methods])
        (by simp [addMethod, methods])
      simp only [Item.addTo, Except.ok.injEq, exists_eq_left', step]
      constructor
      · rintro ⟨parameters, others, chains, hp, ho, hc, rfl⟩
        refine ⟨[], _ :: others, chains, .nil, .cons ⟨parameters, hp, rfl⟩ ho, hc, ?_⟩
        simp [addMethod, ClassDoc.addMethod, MethodDoc.ofHead]
      · rintro ⟨parameters, others, chains, hp, ho, hc, rfl⟩
        cases hp
        obtain ⟨other, others', ⟨own, hown, rfl⟩, ho', rfl⟩ := List.forall₂_cons_left_iff.1 ho
        refine ⟨own, others', chains, hown, ho', hc, ?_⟩
        simp [addMethod, ClassDoc.addMethod, MethodDoc.ofHead]
    | parameter p scope =>
      simp only [Item.addTo, position, map_eq_ok_iff]
      have step (type : Option String) :=
        ih (frame.addParameter before.length { name := p.name, type }) before
          (current.addParameter { name := p.name, type })
          (by simp [addParameter, ClassDoc.addParameter, methods, List.modify_eq_take_cons_drop])
          (by simp [addParameter, position])
      constructor
      · rintro ⟨_, ⟨type, found, rfl⟩, filled⟩
        obtain ⟨parameters, others, chains, hp, ho, hc, rfl⟩ := (step type).1 filled
        refine ⟨{ name := p.name, type } :: parameters, others, chains, .cons ⟨rfl, found⟩ hp, ho,
          hc, ?_⟩
        simp [addParameter, ClassDoc.addParameter, MethodDoc.addParameter]
      · rintro ⟨parameters, others, chains, hp, ho, hc, rfl⟩
        obtain ⟨⟨name, type⟩, parameters', ⟨rfl, found⟩, hp', rfl⟩ :=
          List.forall₂_cons_left_iff.1 hp
        refine ⟨_, ⟨type, found, rfl⟩, (step type).2 ⟨parameters', others, chains, hp', ho, hc, ?_⟩⟩
        simp [addParameter, ClassDoc.addParameter, MethodDoc.addParameter]
    | supertype s scope =>
      simp only [Item.addTo, map_eq_ok_iff]
      have step (chain : List String) :=
        ih (frame.addAncestors chain) before current
          (by simp [addAncestors, ClassDoc.addAncestors, methods])
          (by simp [addAncestors, position])
      constructor
      · rintro ⟨_, ⟨chain, found, rfl⟩, filled⟩
        obtain ⟨parameters, others, chains, hp, ho, hc, rfl⟩ := (step chain).1 filled
        refine ⟨parameters, others, chain :: chains, hp, ho, .cons found hc, ?_⟩
        simp [addAncestors, ClassDoc.addAncestors]
      · rintro ⟨parameters, others, chains, hp, ho, hc, rfl⟩
        obtain ⟨chain, chains', found, hc', rfl⟩ := List.forall₂_cons_left_iff.1 hc
        refine ⟨_, ⟨chain, found, rfl⟩,
          (step chain).2 ⟨parameters, others, chains', hp, ho, hc', ?_⟩⟩
        simp [addAncestors, ClassDoc.addAncestors]

/-- Items of a class without methods so far: parameters in front of the first method are left
out. -/
theorem filled_iff_of_empty (items : List Item) (frame : Frame) (methods : frame.doc.methods = [])
    (position : frame.currentMethod = none) :
    Filled resolver items frame doc ↔
      ∃ others chains,
        List.Forall₂ (DocumentsMethod resolver) (Item.methods items) others ∧
        List.Forall₂ (Contributes resolver) (Item.clauses items) chains ∧
        doc = { frame.doc with
          ancestors := frame.doc.ancestors ++ chains.flatten, methods := others } := by
  induction items generalizing frame with
  | nil =>
    rw [filled_nil_iff]
    constructor
    · rintro rfl
      exact ⟨[], [], .nil, .nil, by simp [← methods]⟩
    · rintro ⟨others, chains, ho, hc, rfl⟩
      cases ho
      cases hc
      simp [← methods]
  | cons item rest ih =>
    rw [filled_cons_iff]
    cases item with
    | method head =>
      -- from the first method on the other lemma takes over
      have step := @filled_iff_of_current resolver doc rest
        (frame.addMethod (.ofHead head)) [] (.ofHead head)
        (by simp [addMethod, ClassDoc.addMethod, methods]) (by simp [addMethod, methods])
      simp only [Item.addTo, Except.ok.injEq, exists_eq_left', step]
      constructor
      · rintro ⟨parameters, others, chains, hp, ho, hc, rfl⟩
        refine ⟨_ :: others, chains, .cons ⟨parameters, hp, rfl⟩ ho, hc, ?_⟩
        simp [addMethod, ClassDoc.addMethod, MethodDoc.ofHead]
      · rintro ⟨others, chains, ho, hc, rfl⟩
        obtain ⟨other, others', ⟨own, hown, rfl⟩, ho', rfl⟩ := List.forall₂_cons_left_iff.1 ho
        refine ⟨own, others', chains, hown, ho', hc, ?_⟩
        simp [addMethod, ClassDoc.addMethod, MethodDoc.ofHead]
    | parameter p scope =>
      simp only [Item.addTo, position, Except.ok.injEq, exists_eq_left']
      exact ih frame methods position
    | supertype s scope =>
      simp only [Item.addTo, map_eq_ok_iff]
      have step (chain : List String) :=
        ih (frame.addAncestors chain) (by simp [addAncestors, ClassDoc.addAncestors, methods])
          (by simp [addAncestors, position])
      constructor
      · rintro ⟨_, ⟨chain, found, rfl⟩, filled⟩
        obtain ⟨others, chains, ho, hc, rfl⟩ := (step chain).1 filled
        refine ⟨others, chain :: chains, ho, .cons found hc, ?_⟩
        simp [addAncestors, ClassDoc.addAncestors]
      · rintro ⟨others, chains, ho, hc, rfl⟩
        obtain ⟨chain, chains', found, hc', rfl⟩ := List.forall₂_cons_left_iff.1 hc
        refine ⟨_, ⟨chain, found, rfl⟩, (step chain).2 ⟨others, chains', ho, hc', ?_⟩⟩
        simp [addAncestors, ClassDoc.addAncestors]

end Frame

namespace ClassSite

/-- The frame of a class where it begins. -/
def frame (site : ClassSite) : Frame :=
  { doc := { name := site.path.name, description := descriptionOf site.doc }
    fullName := site.path.fullName }

theorem filled_frame_iff (resolver : Resolver) (site : ClassSite) (doc : ClassDoc) :
    site.frame.Filled resolver site.items doc ↔ site.Documents resolver doc := by
  rw [Frame.filled_iff_of_empty site.items site.frame rfl rfl]
  constructor
  · rintro ⟨others, chains, ho, hc, rfl⟩
    exact ⟨rfl, rfl, ho, chains, hc, by simp [frame]⟩
  · rintro ⟨name, description, ho, chains, hc, ancestors⟩
    refine ⟨doc.methods, chains, ho, hc, ?_⟩
    cases doc
    simp_all [frame]

end ClassSite

end ClassCatalog
