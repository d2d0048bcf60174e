import ClassCatalog.Extraction
import Mathlib.Data.List.Basic
import Mathlib.Data.List.ModifyLast

/-!
# Visits are bracketed

Whatever a visit meets and wherever it fails, it puts back what it opened.  `Walk.Brackets` compares
the state before a visit with the state behind it: the frames below the innermost one and the type
variables are the same, the innermost frame, the finished documents and the warnings have only
grown.  The comparison is transitive, so that each declaration answers for its own step
(`brackets_visit`).

A parameter goes to the method at the position that its frame remembers.  `Walk.attachments` notes
the positions that a visit uses, and none of them lies outside of the methods.
-/

namespace ClassCatalog

def MethodDoc.addParameters (method : MethodDoc) (parameters : List ParameterDoc) : MethodDoc :=
  { method with parameters := method.parameters ++ parameters }

theorem MethodDoc.addParameters_nil (method : MethodDoc) : method.addParameters [] = method := by
  simp [addParameters]

theorem MethodDoc.addParameters_addParameters (method : MethodDoc)
    (first second : List ParameterDoc) :
    (method.addParameters first).addParameters second = method.addParameters (first ++ second) := by
  simp [addParameters]

/-! ## Frames that grow -/

namespace Frame

/-- The frame remembers the position of its last method, and none as long as it has no method. -/
structure FollowsLatest (frame : Frame) : Prop where
  none_iff : frame.currentMethod = none ↔ frame.doc.methods = []
  position : ∀ method ∈ frame.currentMethod, method + 1 = frame.doc.methods.length

/-- A frame has grown: ancestors were added at the end, parameters at the method that was the last
one, and further methods behind it. -/
structure Extends (frame later : Frame) : Prop where
  name : later.doc.name = frame.doc.name
  fullName : later.fullName = frame.fullName
  description : later.doc.description = frame.doc.description
  ancestors : frame.doc.ancestors <+: later.doc.ancestors
  methods : ∃ parameters new, later.doc.methods =
    frame.doc.methods.modifyLast (·.addParameters parameters) ++ new

theorem FollowsLatest.cases {frame : Frame} (latest : frame.FollowsLatest) :
    (frame.doc.methods = [] ∧ frame.currentMethod = none) ∨
      ∃ before last, frame.doc.methods = before ++ [last] ∧
        frame.currentMethod = some before.length := by
  rcases List.eq_nil_or_concat' frame.doc.methods with none | ⟨before, last, methods⟩
  · exact .inl ⟨none, latest.none_iff.2 none⟩
  · refine .inr ⟨before, last, methods, ?_⟩
    cases current : frame.currentMethod with
    | none => simp [latest.none_iff.1 current] at methods
    | some position =>
      have := latest.position position current
      rw [methods, List.length_append, List.length_singleton] at this
      rw [Nat.succ.inj this]

theorem FollowsLatest.lt_length {frame : Frame} (latest : frame.FollowsLatest) {method : Nat}
    (current : frame.currentMethod = some method) : method < frame.doc.methods.length := by
  have := latest.position method current
  omega

theorem modifyLast_addParameters_nil (methods : List MethodDoc) :
    methods.modifyLast (·.addParameters []) = methods := by
  rcases List.eq_nil_or_concat' methods with rfl | ⟨before, last, rfl⟩
  · rfl
  · rw [List.modifyLast_concat, MethodDoc.addParameters_nil]

theorem Extends.refl (frame : Frame) : frame.Extends frame :=
  ⟨rfl, rfl, rfl, List.prefix_rfl, [], [], by rw [modifyLast_addParameters_nil, List.append_nil]⟩

theorem Extends.trans {frame middle later : Frame} (first : frame.Extends middle)
    (second : middle.Extends later) : frame.Extends later := by
  refine ⟨second.name.trans first.name, second.fullName.trans first.fullName,
    second.description.trans first.description, first.ancestors.trans second.ancestors, ?_⟩
  obtain ⟨parameters₁, new₁, methods₁⟩ := first.methods
  obtain ⟨parameters₂, new₂, methods₂⟩ := second.methods
  rw [methods₂, methods₁]
  -- the last method in between is the last one from before unless methods were added behind it
  rcases List.eq_nil_or_concat' new₁ with rfl | ⟨before, last, rfl⟩
  · refine ⟨parameters₁ ++ parameters₂, new₂, ?_⟩
    rcases List.eq_nil_or_concat' frame.doc.methods with none | ⟨before, last, methods⟩
    · rw [none]
      rfl
    · rw [methods, List.append_nil, List.modifyLast_concat, List.modifyLast_concat,
        List.modifyLast_concat, MethodDoc.addParameters_addParameters]
  · refine ⟨parameters₁, before ++ [last.addParameters parameters₂] ++ new₂, ?_⟩
    rw [← List.append_assoc, List.modifyLast_concat]
    simp only [List.append_assoc]

theorem extends_addMethod (frame : Frame) (method : MethodDoc) :
    frame.Extends (frame.addMethod method) :=
  ⟨rfl, rfl, rfl, List.prefix_rfl, [], [method], by rw [modifyLast_addParameters_nil]; rfl⟩

theorem extends_addAncestors (frame : Frame) (names : List String) :
    frame.Extends (frame.addAncestors names) :=
  ⟨rfl, rfl, rfl, List.prefix_append _ _, [], [],
    by rw [modifyLast_addParameters_nil, List.append_nil]; rfl⟩

theorem FollowsLatest.extends_addParameter {frame : Frame} (latest : frame.FollowsLatest)
    {method : Nat} (current : frame.currentMethod = some method) (parameter : ParameterDoc) :
    frame.Extends (frame.addParameter method parameter) := by
  refine ⟨rfl, rfl, rfl, List.prefix_rfl, [parameter], [], ?_⟩
  obtain ⟨-, none⟩ | ⟨before, last, methods, position⟩ := latest.cases
  · rw [current] at none
    cases none
  · obtain rfl := Option.some.inj (current.symm.trans position)
    simp [addParameter, ClassDoc.addParameter, methods, List.modify_eq_take_cons_drop,
      List.modifyLast_concat, MethodDoc.addParameters, MethodDoc.addParameter]

theorem followsLatest_addMethod (frame : Frame) (method : MethodDoc) :
    (frame.addMethod method).FollowsLatest := by
  constructor
  · simp [addMethod, ClassDoc.addMethod]
  · simp [addMethod, ClassDoc.addMethod]

theorem FollowsLatest.addAncestors {frame : Frame} (latest : frame.FollowsLatest)
    (names : List String) : (frame.addAncestors names).FollowsLatest :=
  ⟨latest.none_iff, latest.position⟩

theorem FollowsLatest.addParameter {frame : Frame} (latest : frame.FollowsLatest) (method : Nat)
    (parameter : ParameterDoc) : (frame.addParameter method parameter).FollowsLatest := by
  constructor
  · rw [← List.length_eq_zero_iff]
    simpa [Frame.addParameter, ClassDoc.addParameter] using latest.none_iff
  · simpa [Frame.addParameter, ClassDoc.addParameter] using latest.position

/-- Of some open classes only the innermost one has grown. -/
inductive TopExtends : List Frame → List Frame → Prop
  | nil : TopExtends [] []
  | cons {frame later : Frame} (outer : List Frame) (top : frame.Extends later) :
    TopExtends (frame :: outer) (later :: outer)

namespace TopExtends

theorem refl (frames : List Frame) : TopExtends frames frames := by
  cases frames with
  | nil => exact .nil
  | cons frame outer => exact .cons outer (.refl frame)

theorem trans {frames middle later : List Frame} (first : TopExtends frames middle)
    (second : TopExtends middle later) : TopExtends frames later := by
  cases first with
  | nil => exact second
  | cons outer top =>
    cases second with
    | cons _ top' => exact .cons outer (top.trans top')

variable {frames later : List Frame}

theorem length_eq (h : TopExtends frames later) : later.length = frames.length := by
  cases h <;> rfl

theorem names_eq (h : TopExtends frames later) :
    later.map (fun frame => (frame.doc.name, frame.fullName)) =
      frames.map fun frame => (frame.doc.name, frame.fullName) := by
  cases h with
  | nil => rfl
  | cons outer top => rw [List.map_cons, List.map_cons, top.name, top.fullName]

theorem tail_eq (h : TopExtends frames later) : later.tail = frames.tail := by
  cases h <;> rfl

theorem head_extends (h : TopExtends frames later) :
    ∀ frame ∈ frames.head?, ∃ top ∈ later.head?, frame.Extends top := by
  cases h with
  | nil => simp
  | cons outer top => simpa using top

end TopExtends

end Frame

/-! ## One visit and its state -/

namespace Walk

/-- Every open class remembers the position of its last method. -/
def FollowsLatest (walk : Walk) : Prop :=
  ∀ frame ∈ walk.context.classes.frames, frame.FollowsLatest

/-- The state behind a visit, compared with the state before it. -/
structure Brackets (walk later : Walk) : Prop where
  frames : Frame.TopExtends walk.context.classes.frames later.context.classes.frames
  latest : later.FollowsLatest
  typeVariables : later.context.typeVariables = walk.context.typeVariables
  finished : walk.context.classes.finished <+: later.context.classes.finished
  warnings : ∃ more, later.warnings = walk.warnings ++ more ∧ ∀ depth, .openClasses depth ∉ more

namespace Brackets

theorem refl {walk : Walk} (latest : walk.FollowsLatest) : Brackets walk walk :=
  ⟨.refl _, latest, rfl, List.prefix_rfl, [], (List.append_nil _).symm, by simp⟩

theorem trans {walk middle later : Walk} (first : Brackets walk middle)
    (second : Brackets middle later) : Brackets walk later := by
  refine ⟨first.frames.trans second.frames, second.latest,
    second.typeVariables.trans first.typeVariables, first.finished.trans second.finished, ?_⟩
  obtain ⟨more₁, warnings₁, others₁⟩ := first.warnings
  obtain ⟨more₂, warnings₂, others₂⟩ := second.warnings
  refine ⟨more₁ ++ more₂, by rw [warnings₂, warnings₁, List.append_assoc], fun depth h => ?_⟩
  rcases List.mem_append.1 h with h | h
  · exact others₁ depth h
  · exact others₂ depth h

theorem warn {walk : Walk} (latest : walk.FollowsLatest) {warning : Warning}
    (other : ∀ depth, .openClasses depth ≠ warning) : Brackets walk (walk.warn warning) :=
  ⟨.refl _, latest, rfl, List.prefix_rfl, [warning], rfl, by simpa using other⟩

theorem modifyCurrent {walk : Walk} (latest : walk.FollowsLatest) {frame : Frame}
    (current : walk.context.classes.current? = some frame) {change : Frame → Frame}
    (grows : frame.Extends (change frame)) (follows : (change frame).FollowsLatest) :
    Brackets walk (walk.modifyClasses (·.modifyCurrent change)) := by
  obtain ⟨outer, frames⟩ := List.head?_eq_some_iff.1 current
  have changed : (walk.modifyClasses (·.modifyCurrent change)).context.classes =
      { walk.context.classes with frames := change frame :: outer } := by
    simp [modifyClasses, modifyContext, UnitContext.modifyClasses, ClassStack.modifyCurrent, frames]
  refine ⟨?_, ?_, rfl, ?_, [], (List.append_nil _).symm, by simp⟩
  · rw [changed, frames]
    exact .cons outer grows
  · intro other h
    rw [changed] at h
    rcases List.mem_cons.1 h with rfl | h
    · exact follows
    · exact latest other (by rw [frames]; exact List.mem_cons_of_mem _ h)
  · exact ⟨[], by rw [changed, List.append_nil]⟩

theorem exitClass {walk inner : Walk} (latest : walk.FollowsLatest) {head : ClassHead}
    (within : Brackets (walk.enterClass head) inner) :
    Brackets walk (inner.exitClass walk.context.typeVariables.length) := by
  have frames := within.frames
  have entered : (walk.enterClass head).context.classes.frames.tail =
    walk.context.classes.frames := rfl
  have opened := frames.tail_eq.trans entered
  cases stack : inner.context.classes.frames with
  | nil =>
    rw [stack] at frames
    cases frames
  | cons top outer =>
    obtain rfl : outer = walk.context.classes.frames := by simpa [stack] using opened
    have left : (inner.exitClass walk.context.typeVariables.length).context.classes =
        { inner.context.classes with
          frames := walk.context.classes.frames
          finished := inner.context.classes.finished ++ [top.doc] } := by
      simp [Walk.exitClass, modifyContext, UnitContext.popTypeVariables, UnitContext.modifyClasses,
        ClassStack.exit, stack]
    refine ⟨?_, ?_, ?_, ?_, within.warnings⟩
    · rw [left]
      exact .refl _
    · rw [FollowsLatest, left]
      exact latest
    · have visible : inner.context.typeVariables =
          walk.context.typeVariables ++ head.typeParameters := within.typeVariables
      simp [Walk.exitClass, modifyContext, UnitContext.popTypeVariables, UnitContext.modifyClasses,
        visible]
    · rw [left]
      exact within.finished.trans (List.prefix_append _ _)

theorem exitMethod {walk inner : Walk} {frame : Frame}
    (current : walk.context.classes.current? = some frame) {head : MethodHead}
    (within : Brackets (walk.enterMethod head) inner) :
    Brackets walk (inner.exitMethod walk.context.typeVariables.length) := by
  obtain ⟨outer, frames⟩ := List.head?_eq_some_iff.1 current
  have entered : (walk.enterMethod head).context.classes =
      { walk.context.classes with frames := frame.addMethod (.ofHead head) :: outer } := by
    simp [enterMethod, modifyContext, UnitContext.pushTypeVariables, UnitContext.modifyClasses,
      ClassStack.modifyCurrent, frames]
  refine ⟨?_, within.latest, ?_, ?_, within.warnings⟩
  · rw [frames]
    refine Frame.TopExtends.trans (.cons outer (frame.extends_addMethod (.ofHead head))) ?_
    have := within.frames
    rwa [entered] at this
  · have visible : inner.context.typeVariables =
        walk.context.typeVariables ++ head.typeParameters := within.typeVariables
    simp [Walk.exitMethod, modifyContext, UnitContext.popTypeVariables, visible]
  · have := within.finished
    rwa [entered] at this

end Brackets

theorem FollowsLatest.enterClass {walk : Walk} (latest : walk.FollowsLatest) (head : ClassHead) :
    (walk.enterClass head).FollowsLatest := by
  intro frame h
  rcases List.mem_cons.1 h with rfl | h
  · exact ⟨by simp, by simp⟩
  · exact latest frame h

theorem FollowsLatest.enterMethod {walk : Walk} (latest : walk.FollowsLatest) {frame : Frame}
    (current : walk.context.classes.current? = some frame) (head : MethodHead) :
    (walk.enterMethod head).FollowsLatest :=
  (Brackets.modifyCurrent latest current (frame.extends_addMethod (.ofHead head))
    (frame.followsLatest_addMethod (.ofHead head))).latest

theorem FollowsLatest.current {walk : Walk} (latest : walk.FollowsLatest) {frame : Frame}
    (current : walk.context.classes.current? = some frame) : frame.FollowsLatest :=
  latest frame (List.mem_of_mem_head? current)

/-! ## Every visit -/

variable (resolver : Resolver)

theorem brackets_visitParameter (parameter : Parameter) {walk : Walk}
    (latest : walk.FollowsLatest) :
    Brackets walk (walk.visitParameter resolver parameter).2 := by
  unfold visitParameter
  split
  · exact .warn latest (by simp)
  · rename_i frame current
    split
    · exact .warn latest (by simp)
    · rename_i method position
      split
      · exact .refl latest
      · have follows := latest.current current
        exact .modifyCurrent latest current (follows.extends_addParameter position _)
          (follows.addParameter method _)

theorem brackets_visitSupertype (supertype : Supertype) {walk : Walk}
    (latest : walk.FollowsLatest) :
    Brackets walk (walk.visitSupertype resolver supertype).2 := by
  unfold visitSupertype
  split
  · exact .warn latest (by simp)
  · rename_i frame current
    split
    · exact .refl latest
    · exact .modifyCurrent latest current (frame.extends_addAncestors _)
        ((latest.current current).addAncestors _)

mutual

theorem brackets_visit : ∀ (decl : Decl) {walk : Walk}, walk.FollowsLatest →
    Brackets walk (visit resolver decl walk).2
  | .package name, walk, latest =>
    ⟨.refl _, latest, rfl, List.prefix_rfl, [], (List.append_nil _).symm, by simp⟩
  | .imported entry, walk, latest =>
    ⟨.refl _, latest, rfl, List.prefix_rfl, [], (List.append_nil _).symm, by simp⟩
  | .type head members, walk, latest =>
    .exitClass latest (brackets_visitAll members (latest.enterClass head))
  | .method head members, walk, latest => by
    rw [visit]
    split
    · exact .warn latest (by simp)
    · rename_i frame current
      exact .exitMethod current (brackets_visitAll members (latest.enterMethod current head))
  | .parameter parameter, walk, latest => brackets_visitParameter resolver parameter latest
  | .supertype supertype, walk, latest => brackets_visitSupertype resolver supertype latest

theorem brackets_visitAll : ∀ (decls : List Decl) {walk : Walk}, walk.FollowsLatest →
    Brackets walk (visitAll resolver decls walk).2
  | [], walk, latest => .refl latest
  | decl :: rest, walk, latest => by
    have first := brackets_visit decl latest
    rw [visitAll]
    split
    · rename_i next visited
      rw [visited] at first
      exact first.trans (brackets_visitAll rest first.latest)
    · rename_i e next visited
      rw [visited] at first
      exact first

end

/-! ## Positions of methods -/

mutual

/-- The open classes in which a visit has a method for a parameter, each at that moment, with the
position of this method. -/
def attachments : Decl → Walk → List (Frame × Nat)
  | .parameter _, walk =>
    walk.context.classes.current?.toList.flatMap fun frame =>
      frame.currentMethod.toList.map fun method => (frame, method)
  | .type head members, walk => attachmentsAll members (walk.enterClass head)
  | .method head members, walk =>
    match walk.context.classes.current? with
    | none => []
    | some _ => attachmentsAll members (walk.enterMethod head)
  | .supertype _, _ => []
  | .package _, _ => []
  | .imported _, _ => []

def attachmentsAll : List Decl → Walk → List (Frame × Nat)
  | [], _ => []
  | decl :: rest, walk =>
    attachments decl walk ++
      match visit resolver decl walk with
      | (.ok (), next) => attachmentsAll rest next
      | (.error _, _) => []

end

mutual

theorem lt_length_of_mem_attachments : ∀ (decl : Decl) {walk : Walk}, walk.FollowsLatest →
    ∀ used ∈ attachments resolver decl walk, used.2 < used.1.doc.methods.length
  | .package name, walk, latest, used, h => by cases h
  | .imported entry, walk, latest, used, h => by cases h
  | .supertype supertype, walk, latest, used, h => by cases h
  | .parameter parameter, walk, latest, used, h => by
    simp only [attachments, List.mem_flatMap, List.mem_map, Option.mem_toList] at h
    obtain ⟨frame, current, method, position, rfl⟩ := h
    exact (latest.current current).lt_length position
  | .type head members, walk, latest, used, h =>
    lt_length_of_mem_attachmentsAll members (latest.enterClass head) used h
  | .method head members, walk, latest, used, h => by
    rw [attachments] at h
    split at h
    · cases h
    · rename_i frame current
      exact lt_length_of_mem_attachmentsAll members (latest.enterMethod current head) used h

theorem lt_length_of_mem_attachmentsAll : ∀ (decls : List Decl) {walk : Walk},
    walk.FollowsLatest →
    ∀ used ∈ attachmentsAll resolver decls walk, used.2 < used.1.doc.methods.length
  | [], walk, latest, used, h => by cases h
  | decl :: rest, walk, latest, used, h => by
    rw [attachmentsAll, List.mem_append] at h
    rcases h with h | h
    · exact lt_length_of_mem_attachments decl latest used h
    · have first := brackets_visit resolver decl latest
      split at h
      · rename_i next visited
        rw [visited] at first
        exact lt_length_of_mem_attachmentsAll rest first.latest used h
      · cases h

end

end Walk

/-! ## Whole units -/

theorem openClasses_not_mem_warnings (resolver : Resolver) (unit : SourceUnit) (depth : Nat) :
    .openClasses depth ∉ (extractUnit resolver unit).warnings := by
  have start : ({} : Walk).FollowsLatest := by simp [Walk.FollowsLatest]
  have brackets := Walk.brackets_visitAll resolver unit.decls start
  obtain ⟨more, warnings, others⟩ := brackets.warnings
  rw [List.nil_append] at warnings
  rw [extractUnit]
  split
  · rename_i cause last visited
    rw [visited] at warnings
    rw [warnings]
    exact others depth
  · rename_i last visited
    have closed : last.context.classes.depth = 0 := by
      have := brackets.frames.length_eq
      rwa [visited] at this
    rw [visited] at warnings
    rw [Walk.finish, if_pos closed, warnings]
    exact others depth

/-- A visit is bracketed, whether it succeeds or fails: the open classes are the same ones and only
the innermost has grown, the type variables are the same, the finished documents have only grown at
their end, and every frame still remembers its last method.  No parameter is attached at a position
without a method, and no unit ends with a class still open. -/
theorem visit_brackets_state (resolver : Resolver) :
    (∀ (decl : Decl) (walk : Walk), walk.FollowsLatest →
      let later := (walk.visit resolver decl).2
      later.context.classes.depth = walk.context.classes.depth ∧
      later.context.classes.frames.map (fun frame => (frame.doc.name, frame.fullName)) =
        walk.context.classes.frames.map (fun frame => (frame.doc.name, frame.fullName)) ∧
      later.context.classes.frames.tail = walk.context.classes.frames.tail ∧
      (∀ frame ∈ walk.context.classes.current?,
        ∃ top ∈ later.context.classes.current?, frame.Extends top) ∧
      later.context.typeVariables = walk.context.typeVariables ∧
      walk.context.classes.finished <+: later.context.classes.finished ∧
      later.FollowsLatest ∧
      ∀ used ∈ Walk.attachments resolver decl walk, used.2 < used.1.doc.methods.length) ∧
    ∀ (unit : SourceUnit) (depth : Nat),
      .openClasses depth ∉ (extractUnit resolver unit).warnings := by
  refine ⟨fun decl walk latest => ?_, openClasses_not_mem_warnings resolver⟩
  have brackets := Walk.brackets_visit resolver decl latest
  exact ⟨brackets.frames.length_eq, brackets.frames.names_eq, brackets.frames.tail_eq,
    brackets.frames.head_extends, brackets.typeVariables, brackets.finished, brackets.latest,
    Walk.lt_length_of_mem_attachments resolver decl latest⟩

def Resolver.ofNothing : Resolver where
  resolve type _ := .error (.unknownType type.render)
  ancestors name := .error (.missingDeclaration name)

def Walk.inGeneric : Walk where
  context :=
    { classes :=
        { package := some "p"
          frames :=
            [{ doc := { name := "A", methods := [{ name := "m" }] }
               fullName := "p.A"
               currentMethod := some 0 }] }
      typeVariables := ["T"] }

/-- A method with a local class whose supertype cannot be resolved. -/
def Decl.unresolvable : Decl :=
  .method { name := "n", typeParameters := ["U"] }
    [ .type { name := "L", typeParameters := ["V"] } [.supertype ⟨.extends, ⟨["X"]⟩⟩],
      .parameter ⟨"x", .named ⟨["U"]⟩⟩ ]

/-- The visit fails two levels down, and both levels are closed again. -/
theorem visit_brackets_failure :
    (Walk.inGeneric.visit .ofNothing .unresolvable).1 = .error (.unknownType "X") ∧
    (Walk.inGeneric.visit .ofNothing .unresolvable).2.context.classes.frames.map
      (fun frame => (frame.doc.name, frame.fullName)) = [("A", "p.A")] ∧
    (Walk.inGeneric.visit .ofNothing .unresolvable).2.context.typeVariables = ["T"] ∧
    (Walk.inGeneric.visit .ofNothing .unresolvable).2.FollowsLatest := by
  have latest : Walk.inGeneric.FollowsLatest := by
    intro frame h
    obtain rfl := List.mem_singleton.1 h
    exact ⟨by simp, by simp⟩
  obtain ⟨-, names, -, -, visible, -, follows, -⟩ :=
    (visit_brackets_state .ofNothing).1 .unresolvable .inGeneric latest
  exact ⟨rfl, names, visible, follows⟩

end ClassCatalog
