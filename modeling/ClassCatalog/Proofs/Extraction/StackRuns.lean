import ClassCatalog.Proofs.Extraction.Bracketing
import ClassCatalog.Proofs.Extraction.Histories

/-!
# Runs of a class stack

Every stack that is reached from an empty one is determined by its history: it holds a frame for
each class that is still open and a document for each class that was left, with what was added while
this very class was on top (`reflects_run`).  A step adds to one class only, the one on top
(`frameOf_append_singleton`), so that all others keep what they have.
-/

namespace ClassCatalog.ClassStack

open Text

namespace Step

/-- The stack behind a step. -/
def apply (stack : ClassStack) : Step → ClassStack
  | enter simple description => stack.enter simple description
  | exit => stack.exit
  | addMethod method => stack.modifyCurrent (·.addMethod method)
  | addAncestor name => stack.modifyCurrent (·.addAncestors [name])
  | setPackage package => stack.setPackage package

/-- The method that a step adds. -/
def method? : Step → Option MethodDoc
  | addMethod method => some method
  | _ => none

/-- The ancestor that a step adds. -/
def ancestor? : Step → Option String
  | addAncestor name => some name
  | _ => none

/-- The package that a step names. -/
def package? : Step → Option String
  | setPackage package => some package
  | _ => none

/-- What a step does with the frame on top. -/
def change : Step → Frame → Frame
  | addMethod method => (·.addMethod method)
  | addAncestor name => (·.addAncestors [name])
  | _ => id

end Step

/-- The stack behind some steps. -/
def run (stack : ClassStack) (steps : List Step) : ClassStack :=
  steps.foldl Step.apply stack

/-- What the steps that were taken while a class was on top added to it. -/
def addedTo {α : Type} (entry : Entry) (added? : Step → Option α) (history : List Step) : List α :=
  along (fun before step => if OnTop before entry then added? step else none) history

/-- The package that was named last. -/
def packageAfter (start : Option String) (history : List Step) : Option String :=
  (history.filterMap Step.package?).getLast?.or start

/-- The document of a class: its name is made of the classes that were open when it was entered. -/
def docOf (history : List Step) (entry : Entry) : ClassDoc where
  name := ".".intercalate ((openClasses (history.take (entry.step + 1))).map Entry.simple)
  description := entry.description
  ancestors := addedTo entry Step.ancestor? history
  methods := addedTo entry Step.method? history

/-- The frame of a class that is still open. -/
def frameOf (start : Option String) (history : List Step) (entry : Entry) : Frame where
  doc := docOf history entry
  fullName := qualify (packageAfter start (history.take entry.step)) (docOf history entry).name
  currentMethod := (List.range (docOf history entry).methods.length).getLast?

/-! ## One more step -/

section Step

variable {history : List Step} {step : Step} {entry : Entry}

theorem addedTo_append_singleton {α : Type} (entry : Entry) (added? : Step → Option α)
    (history : List Step) (step : Step) :
    addedTo entry added? (history ++ [step]) = addedTo entry added? history ++
      if OnTop history entry then (added? step).toList else [] := by
  rw [addedTo, along_append_singleton]
  split <;> rfl

theorem addedTo_eq_nil {α : Type} (added? : Step → Option α) (late : history.length ≤ entry.step) :
    addedTo entry added? history = [] := by
  induction history using List.reverseRecOn with
  | nil => rfl
  | append_singleton history step ih =>
    rw [List.length_append, List.length_singleton] at late
    have before : ¬ OnTop history entry := fun top => by
      have := step_lt_of_mem_entries top.1
      omega
    rw [addedTo_append_singleton, if_neg before, ih (by omega), List.append_nil]

/-- A class that is on top is changed by a step, every other class keeps its frame. -/
theorem frameOf_append_singleton (start : Option String) (h : entry ∈ entries history)
    (step : Step) :
    frameOf start (history ++ [step]) entry =
      if OnTop history entry then step.change (frameOf start history entry)
      else frameOf start history entry := by
  have bound := step_lt_of_mem_entries h
  have within : (history ++ [step]).take (entry.step + 1) = history.take (entry.step + 1) :=
    List.take_append_of_le_length (by omega)
  have before : (history ++ [step]).take entry.step = history.take entry.step :=
    List.take_append_of_le_length (by omega)
  by_cases top : OnTop history entry
  · rw [if_pos top, frameOf, docOf, within, before, addedTo_append_singleton,
      addedTo_append_singleton, if_pos top, if_pos top]
    cases step <;> simp [frameOf, docOf, Step.change, Step.ancestor?, Step.method?, List.range_succ,
      Frame.addMethod, Frame.addAncestors, ClassDoc.addMethod, ClassDoc.addAncestors]
  · rw [if_neg top, frameOf, docOf, within, before, addedTo_append_singleton,
      addedTo_append_singleton, if_neg top, if_neg top, List.append_nil, List.append_nil]
    rfl

theorem docOf_append_singleton (h : entry ∈ leftClasses history) (step : Step) :
    docOf (history ++ [step]) entry = docOf history entry := by
  have below : ¬ OnTop history entry := fun top =>
    not_mem_openClasses h (List.mem_of_getLast? (onTop_iff_getLast?.1 top))
  have frames := frameOf_append_singleton none (mem_entries_of_mem_leftClasses h) step
  rw [if_neg below] at frames
  exact congrArg Frame.doc frames

theorem packageAfter_append_singleton (start : Option String) (history : List Step)
    (step : Step) :
    packageAfter start (history ++ [step]) =
      step.package?.or (packageAfter start history) := by
  rw [packageAfter, List.filterMap_append, packageAfter]
  cases step <;> simp [Step.package?]

/-- A step changes the frame on top only. -/
theorem map_frameOf_append_singleton (start : Option String) (history : List Step)
    (step : Step) :
    ((openClasses history).map (frameOf start (history ++ [step]))).reverse =
      ((openClasses history).map (frameOf start history)).reverse.modifyHead step.change := by
  have entered : ∀ entry ∈ openClasses history, entry ∈ entries history := fun entry h =>
    (mem_openClasses_iff.1 h).1
  have nested := nested_openClasses history
  rcases List.eq_nil_or_concat' (openClasses history) with none | ⟨outer, last, classes⟩
  · simp [none]
  · have top : OnTop history last := onTop_iff_getLast?.2 (by rw [classes, List.getLast?_concat])
    rw [classes] at entered nested
    have others : outer.map (frameOf start (history ++ [step])) =
        outer.map (frameOf start history) := by
      refine List.map_congr_left fun entry h => ?_
      rw [frameOf_append_singleton start (entered entry (List.mem_append_left _ h)),
        if_neg fun top => nested.ne_zero h top.2]
    rw [classes, List.map_append, others, List.map_append, List.map_singleton, List.map_singleton,
      frameOf_append_singleton start top.1, if_pos top, List.reverse_append, List.reverse_append]
    rfl

/-! ## Whole histories -/

/-- The stack holds the classes of a history. -/
structure Reflects (start : Option String) (history : List Step) (stack : ClassStack) : Prop where
  package : stack.package = packageAfter start history
  frames : stack.frames = ((openClasses history).map (frameOf start history)).reverse
  finished : stack.finished = (leftClasses history).map (docOf history)

theorem exit_of_nil {stack : ClassStack} (frames : stack.frames = []) : stack.exit = stack := by
  rw [exit, frames]

theorem exit_of_cons {stack : ClassStack} {frame : Frame} {outer : List Frame}
    (frames : stack.frames = frame :: outer) :
    stack.exit =
      { stack with frames := outer, finished := stack.finished ++ [frame.doc] } := by
  rw [exit, frames]

theorem modifyCurrent_eq (stack : ClassStack) (f : Frame → Frame) :
    stack.modifyCurrent f = { stack with frames := stack.frames.modifyHead f } := by
  rw [modifyCurrent]
  split
  · rename_i empty
    rw [empty]
    cases stack
    simp_all
  · rename_i frame outer frames
    rw [frames]
    rfl

theorem apply_of_level? (kept : ∀ level, Step.level? level step = some level)
    (stack : ClassStack) :
    step.apply stack =
      { stack with
        package := step.package?.or stack.package
        frames := stack.frames.modifyHead step.change } := by
  cases step with
  | enter simple description => exact absurd (kept 0) (by simp [Step.level?])
  | exit => exact absurd (kept 0) (by simp [Step.level?])
  | addMethod method => exact modifyCurrent_eq stack _
  | addAncestor name => exact modifyCurrent_eq stack _
  | setPackage package => simp [Step.apply, setPackage, Step.package?, Step.change]

theorem qualify_name_of_frames {start : Option String} (simple : String) :
    qualify (((openClasses history).map (frameOf start history)).reverse.head?.map (·.doc.name))
        simple = ".".intercalate ((openClasses history).map Entry.simple ++ [simple]) := by
  rcases List.eq_nil_or_concat' (openClasses history) with none | ⟨outer, last, classes⟩
  · simp [none, qualify]
  · have name : (docOf history last).name =
        ".".intercalate ((outer ++ [last]).map Entry.simple) := by
      rw [docOf, openClasses_take classes]
    rw [classes, String.intercalate_append_of_ne_nil (by simp) (by simp), ← name]
    simp [qualify, member, frameOf]

theorem frameOf_enter (start : Option String) (history : List Step) (simple : String)
    (description : Option String) :
    frameOf start (history ++ [.enter simple description])
        ⟨history.length, simple, description⟩ =
      { doc :=
          { name := ".".intercalate ((openClasses history).map Entry.simple ++ [simple])
            description }
        fullName := qualify (packageAfter start history)
          (".".intercalate ((openClasses history).map Entry.simple ++ [simple])) } := by
  have before : ¬ OnTop history ⟨history.length, simple, description⟩ := fun top =>
    Nat.lt_irrefl _ (step_lt_of_mem_entries top.1)
  have nothing {α : Type} (added? : Step → Option α) :
      addedTo ⟨history.length, simple, description⟩ added?
        (history ++ [.enter simple description]) = [] := by
    rw [addedTo_append_singleton, if_neg before, addedTo_eq_nil added? (by simp), List.append_nil]
  have whole : (history ++ [Step.enter simple description]).take (history.length + 1) =
      history ++ [.enter simple description] := List.take_of_length_le (by simp)
  simp only [frameOf, docOf, nothing, whole, openClasses_enter, List.take_left, List.map_append,
    List.map_singleton]
  rfl

/-- One step keeps the stack in line with its history. -/
theorem reflects_step {start : Option String} {stack : ClassStack}
    (reflects : Reflects start history stack) (step : Step) :
    Reflects start (history ++ [step]) (step.apply stack) := by
  have frames := map_frameOf_append_singleton start history step
  have left : (leftClasses history).map (docOf (history ++ [step])) = stack.finished := by
    rw [reflects.finished]
    exact List.map_congr_left fun entry h => docOf_append_singleton h step
  have package := packageAfter_append_singleton start history step
  rw [← reflects.frames] at frames
  rw [← reflects.package] at package
  obtain ⟨simple, description, rfl⟩ | rfl | kept := step.level?_cases
  · refine ⟨package.symm, ?_, ?_⟩
    · rw [openClasses_enter, List.map_append, List.reverse_append, frames, List.map_singleton,
        frameOf_enter, ← qualify_name_of_frames, ← reflects.frames, ← reflects.package]
      simp [Step.apply, enter, Step.change]
    · rw [leftClasses_append_singleton, List.append_nil, left]
      rfl
  · -- the frame on top has had its last change, and its document goes to the end
    replace frames : ((openClasses history).map (frameOf start (history ++ [.exit]))).reverse =
        stack.frames := frames.trans (congrFun List.modifyHead_id _)
    rcases List.eq_nil_or_concat' (openClasses history) with none | ⟨outer, last, classes⟩
    · rw [none] at frames
      rw [Step.apply, exit_of_nil frames.symm]
      refine ⟨package.symm, ?_, ?_⟩
      · rw [openClasses_exit, none, ← frames]
        rfl
      · rw [leftClasses_append_singleton, none, ← left]
        exact congrArg _ (List.append_nil _).symm
    · rw [classes, List.map_append, List.reverse_append] at frames
      rw [Step.apply, exit_of_cons frames.symm]
      refine ⟨package.symm, ?_, ?_⟩
      · rw [openClasses_exit, classes, List.dropLast_concat]
        rfl
      · rw [leftClasses_append_singleton, classes, List.getLast?_concat, List.map_append, left]
        rfl
  · rw [apply_of_level? kept]
    refine ⟨package.symm, ?_, ?_⟩
    · rw [openClasses_of_level? kept, frames]
    · rw [leftClasses_of_level? kept, left]

theorem reflects_run (start : Option String) (history : List Step) :
    Reflects start history (run { package := start } history) := by
  induction history using List.reverseRecOn with
  | nil => exact ⟨rfl, rfl, rfl⟩
  | append_singleton history step ih =>
    rw [run, List.foldl_append]
    exact reflects_step ih step

theorem finished_prefix_run (stack : ClassStack) (steps : List Step) :
    stack.finished <+: (stack.run steps).finished := by
  induction steps generalizing stack with
  | nil => exact List.prefix_rfl
  | cons step rest ih =>
    refine .trans ?_ (ih (step.apply stack))
    obtain ⟨simple, description, rfl⟩ | rfl | kept := step.level?_cases
    · exact List.prefix_rfl
    · rw [Step.apply]
      cases frames : stack.frames with
      | nil => simp [exit_of_nil frames]
      | cons frame outer =>
        rw [exit_of_cons frames]
        exact List.prefix_append _ _
    · simp [apply_of_level? kept]

theorem frameOf_followsLatest (start : Option String) (history : List Step) (entry : Entry) :
    (frameOf start history entry).FollowsLatest := by
  constructor
  · simp [frameOf]
  · intro method h
    rw [frameOf, List.getLast?_range, Option.mem_def] at h
    split at h
    · cases h
    · obtain rfl := Option.some.inj h
      show (docOf history entry).methods.length - 1 + 1 = (docOf history entry).methods.length
      omega

/-- The name of an open class joins the simple names of the classes from the outermost one to it. -/
theorem name_frameOf {start : Option String} {i : Nat} {entry : Entry}
    (h : (openClasses history)[i]? = some entry) :
    (frameOf start history entry).doc.name =
      ".".intercalate (((openClasses history).take (i + 1)).map Entry.simple) := by
  obtain ⟨bound, rfl⟩ := List.getElem?_eq_some_iff.1 h
  have classes := (List.take_append_drop i (openClasses history)).symm
  rw [List.drop_eq_getElem_cons bound] at classes
  rw [frameOf, docOf, openClasses_take classes, List.take_succ_eq_append_getElem bound]

end Step

/-- After any history the stack holds a frame for each class that is still open and a finished
document for each class that was left.  Their names, ancestors and methods are those that the
history gives them, the finished documents only grow at their end, a class inside another one is
finished before it, and leaving a class where none is open changes nothing. -/
theorem run_reflects_history (start : Option String) (history : List Step) :
    let stack := run { package := start } history
    history.countP Step.isEnter = stack.depth + stack.finished.length ∧
    stack.frames.reverse = (openClasses history).map (frameOf start history) ∧
    stack.finished = (leftClasses history).map (docOf history) ∧
    (∀ (i : Nat) (frame : Frame), stack.frames.reverse[i]? = some frame →
      frame.doc.name = ".".intercalate (((openClasses history).take (i + 1)).map Entry.simple)) ∧
    (∀ frame ∈ stack.frames, frame.FollowsLatest) ∧
    (∀ later, stack.finished <+: (stack.run later).finished) ∧
    (∀ outer inner, inner ∈ entries history → outer ∈ openClasses (history.take inner.step) →
      outer ∈ leftClasses history → [inner, outer].Sublist (leftClasses history)) ∧
    (stack.frames = [] → stack.exit = stack) := by
  intro stack
  have reflects := reflects_run start history
  have frames : stack.frames.reverse = (openClasses history).map (frameOf start history) := by
    rw [reflects.frames, List.reverse_reverse]
  refine ⟨?_, frames, reflects.finished, ?_, ?_, finished_prefix_run stack, ?_, exit_of_nil⟩
  · have all := (leftClasses_append_openClasses_perm history).length_eq
    rw [depth, reflects.frames, reflects.finished, List.length_reverse, List.length_map,
      List.length_map, ← length_entries, ← all, List.length_append, Nat.add_comm]
  · intro i frame h
    rw [frames, List.getElem?_map, Option.map_eq_some_iff] at h
    obtain ⟨entry, at_i, rfl⟩ := h
    exact name_frameOf at_i
  · intro frame h
    rw [← List.mem_reverse, frames, List.mem_map] at h
    obtain ⟨entry, -, rfl⟩ := h
    exact frameOf_followsLatest start history entry
  · exact fun outer inner => left_before

/-- A class with an inner one, one exit too many, and a class in another package that is still
open. -/
def unbalanced : List Step :=
  [ .enter "C" none, .addAncestor "X", .enter "B" (some "inner"), .addMethod { name := "m" },
    .setPackage "q", .exit, .addMethod { name := "n" }, .exit, .exit, .enter "D" none,
    .addMethod { name := "o" } ]

/-- The inner class is finished before the outer one, and each has the method that was added while
it was on top. -/
theorem run_unbalanced :
    (run { package := some "p" } unbalanced).finished =
      [ { name := "C.B", description := some "inner", methods := [{ name := "m" }] },
        { name := "C", ancestors := ["X"], methods := [{ name := "n" }] } ] ∧
    (run { package := some "p" } unbalanced).frames.reverse =
      [ { doc := { name := "D", methods := [{ name := "o" }] }
          fullName := "q.D"
          currentMethod := some 0 } ] ∧
    [⟨2, "B", some "inner"⟩, ⟨0, "C", none⟩].Sublist (leftClasses unbalanced) := by
  obtain ⟨-, frames, finished, -, -, -, before, -⟩ := run_reflects_history (some "p") unbalanced
  refine ⟨finished.trans ?_, frames.trans ?_, before _ _ ?_ ?_ ?_⟩
  · decide
  · decide
  · decide
  · decide
  · decide

end ClassCatalog.ClassStack
