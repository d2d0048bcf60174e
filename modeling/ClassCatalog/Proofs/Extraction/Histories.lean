import ClassCatalog.Extraction.ClassStack
import Mathlib.Data.List.Basic
import Mathlib.Data.List.Induction

/-!
# Histories of a class stack

A history is the list of the steps that were taken with a class stack, unbalanced exits and changes
of the package included.  It is read here without any stack: a class is open as long as the steps
behind its entry leave no more classes than they enter, and on top where they leave as many
(`level?`).  `openClasses` lists the entries that are still open, each inside the one before it
(`nested_openClasses`), and `leftClasses` the others in the order of their exits; together they are
all entries (`leftClasses_append_openClasses_perm`).
-/

namespace ClassCatalog.ClassStack

/-! ## Steps -/

/-- What can be done with a class stack. -/
inductive Step where
  | enter (simple : String) (description : Option String)
  | exit
  | addMethod (method : MethodDoc)
  | addAncestor (name : String)
  | setPackage (package : String)
deriving DecidableEq

namespace Step

def isEnter : Step → Bool
  | enter _ _ => true
  | _ => false

/-- The number of open classes behind a step; none if a class is left and none is open. -/
def level? (level : Nat) : Step → Option Nat
  | enter _ _ => some (level + 1)
  | exit => if level = 0 then none else some (level - 1)
  | _ => some level

theorem level?_cases (step : Step) :
    (∃ simple description, step = enter simple description) ∨ step = exit ∨
      ∀ level, level? level step = some level := by
  cases step with
  | enter simple description => exact .inl ⟨simple, description, rfl⟩
  | exit => exact .inr (.inl rfl)
  | _ => exact .inr (.inr fun _ => rfl)

end Step

/-! ## Reading a history -/

section Reading

variable {α : Type}

/-- What the steps of a history say, each with the steps before it. -/
def along (f : List Step → Step → Option α) (history : List Step) : List α :=
  history.zipIdx.filterMap fun placed => f (history.take placed.2) placed.1

theorem along_append_singleton (f : List Step → Step → Option α) (history : List Step)
    (step : Step) : along f (history ++ [step]) = along f history ++ (f history step).toList := by
  have before : history.zipIdx.filterMap
      (fun placed => f ((history ++ [step]).take placed.2) placed.1) = along f history := by
    refine List.filterMap_congr fun placed h => ?_
    have bound := (List.mem_zipIdx h).2.1
    rw [List.take_append_of_le_length (by omega)]
  rw [along, List.zipIdx_append, List.filterMap_append, before]
  cases said : f history step <;> simp [said]

end Reading

/-- A class that is entered: the number of steps before this, its simple name and description. -/
structure Entry where
  step : Nat
  simple : String
  description : Option String
deriving DecidableEq

/-- The classes that are entered, in this order. -/
def entries (history : List Step) : List Entry :=
  along (fun before step =>
    match step with
    | .enter simple description => some ⟨before.length, simple, description⟩
    | _ => none) history

/-- The number of open classes inside a class behind all steps; none if the class was left. -/
def level? (history : List Step) (entry : Entry) : Option Nat :=
  (history.drop (entry.step + 1)).foldlM Step.level? 0

/-- The class is on top behind all steps. -/
def OnTop (history : List Step) (entry : Entry) : Prop :=
  entry ∈ entries history ∧ level? history entry = some 0

instance (history : List Step) (entry : Entry) : Decidable (OnTop history entry) :=
  inferInstanceAs (Decidable (_ ∧ _))

/-- The classes that are still open, the outermost first. -/
def openClasses (history : List Step) : List Entry :=
  (entries history).filter fun entry => (level? history entry).isSome

/-- The classes that were left, in the order of their exits. -/
def leftClasses (history : List Step) : List Entry :=
  along (fun before step =>
    match step with
    | .exit => (entries before).find? fun entry => OnTop before entry
    | _ => none) history

/-! ## One more step -/

section Step

variable {history : List Step} {step : Step} {entry : Entry}

theorem entries_append_singleton (history : List Step) (step : Step) :
    entries (history ++ [step]) = entries history ++
      match step with
      | .enter simple description => [⟨history.length, simple, description⟩]
      | _ => [] := by
  rw [entries, along_append_singleton]
  cases step <;> rfl

theorem length_entries (history : List Step) :
    (entries history).length = history.countP Step.isEnter := by
  induction history using List.reverseRecOn with
  | nil => rfl
  | append_singleton history step ih =>
    rw [entries_append_singleton, List.length_append, List.countP_append, ih]
    cases step <;> rfl

theorem step_lt_of_mem_entries (h : entry ∈ entries history) : entry.step < history.length := by
  induction history using List.reverseRecOn with
  | nil => cases h
  | append_singleton history step ih =>
    rw [entries_append_singleton, List.mem_append] at h
    rw [List.length_append, List.length_singleton]
    rcases h with h | h
    · exact Nat.lt_succ_of_lt (ih h)
    · cases step <;> simp_all

theorem pairwise_entries (history : List Step) :
    (entries history).Pairwise fun first second => first.step < second.step := by
  induction history using List.reverseRecOn with
  | nil => exact .nil
  | append_singleton history step ih =>
    rw [entries_append_singleton, List.pairwise_append]
    refine ⟨ih, ?_, fun first h second new => ?_⟩
    · cases step <;> simp
    · have := step_lt_of_mem_entries h
      cases step <;> simp_all

theorem nodup_entries (history : List Step) : (entries history).Nodup := by
  refine (pairwise_entries history).imp fun {first second} lt same => ?_
  rw [same] at lt
  exact Nat.lt_irrefl _ lt

theorem level?_append_singleton (h : entry ∈ entries history) (step : Step) :
    level? (history ++ [step]) entry = (level? history entry).bind (Step.level? · step) := by
  have bound := step_lt_of_mem_entries h
  rw [level?, List.drop_append_of_le_length (by omega), List.foldlM_append, level?]
  cases (history.drop (entry.step + 1)).foldlM Step.level? 0 <;> simp

theorem level?_of_enter (history : List Step) (simple : String) (description : Option String) :
    level? (history ++ [.enter simple description]) ⟨history.length, simple, description⟩ =
      some 0 := by
  rw [level?, List.drop_of_length_le (by simp)]
  rfl

theorem openClasses_enter (history : List Step) (simple : String) (description : Option String) :
    openClasses (history ++ [.enter simple description]) =
      openClasses history ++ [⟨history.length, simple, description⟩] := by
  rw [openClasses, entries_append_singleton, List.filter_append, openClasses]
  refine congrArg₂ _ (List.filter_congr fun entry h => ?_) ?_
  · rw [level?_append_singleton h]
    cases level? history entry <;> rfl
  · rw [List.filter_cons_of_pos (by rw [level?_of_enter]; rfl), List.filter_nil]

theorem openClasses_exit_eq_filter (history : List Step) :
    openClasses (history ++ [.exit]) =
      (openClasses history).filter fun entry => level? history entry ≠ some 0 := by
  rw [openClasses, entries_append_singleton, List.append_nil, openClasses, List.filter_filter]
  refine List.filter_congr fun entry h => ?_
  rw [level?_append_singleton h]
  cases level? history entry with
  | none => rfl
  | some level => by_cases zero : level = 0 <;> simp [Step.level?, zero]

theorem entries_of_level? (kept : ∀ level, Step.level? level step = some level) :
    entries (history ++ [step]) = entries history := by
  rw [entries_append_singleton]
  cases step <;> simp_all [Step.level?]

theorem openClasses_of_level? (kept : ∀ level, Step.level? level step = some level) :
    openClasses (history ++ [step]) = openClasses history := by
  rw [openClasses, entries_of_level? kept, openClasses]
  refine List.filter_congr fun entry h => ?_
  rw [level?_append_singleton h]
  cases level? history entry <;> simp [kept]

/-- Each of some nested classes has as many classes inside it as are listed behind it. -/
def Nested (level : Entry → Option Nat) (classes : List Entry) : Prop :=
  classes.reverse.map level = (List.range classes.length).map some

theorem nested_concat_iff {level : Entry → Option Nat} {outer : List Entry} {last : Entry} :
    Nested level (outer ++ [last]) ↔
      level last = some 0 ∧
        outer.reverse.map level = (List.range outer.length).map fun n => some (n + 1) := by
  rw [Nested, List.reverse_append, List.length_append, List.length_singleton,
    List.range_succ_eq_map]
  simp [Function.comp_def]

theorem Nested.ne_zero {level : Entry → Option Nat} {outer : List Entry} {last : Entry}
    (nested : Nested level (outer ++ [last])) (h : entry ∈ outer) : level entry ≠ some 0 := by
  have : level entry ∈ outer.reverse.map level := List.mem_map_of_mem (List.mem_reverse.2 h)
  rw [(nested_concat_iff.1 nested).2, List.mem_map] at this
  obtain ⟨n, -, eq⟩ := this
  simp [← eq]

theorem filter_of_nested {level : Entry → Option Nat} {classes : List Entry}
    (nested : Nested level classes) :
    classes.filter (fun entry => level entry ≠ some 0) = classes.dropLast := by
  rcases List.eq_nil_or_concat' classes with rfl | ⟨outer, last, rfl⟩
  · rfl
  · have left : outer.filter (fun entry => level entry ≠ some 0) = outer :=
      List.filter_eq_self.2 fun entry h => by simpa using nested.ne_zero h
    rw [List.filter_append, left, List.dropLast_concat]
    simp [(nested_concat_iff.1 nested).1]

theorem nested_openClasses (history : List Step) :
    Nested (level? history) (openClasses history) := by
  induction history using List.reverseRecOn with
  | nil => rfl
  | append_singleton history step ih =>
    have later : ∀ classes : List Entry, classes ⊆ openClasses history →
        classes.map (level? (history ++ [step])) =
          (classes.map (level? history)).map (Option.bind · (Step.level? · step)) := by
      intro classes sub
      rw [List.map_map]
      refine List.map_congr_left fun entry h => ?_
      exact level?_append_singleton (List.mem_filter.1 (sub h)).1 step
    obtain ⟨simple, description, rfl⟩ | rfl | kept := step.level?_cases
    · rw [openClasses_enter, nested_concat_iff, later _ (by simp), ih]
      refine ⟨level?_of_enter history simple description, ?_⟩
      simp [Step.level?, Function.comp_def]
    · rw [openClasses_exit_eq_filter, filter_of_nested ih]
      rcases List.eq_nil_or_concat' (openClasses history) with none | ⟨outer, last, classes⟩
      · rw [none]
        rfl
      · rw [classes] at ih later
        rw [classes, List.dropLast_concat, Nested, later _ (by simp), (nested_concat_iff.1 ih).2]
        simp [Step.level?, Function.comp_def]
    · rw [openClasses_of_level? kept, Nested, later _ (by simp), ih]
      simp [kept, Function.comp_def]

theorem openClasses_exit (history : List Step) :
    openClasses (history ++ [.exit]) = (openClasses history).dropLast := by
  rw [openClasses_exit_eq_filter, filter_of_nested (nested_openClasses history)]

theorem mem_openClasses_iff :
    entry ∈ openClasses history ↔ entry ∈ entries history ∧ (level? history entry).isSome :=
  List.mem_filter

theorem onTop_iff_getLast? : OnTop history entry ↔ (openClasses history).getLast? = some entry := by
  have nested := nested_openClasses history
  have open_of : OnTop history entry → entry ∈ openClasses history := by
    rintro ⟨entered, level⟩
    exact mem_openClasses_iff.2 ⟨entered, by rw [level]; rfl⟩
  rcases List.eq_nil_or_concat' (openClasses history) with none | ⟨outer, last, classes⟩
  · rw [none] at open_of ⊢
    simpa using open_of
  · rw [classes] at nested open_of ⊢
    rw [List.getLast?_concat, Option.some_inj]
    constructor
    · intro top
      rcases List.mem_append.1 (open_of top) with h | h
      · exact absurd top.2 (nested.ne_zero h)
      · exact (List.mem_singleton.1 h).symm
    · rintro rfl
      have h : last ∈ openClasses history := by simp [classes]
      exact ⟨(mem_openClasses_iff.1 h).1, (nested_concat_iff.1 nested).1⟩

theorem step_le_of_getLast? {last : Entry} (top : (openClasses history).getLast? = some last)
    (h : entry ∈ openClasses history) : entry.step ≤ last.step := by
  obtain ⟨outer, classes⟩ := List.getLast?_eq_some_iff.1 top
  have order := (pairwise_entries history).filter fun entry => (level? history entry).isSome
  rw [← openClasses, classes, List.pairwise_append] at order
  rw [classes, List.mem_append, List.mem_singleton] at h
  rcases h with h | rfl
  · exact Nat.le_of_lt (order.2.2 entry h last List.mem_cons_self)
  · exact Nat.le_refl _

theorem find?_onTop (history : List Step) :
    (entries history).find? (fun entry => OnTop history entry) =
      (openClasses history).getLast? := by
  cases found : (entries history).find? fun entry => OnTop history entry with
  | some entry => exact (onTop_iff_getLast?.1 (by simpa using List.find?_some found)).symm
  | none =>
    cases last : (openClasses history).getLast? with
    | none => rfl
    | some entry =>
      have top := onTop_iff_getLast?.2 last
      exact absurd top (by simpa using List.find?_eq_none.1 found entry top.1)

theorem leftClasses_append_singleton (history : List Step) (step : Step) :
    leftClasses (history ++ [step]) = leftClasses history ++
      match step with
      | .exit => (openClasses history).getLast?.toList
      | _ => [] := by
  rw [leftClasses, along_append_singleton]
  cases step with
  | exit => rw [← find?_onTop]; rfl
  | _ => rfl

theorem leftClasses_of_level? (kept : ∀ level, Step.level? level step = some level) :
    leftClasses (history ++ [step]) = leftClasses history := by
  rw [leftClasses_append_singleton]
  cases step with
  | exit => exact absurd (kept 0) (by simp [Step.level?])
  | _ => exact List.append_nil _

/-- Every class that was entered was left or is still open. -/
theorem leftClasses_append_openClasses_perm (history : List Step) :
    (leftClasses history ++ openClasses history).Perm (entries history) := by
  induction history using List.reverseRecOn with
  | nil => exact .nil
  | append_singleton history step ih =>
    obtain ⟨simple, description, rfl⟩ | rfl | kept := step.level?_cases
    · rw [leftClasses_append_singleton, List.append_nil, openClasses_enter,
        entries_append_singleton, ← List.append_assoc]
      exact ih.append_right _
    · rw [leftClasses_append_singleton, openClasses_exit, entries_append_singleton,
        List.append_nil, List.append_assoc]
      refine .trans (.append_left _ ?_) ih
      rcases List.eq_nil_or_concat' (openClasses history) with none | ⟨outer, last, classes⟩
      · rw [none]
        exact .nil
      · rw [classes, List.dropLast_concat, List.getLast?_concat]
        exact List.perm_append_comm
    · rwa [leftClasses_of_level? kept, openClasses_of_level? kept, entries_of_level? kept]

theorem not_mem_openClasses (h : entry ∈ leftClasses history) : entry ∉ openClasses history := by
  have nodup := (leftClasses_append_openClasses_perm history).nodup_iff.2 (nodup_entries history)
  intro still
  exact (List.nodup_append.1 nodup).2.2 entry h entry still rfl

theorem mem_entries_of_mem_leftClasses (h : entry ∈ leftClasses history) :
    entry ∈ entries history :=
  (leftClasses_append_openClasses_perm history).mem_iff.1 (List.mem_append_left _ h)

/-- When a class was entered that is still open, the open classes were those that are now listed up
to it. -/
theorem openClasses_take {outer inner : List Entry}
    (classes : openClasses history = outer ++ entry :: inner) :
    openClasses (history.take (entry.step + 1)) = outer ++ [entry] := by
  induction history using List.reverseRecOn generalizing inner with
  | nil => simp [openClasses, entries, along] at classes
  | append_singleton history step ih =>
    -- the class was entered before the last step, and the other steps leave it where it is
    have earlier : ∀ inner', openClasses history = outer ++ entry :: inner' →
        openClasses ((history ++ [step]).take (entry.step + 1)) = outer ++ [entry] := by
      intro inner' classes'
      have h : entry ∈ openClasses history := by simp [classes']
      have bound := step_lt_of_mem_entries (mem_openClasses_iff.1 h).1
      rw [List.take_append_of_le_length (by omega)]
      exact ih classes'
    obtain ⟨simple, description, rfl⟩ | rfl | kept := step.level?_cases
    · rw [openClasses_enter] at classes
      rcases List.eq_nil_or_concat' inner with rfl | ⟨inner', last, rfl⟩
      · obtain ⟨outside, entered⟩ := List.append_inj' classes rfl
        obtain rfl := List.singleton_inj.1 entered
        rw [List.take_of_length_le (by simp), openClasses_enter, outside]
      · rw [← List.cons_append, ← List.append_assoc] at classes
        exact earlier inner' (List.append_inj' classes rfl).1
    · rw [openClasses_exit] at classes
      rcases List.eq_nil_or_concat' (openClasses history) with none | ⟨before, last, classes'⟩
      · simp [none] at classes
      · rw [classes', List.dropLast_concat] at classes
        exact earlier (inner ++ [last]) (by rw [classes', classes]; simp)
    · rw [openClasses_of_level? kept] at classes
      exact earlier inner classes

/-- A class that was entered while another one was open was left before it. -/
theorem left_before {outer inner : Entry} (entered : inner ∈ entries history)
    (within : outer ∈ openClasses (history.take inner.step)) (left : outer ∈ leftClasses history) :
    [inner, outer].Sublist (leftClasses history) := by
  induction history using List.reverseRecOn with
  | nil => cases entered
  | append_singleton history step ih =>
    have earlier : inner ∈ entries history → outer ∈ leftClasses history →
        [inner, outer].Sublist (leftClasses history) := by
      intro entered' left'
      have bound := step_lt_of_mem_entries entered'
      rw [List.take_append_of_le_length (by omega)] at within
      exact ih entered' within left'
    obtain ⟨simple, description, rfl⟩ | rfl | kept := step.level?_cases
    · rw [leftClasses_append_singleton, List.append_nil] at left ⊢
      rw [entries_append_singleton, List.mem_append, List.mem_singleton] at entered
      rcases entered with entered | rfl
      · exact earlier entered left
      · rw [List.take_left] at within
        exact absurd within (not_mem_openClasses left)
    · rw [entries_append_singleton, List.append_nil] at entered
      rw [leftClasses_append_singleton] at left ⊢
      rcases List.mem_append.1 left with left | now
      · exact (earlier entered left).trans (List.sublist_append_left _ _)
      · have top := Option.mem_toList.1 now
        rw [top]
        refine .append (List.singleton_sublist.2 ?_) (.refl _)
        rcases List.mem_append.1 ((leftClasses_append_openClasses_perm history).mem_iff.2 entered)
          with gone | still
        · exact gone
        · -- nothing that is open was entered behind the class on top
          have order := step_lt_of_mem_entries (mem_openClasses_iff.1 within).1
          rw [List.length_take] at order
          have := step_le_of_getLast? top still
          omega
    · rw [leftClasses_of_level? kept] at left ⊢
      rw [entries_of_level? kept] at entered
      exact earlier entered left

end Step

end ClassCatalog.ClassStack
