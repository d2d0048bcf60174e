import ClassCatalog.Java.Parse
import ClassCatalog.Proofs.Java.Nodes

/-!
# Lists of interfaces

In the tree of a text, a type has at most one list of interfaces (`hasSingleLists_parse`).  How many
lists the nodes of a match can have among them is read off a pattern (`Pattern.lists`), and so is
whether the nodes of types around them get too many (`Pattern.isSingle`).  What one step of matching
keeps is stated for each of the functions that match, with one unit of fuel less (`RunsFit`).
-/

namespace ClassCatalog.Java

/-- The keyword of a list of interfaces. -/
def Kind.interfaceClause? : Kind → Option Clause
  | superInterfaces => some .implements
  | extendsInterfaces => some .extends
  | _ => none

/-- The lists of interfaces of a type. -/
def interfaceLists (tree : Tree) : List Tree :=
  tree.children.filter (·.kind.interfaceClause?.isSome)

/-- The types in a tree have at most one list of interfaces each. -/
def Tree.HasSingleLists (tree : Tree) : Prop :=
  ∀ node ∈ tree.nodes, node.kind.classKind?.isSome = true → (interfaceLists node).length ≤ 1

/-- How many lists a node of a kind is itself. -/
def Kind.lists (kind : Kind) : Nat :=
  if kind.interfaceClause?.isSome then 1 else 0

namespace Pattern

variable {ρ : Type}

mutual

/-- A bound on the lists of interfaces among the nodes that a pattern yields; beyond one it says
nothing. -/
def lists : Pattern ρ → Nat
  | spelled _ => 0
  | joined _ => 0
  | leaf kind _ => kind.lists
  | sequence items => listsInAll items
  | choice options => listsInAny options
  | many item => if item.lists = 0 then 0 else 2
  | optional item => item.lists
  | node kind _ => kind.lists
  | labelled _ body => body.lists
  | growing base _ _ => base.lists
  | ahead _ body => body.lists
  | rule _ => 0

/-- The bound for patterns one after the other. -/
def listsInAll : List (Pattern ρ) → Nat
  | [] => 0
  | item :: items => item.lists + listsInAll items

/-- The bound for any one of some patterns. -/
def listsInAny : List (Pattern ρ) → Nat
  | [] => 0
  | option :: options => max option.lists (listsInAny options)

end

mutual

/-- Whether the nodes of types in what a pattern yields have at most one list of interfaces. -/
def isSingle : Pattern ρ → Bool
  | spelled _ => true
  | joined _ => true
  | leaf _ _ => true
  | sequence items => areSingle items
  | choice options => areSingle options
  | many item => item.isSingle
  | optional item => item.isSingle
  | node kind body => body.isSingle && (kind.classKind?.isNone || body.lists ≤ 1)
  | labelled _ body => body.isSingle
  | growing base _ steps => base.isSingle && stepsAreSingle steps
  | ahead _ body => body.isSingle
  | rule _ => true

/-- Whether this is so for all of some patterns. -/
def areSingle : List (Pattern ρ) → Bool
  | [] => true
  | item :: items => item.isSingle && areSingle items

/-- Whether this is so for the steps by which a node grows, which yield neither types nor lists. -/
def stepsAreSingle : List (Kind × Pattern ρ) → Bool
  | [] => true
  | step :: steps => stepIsSingle step && stepsAreSingle steps

/-- Whether this is so for a step. -/
def stepIsSingle : Kind × Pattern ρ → Bool
  | (kind, step) => kind.classKind?.isNone && kind.interfaceClause?.isNone && step.isSingle

end

end Pattern

/-! ## Nodes with few lists -/

/-- Some nodes have at most the given number of lists among them, if it is one or none, and the types
in them have at most one. -/
structure HasLists (trees : List Tree) (bound : Nat) : Prop where
  few : bound ≤ 1 → trees.countP (·.kind.interfaceClause?.isSome) ≤ bound
  single : ∀ tree ∈ trees, tree.HasSingleLists

namespace HasLists

variable {trees more : List Tree} {bound other : Nat}

theorem nil (bound : Nat) : HasLists [] bound where
  few _ := Nat.zero_le bound
  single _ h := by cases h

theorem mono (h : HasLists trees bound) (le : bound ≤ other) : HasLists trees other where
  few small := Nat.le_trans (h.few (Nat.le_trans le small)) le
  single := h.single

/-- From two on, the bound says nothing. -/
theorem many (h : HasLists trees bound) : HasLists trees 2 where
  few small := by omega
  single := h.single

theorem append (first : HasLists trees bound) (second : HasLists more other) :
    HasLists (trees ++ more) (bound + other) where
  few small := by
    have left := first.few (by omega)
    have right := second.few (by omega)
    rw [List.countP_append]
    omega
  single tree listed := (List.mem_append.1 listed).elim (first.single tree) (second.single tree)

/-- A node without children is at most a list itself. -/
theorem leaf (kind : Kind) (label : Option Label) (span : Span) :
    HasLists [.node kind label span []] kind.lists where
  few _ := by
    rw [List.countP_singleton, Kind.lists]
    exact Nat.le_refl _
  single tree listed node inside _ := by
    obtain rfl := List.mem_singleton.1 listed
    obtain rfl := List.mem_singleton.1 inside
    exact Nat.zero_le 1

/-- A node above others is at most a list itself, and they are its lists if it is a type. -/
theorem above {kind : Kind} (children : HasLists trees bound)
    (type : kind.classKind?.isSome = true → bound ≤ 1) :
    HasLists [Tree.above kind trees] kind.lists where
  few _ := by
    rw [List.countP_singleton, Kind.lists]
    exact Nat.le_refl _
  single tree listed node inside isType := by
    obtain rfl := List.mem_singleton.1 listed
    rcases Tree.mem_nodes_iff.1 inside with rfl | ⟨child, below, inside⟩
    · have small := type isType
      have few := children.few small
      rw [List.countP_eq_length_filter] at few
      exact Nat.le_trans few small
    · exact children.single child below node inside isType

theorem nodes_withLabel (tree : Tree) (label : Option Label) :
    (tree.withLabel label).nodes = tree.withLabel label :: tree.children.flatMap Tree.nodes := by
  cases tree with
  | node kind own span children => exact Tree.nodes_eq _

/-- A role does not change what a node has. -/
theorem withLabel {tree : Tree} (h : HasLists [tree] bound) (label : Option Label) :
    HasLists [tree.withLabel label] bound where
  few small := by
    cases tree
    exact h.few small
  single other listed node inside isType := by
    obtain rfl := List.mem_singleton.1 listed
    rw [nodes_withLabel] at inside
    rcases List.mem_cons.1 inside with rfl | inside
    · have own := h.single tree List.mem_cons_self tree tree.mem_nodes_self
      cases tree
      exact own isType
    · refine h.single tree List.mem_cons_self node ?_ isType
      rw [Tree.nodes_eq]
      exact List.mem_cons_of_mem _ inside

theorem setLabel (h : HasLists trees bound) (label : Label) :
    HasLists (Pattern.setLabel label trees) bound where
  few small := by
    have same : (Pattern.setLabel label trees).countP (·.kind.interfaceClause?.isSome) =
        trees.countP (·.kind.interfaceClause?.isSome) := by
      rw [Pattern.setLabel, List.countP_map]
      refine List.countP_congr fun tree _ => ?_
      rw [Function.comp_apply]
      split
      · rfl
      · cases tree
        rfl
    exact Nat.le_trans (Nat.le_of_eq same) (h.few small)
  single tree listed node inside isType := by
    obtain ⟨own, isOwn, rfl⟩ := List.mem_map.1 listed
    have ownSingle : HasLists [own] 2 :=
      ⟨by omega, fun tree listed => List.mem_singleton.1 listed ▸ h.single own isOwn⟩
    split at inside
    · exact h.single own isOwn node inside isType
    · exact (ownSingle.withLabel (some label)).single _ List.mem_cons_self node inside isType

theorem splitComments (tokens : List Token) : HasLists (Pattern.splitComments tokens).1 0 := by
  induction tokens with
  | nil => exact nil 0
  | cons token rest ih =>
    rw [Pattern.splitComments]
    split
    · refine append (HasLists.leaf _ none token.span) ih |>.mono ?_
      split <;> decide
    · exact nil 0

end HasLists

/-! ## Matching -/

namespace Pattern

variable {ρ : Type} {rules : ρ → Pattern ρ} {fuel : Nat}

/-- What matching with some fuel yields has the lists that the patterns allow. -/
structure RunsFit (rules : ρ → Pattern ρ) (fuel : Nat) : Prop where
  run : ∀ {pattern : Pattern ρ} {tokens rest : List Token} {trees : List Tree},
    pattern.isSingle = true → run rules fuel pattern tokens = some (trees, rest) →
    HasLists trees pattern.lists
  all : ∀ {items : List (Pattern ρ)} {tokens rest : List Token} {trees : List Tree},
    areSingle items = true → runAll rules fuel items tokens = some (trees, rest) →
    HasLists trees (listsInAll items)
  first : ∀ {options : List (Pattern ρ)} {tokens rest : List Token} {trees : List Tree},
    areSingle options = true → runFirst rules fuel options tokens = some (trees, rest) →
    HasLists trees (listsInAny options)
  grow : ∀ {role : Option Label} {steps : List (Kind × Pattern ρ)} {tree grown : Tree}
    {tokens rest : List Token} {bound : Nat}, stepsAreSingle steps = true → HasLists [tree] bound →
    grow rules fuel role steps tree tokens = some (grown, rest) → HasLists [grown] bound
  once : ∀ {role : Option Label} {steps : List (Kind × Pattern ρ)} {tree grown : Tree}
    {tokens rest : List Token} {bound : Nat}, stepsAreSingle steps = true → HasLists [tree] bound →
    growOnce rules fuel role steps tree tokens = some (grown, rest) → HasLists [grown] 0

theorem RunsFit.zero : RunsFit rules 0 where
  run _ h := by simp [Pattern.run] at h
  all _ h := by simp [runAll] at h
  first _ h := by simp [runFirst] at h
  grow _ _ h := by simp [Pattern.grow] at h
  once _ _ h := by simp [growOnce] at h

theorem RunsFit.all_succ (fit : RunsFit rules fuel) {items : List (Pattern ρ)}
    {tokens rest : List Token} {trees : List Tree} (single : areSingle items = true)
    (h : runAll rules (fuel + 1) items tokens = some (trees, rest)) :
    HasLists trees (listsInAll items) := by
  cases items with
  | nil =>
    rw [runAll] at h
    cases h
    exact .nil _
  | cons item items =>
    rw [areSingle, Bool.and_eq_true] at single
    rw [runAll] at h
    cases own : Pattern.run rules fuel item tokens with
    | none => simp [own] at h
    | some result =>
      obtain ⟨front, behind⟩ := result
      simp only [own, Option.map_eq_some_iff, Prod.exists, Prod.mk.injEq] at h
      obtain ⟨more, left, others, rfl, rfl⟩ := h
      exact (fit.run single.1 own).append (fit.all single.2 others)

theorem RunsFit.first_succ (fit : RunsFit rules fuel) {options : List (Pattern ρ)}
    {tokens rest : List Token} {trees : List Tree} (single : areSingle options = true)
    (h : runFirst rules (fuel + 1) options tokens = some (trees, rest)) :
    HasLists trees (listsInAny options) := by
  cases options with
  | nil =>
    rw [runFirst] at h
    cases h
  | cons option options =>
    rw [areSingle, Bool.and_eq_true] at single
    rw [runFirst] at h
    cases own : Pattern.run rules fuel option tokens with
    | none =>
      rw [own] at h
      exact (fit.first single.2 h).mono (Nat.le_max_right _ _)
    | some result =>
      rw [own] at h
      obtain rfl := Option.some.inj h
      exact (fit.run single.1 own).mono (Nat.le_max_left _ _)

theorem RunsFit.once_succ (fit : RunsFit rules fuel) {role : Option Label}
    {steps : List (Kind × Pattern ρ)} {tree grown : Tree} {tokens rest : List Token} {bound : Nat}
    (single : stepsAreSingle steps = true) (own : HasLists [tree] bound)
    (h : growOnce rules (fuel + 1) role steps tree tokens = some (grown, rest)) :
    HasLists [grown] 0 := by
  cases steps with
  | nil =>
    rw [growOnce] at h
    cases h
  | cons step steps =>
    obtain ⟨kind, step⟩ := step
    rw [stepsAreSingle, stepIsSingle, Bool.and_eq_true, Bool.and_eq_true, Bool.and_eq_true] at single
    obtain ⟨⟨⟨noType, noList⟩, stepSingle⟩, others⟩ := single
    rw [growOnce] at h
    cases matched : Pattern.run rules fuel step tokens with
    | none =>
      rw [matched] at h
      exact fit.once others own h
    | some result =>
      rw [matched] at h
      cases h
      have children := (own.withLabel role).append (fit.run stepSingle matched)
      have none : kind.lists = 0 := by
        rw [Kind.lists, if_neg]
        simpa using noList
      rw [← none]
      refine children.above fun type => ?_
      rw [Option.isNone_iff_eq_none] at noType
      rw [noType] at type
      cases type

theorem RunsFit.grow_succ (fit : RunsFit rules fuel) {role : Option Label}
    {steps : List (Kind × Pattern ρ)} {tree grown : Tree} {tokens rest : List Token} {bound : Nat}
    (single : stepsAreSingle steps = true) (own : HasLists [tree] bound)
    (h : Pattern.grow rules (fuel + 1) role steps tree tokens = some (grown, rest)) :
    HasLists [grown] bound := by
  rw [Pattern.grow] at h
  cases step : growOnce rules fuel role steps tree tokens with
  | none =>
    rw [step] at h
    cases h
    exact own
  | some result =>
    rw [step] at h
    exact fit.grow single ((fit.once single own step).mono (Nat.zero_le _)) h

/-- A token with the comments in front of it. -/
theorem hasLists_token (tokens : List Token) (kind : Kind) (span : Span) :
    HasLists ((splitComments tokens).1 ++ [.node kind none span []]) kind.lists := by
  have lists := (HasLists.splitComments tokens).append (.leaf kind none span)
  rwa [Nat.zero_add] at lists

theorem RunsFit.run_succ (fit : RunsFit rules fuel)
    (ofRules : ∀ name, (rules name).isSingle = true ∧ (rules name).lists = 0)
    {pattern : Pattern ρ} {tokens rest : List Token} {trees : List Tree}
    (single : pattern.isSingle = true)
    (h : Pattern.run rules (fuel + 1) pattern tokens = some (trees, rest)) :
    HasLists trees pattern.lists := by
  cases pattern with
  | spelled spelling =>
    have lists := hasLists_token tokens .token
    simp only [Pattern.run] at h
    split at h
    · rename_i comments token behind split
      split at h
      · cases h
        rw [split] at lists
        exact lists _
      · cases h
    · cases h
  | joined spellings =>
    have lists := hasLists_token tokens .token
    simp only [Pattern.run] at h
    split at h
    · rename_i comments token behind split
      simp only [Option.map_eq_some_iff, Prod.exists, Prod.mk.injEq] at h
      obtain ⟨stop, left, -, rfl, -⟩ := h
      rw [split] at lists
      exact lists _
    · cases h
  | leaf kind accepts =>
    have lists := hasLists_token tokens kind
    simp only [Pattern.run] at h
    split at h
    · rename_i comments token behind split
      split at h
      · cases h
        rw [split] at lists
        exact lists _
      · cases h
    · cases h
  | sequence items =>
    rw [Pattern.run] at h
    exact fit.all single h
  | choice options =>
    rw [Pattern.run] at h
    exact fit.first single h
  | many item =>
    have own : item.isSingle = true := by rwa [isSingle] at single
    rw [Pattern.run] at h
    cases once : Pattern.run rules fuel item tokens with
    | none =>
      rw [once] at h
      cases h
      exact .nil _
    | some result =>
      obtain ⟨front, behind⟩ := result
      simp only [once, Option.map_eq_some_iff, Prod.exists, Prod.mk.injEq] at h
      obtain ⟨more, left, again, rfl, -⟩ := h
      have lists := (fit.run own once).append (fit.run single again)
      rw [Pattern.lists] at lists ⊢
      by_cases none : item.lists = 0
      · rw [none, if_pos rfl] at lists ⊢
        exact lists
      · rw [if_neg none]
        exact lists.many
  | optional item =>
    have own : item.isSingle = true := by rwa [isSingle] at single
    rw [Pattern.run] at h
    cases once : Pattern.run rules fuel item tokens with
    | none =>
      rw [once] at h
      cases h
      exact .nil _
    | some result =>
      rw [once] at h
      cases h
      rw [Pattern.lists]
      exact fit.run own once
  | node kind body =>
    rw [isSingle, Bool.and_eq_true, Bool.or_eq_true, decide_eq_true_eq] at single
    simp only [Pattern.run, Option.map_eq_some_iff, Prod.exists, Prod.mk.injEq] at h
    obtain ⟨children, left, inner, rfl, -⟩ := h
    have own : HasLists [Tree.above kind children] kind.lists :=
      (fit.run single.1 inner).above fun type =>
        single.2.resolve_left (by simpa [Option.isSome_iff_ne_none] using type)
    have lists := (HasLists.splitComments tokens).append own
    rwa [Nat.zero_add] at lists
  | labelled label body =>
    have own : body.isSingle = true := by rwa [isSingle] at single
    simp only [Pattern.run, Option.map_eq_some_iff, Prod.exists, Prod.mk.injEq] at h
    obtain ⟨inner, left, matched, rfl, -⟩ := h
    exact (fit.run own matched).setLabel label
  | growing base role steps =>
    rw [isSingle, Bool.and_eq_true] at single
    simp only [Pattern.run] at h
    split at h
    · rename_i tree behind matched
      simp only [Option.map_eq_some_iff, Prod.exists, Prod.mk.injEq] at h
      obtain ⟨grown, left, grows, rfl, -⟩ := h
      have own := fit.grow single.2 (fit.run single.1 matched) grows
      have lists := (HasLists.splitComments tokens).append own
      rwa [Nat.zero_add] at lists
    · cases h
  | ahead test body =>
    have own : body.isSingle = true := by rwa [isSingle] at single
    rw [Pattern.run] at h
    split at h
    · rw [Pattern.lists]
      exact fit.run own h
    · cases h
  | rule name =>
    rw [Pattern.run] at h
    obtain ⟨own, none⟩ := ofRules name
    rw [Pattern.lists, ← none]
    exact fit.run own h

theorem runsFit (ofRules : ∀ name, (rules name).isSingle = true ∧ (rules name).lists = 0)
    (fuel : Nat) : RunsFit rules fuel := by
  induction fuel with
  | zero => exact .zero
  | succ fuel ih =>
    exact
      { run := ih.run_succ ofRules
        all := ih.all_succ
        first := ih.first_succ
        grow := ih.grow_succ
        once := ih.once_succ }

end Pattern

/-! ## The grammar -/

theorem operators_single : ∀ level ∈ Grammar.operatorLevels, Pattern.areSingle level = true := by
  decide

/-- No rule yields a list of interfaces outside of a type. -/
theorem Rule.isSingle_pattern (rule : Rule) :
    rule.pattern.isSingle = true ∧ rule.pattern.lists = 0 := by
  cases rule with
  | binary level lambdas =>
    have operators : Pattern.areSingle (Grammar.operatorLevels[level]?.getD []) = true := by
      cases h : Grammar.operatorLevels[level]? with
      | none => rfl
      | some operators => exact operators_single operators (List.mem_of_getElem? h)
    have test : Grammar.instanceofTest.isSingle = true := by decide
    simp only [Rule.pattern, Grammar.binary]
    split <;> split <;>
      simp [Pattern.isSingle, Pattern.stepsAreSingle, Pattern.stepIsSingle, Pattern.areSingle,
        Pattern.lists, operators, test, Kind.classKind?, Kind.interfaceClause?]
  | ternary lambdas => cases lambdas <;> decide
  | unary lambdas => cases lambdas <;> decide
  | _ => decide

/-- In the tree of a text no type has two lists of interfaces. -/
theorem hasSingleLists_parse (source : List Char) : (parse source).HasSingleLists := by
  have fit := Pattern.runsFit Rule.isSingle_pattern (depthBound (scan source).length)
  have program : Grammar.program.isSingle = true := by decide
  have lists : HasLists [parse source] Kind.program.lists := by
    unfold parse
    dsimp only
    split
    · rename_i trees rest matched
      exact ((fit.run program matched).append (.splitComments rest)).above (by simp [Kind.classKind?])
    · exact (HasLists.nil 0).above (by simp)
  exact lists.single (parse source) List.mem_cons_self

end ClassCatalog.Java
