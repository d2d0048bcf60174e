import ClassCatalog.Proofs.Java.Nodes
import Mathlib.Algebra.BigOperators.Group.List.Basic
import Mathlib.Algebra.GroupWithZero.Nat

/-!
# Type arguments, annotations and comments

Type arguments, annotations and comments decorate a type and do not belong to it.  `Tree.bare` takes
them out of a tree, and `Tree.bareText` out of the text, where blanks stand in their place so that all
else keeps its position.  `Tree.skeleton` are the nodes outside them.
-/

namespace ClassCatalog.Java

/-- Whether nodes of the kind only decorate what they stand in. -/
def Kind.isDecoration : Kind → Bool
  | lineComment => true
  | blockComment => true
  | annotationMarker => true
  | annotationUse => true
  | typeArguments => true
  | _ => false

/-- Whether nodes of the kind add decorations to a single node. -/
def Kind.wraps : Kind → Bool
  | genericType => true
  | annotatedType => true
  | _ => false

namespace Tree

/-- Whether a node is a decoration, as also modifiers are that are annotations only. -/
def isDecoration (tree : Tree) : Bool :=
  tree.kind.isDecoration || (tree.kind == .modifiers && tree.children.all (·.kind.isDecoration))

/-- The children that are no decorations. -/
def kept (tree : Tree) : List Tree :=
  tree.children.filter (!·.isDecoration)

/-- A node of a kind over the children that are left; one that had no other use is left out. -/
def rebuild (kind : Kind) (label : Option Label) (span : Span) : List Tree → Tree
  | [] => node kind label span []
  | first :: rest =>
    if rest.isEmpty && kind.wraps then first.withLabel label
    else (above kind (first :: rest)).withLabel label

end Tree

mutual

/-- The tree without decorations. -/
def Tree.bare : Tree → Tree
  | .node kind label span children => .rebuild kind label span (bareOf children)

/-- Some trees without decorations. -/
def bareOf : List Tree → List Tree
  | [] => []
  | tree :: rest => if tree.isDecoration then bareOf rest else tree.bare :: bareOf rest

end

mutual

/-- The nodes that are neither decorations nor in one. -/
def Tree.skeleton : Tree → List Tree
  | .node kind label span children =>
    let tree := Tree.node kind label span children
    if tree.isDecoration then [] else tree :: skeletonOf children

/-- The nodes among and below some nodes that are neither decorations nor in one. -/
def skeletonOf : List Tree → List Tree
  | [] => []
  | tree :: rest => tree.skeleton ++ skeletonOf rest

end

mutual

/-- The decorations in a tree. -/
def Tree.decorations : Tree → List Tree
  | .node kind label span children =>
    let tree := Tree.node kind label span children
    if tree.isDecoration then [tree] else decorationsOf children

/-- The decorations in some trees. -/
def decorationsOf : List Tree → List Tree
  | [] => []
  | tree :: rest => tree.decorations ++ decorationsOf rest

end

/-- Whether a position lies in a part of the text. -/
def Span.contains (span : Span) (position : Nat) : Bool :=
  span.start ≤ position && position < span.stop

theorem Span.contains_iff {span : Span} {position : Nat} :
    span.contains position = true ↔ span.start ≤ position ∧ position < span.stop := by
  simp [Span.contains]

theorem Span.getElem?_text (span : Span) (source : List Char) (i : Nat) :
    (span.text source)[i]? =
      if span.start + i < span.stop then source[span.start + i]? else none := by
  rw [Span.text, List.getElem?_take, List.getElem?_drop]
  congr 1
  simp [Nat.lt_sub_iff_add_lt']

namespace Tree

/-- Whether a position lies in a decoration. -/
def isDecorated (tree : Tree) (position : Nat) : Bool :=
  tree.decorations.any (·.span.contains position)

/-- The text with blanks in place of the decorations of a tree. -/
def bareText (tree : Tree) (source : List Char) : List Char :=
  source.mapIdx fun position c => if tree.isDecorated position then ' ' else c

end Tree

/-! ## Nodes that are left -/

theorem find?_filter_of_imp {α : Type} {p q : α → Bool} {l : List α}
    (h : ∀ a ∈ l, q a = true → p a = true) : (l.filter p).find? q = l.find? q := by
  induction l with
  | nil => rfl
  | cons a rest ih =>
    obtain ⟨own, others⟩ := List.forall_mem_cons.1 h
    rw [List.filter_cons, List.find?_cons]
    cases found : q a with
    | true => simp [own found, found]
    | false => cases p a <;> simp [found, ih others]

theorem flatMap_filter_of_nil {α β : Type} {p : α → Bool} {f : α → List β} {l : List α}
    (h : ∀ a ∈ l, p a = false → f a = []) : (l.filter p).flatMap f = l.flatMap f := by
  induction l with
  | nil => rfl
  | cons a rest ih =>
    obtain ⟨own, others⟩ := List.forall_mem_cons.1 h
    cases keep : p a with
    | true => simp [keep, ih others]
    | false => simp [keep, own keep, ih others]

theorem bareOf_eq (trees : List Tree) :
    bareOf trees = (trees.filter (!·.isDecoration)).map Tree.bare := by
  induction trees with
  | nil => rfl
  | cons tree rest ih => cases h : tree.isDecoration <;> simp [bareOf, h, ih]

theorem skeletonOf_eq (trees : List Tree) : skeletonOf trees = trees.flatMap Tree.skeleton := by
  induction trees with
  | nil => rfl
  | cons tree rest ih => rw [skeletonOf, ih, List.flatMap_cons]

theorem decorationsOf_eq (trees : List Tree) :
    decorationsOf trees = trees.flatMap Tree.decorations := by
  induction trees with
  | nil => rfl
  | cons tree rest ih => rw [decorationsOf, ih, List.flatMap_cons]

namespace Tree

theorem bare_eq (tree : Tree) :
    tree.bare = rebuild tree.kind tree.label tree.span (tree.kept.map bare) := by
  cases tree with
  | node kind label span children => rw [bare, bareOf_eq]; rfl

theorem skeleton_of_isDecoration {tree : Tree} (h : tree.isDecoration = true) :
    tree.skeleton = [] := by
  cases tree with
  | node kind label span children => rw [skeleton, if_pos h]

theorem flatMap_skeleton (trees : List Tree) :
    trees.flatMap skeleton = (trees.filter (!·.isDecoration)).flatMap skeleton :=
  (flatMap_filter_of_nil fun _ _ h => skeleton_of_isDecoration (by simpa using h)).symm

theorem skeleton_eq {tree : Tree} (h : tree.isDecoration = false) :
    tree.skeleton = tree :: tree.kept.flatMap skeleton := by
  cases tree with
  | node kind label span children =>
    rw [skeleton, if_neg (by simp [h]), skeletonOf_eq, flatMap_skeleton]
    rfl

theorem decorations_eq {tree : Tree} (h : tree.isDecoration = false) :
    tree.decorations = tree.children.flatMap decorations := by
  cases tree with
  | node kind label span children =>
    rw [decorations, if_neg (by simp [h]), decorationsOf_eq]
    rfl

theorem decorations_of_isDecoration {tree : Tree} (h : tree.isDecoration = true) :
    tree.decorations = [tree] := by
  cases tree with
  | node kind label span children => rw [decorations, if_pos h]

theorem mem_kept_iff {tree child : Tree} :
    child ∈ tree.kept ↔ child ∈ tree.children ∧ child.isDecoration = false := by
  simp [kept]

theorem mem_skeleton_iff {tree node : Tree} :
    node ∈ tree.skeleton ↔ tree.isDecoration = false ∧
      (node = tree ∨ ∃ child ∈ tree.children, node ∈ child.skeleton) := by
  cases own : tree.isDecoration with
  | true => simp [skeleton_of_isDecoration own]
  | false =>
    rw [skeleton_eq own, kept, ← flatMap_skeleton, List.mem_cons, List.mem_flatMap]
    simp

theorem mem_skeleton_self {tree : Tree} (h : tree.isDecoration = false) : tree ∈ tree.skeleton :=
  mem_skeleton_iff.2 ⟨h, .inl rfl⟩

theorem isDecoration_of_mem_skeleton {tree node : Tree} (h : node ∈ tree.skeleton) :
    node.isDecoration = false := by
  induction tree using Tree.induction with
  | node kind label span children ih =>
    obtain ⟨own, rfl | ⟨child, below, inside⟩⟩ := mem_skeleton_iff.1 h
    · exact own
    · exact ih child below inside

/-- What stands outside of decorations in such a node, does so in the tree. -/
theorem skeleton_subset {tree node : Tree} (h : node ∈ tree.skeleton) :
    node.skeleton ⊆ tree.skeleton := by
  induction tree using Tree.induction with
  | node kind label span children ih =>
    obtain ⟨own, rfl | ⟨child, below, inside⟩⟩ := mem_skeleton_iff.1 h
    · exact List.Subset.refl _
    · intro inner within
      exact mem_skeleton_iff.2 ⟨own, .inr ⟨child, below, ih child below inside within⟩⟩

theorem mem_skeleton_of_kept {tree node child : Tree} (h : node ∈ tree.skeleton)
    (below : child ∈ node.kept) : child ∈ tree.skeleton := by
  obtain ⟨below, own⟩ := mem_kept_iff.1 below
  refine skeleton_subset h (mem_skeleton_iff.2 ⟨isDecoration_of_mem_skeleton h, .inr ?_⟩)
  exact ⟨child, below, mem_skeleton_self own⟩

theorem skeleton_subset_nodes (tree : Tree) : tree.skeleton ⊆ tree.nodes := by
  induction tree using Tree.induction with
  | node kind label span children ih =>
    intro node h
    refine mem_nodes_iff.2 ((mem_skeleton_iff.1 h).2.imp_right ?_)
    rintro ⟨child, below, inside⟩
    exact ⟨child, below, ih child below inside⟩

theorem decorations_subset_nodes (tree : Tree) : tree.decorations ⊆ tree.nodes := by
  induction tree using Tree.induction with
  | node kind label span children ih =>
    intro node h
    cases own : (Tree.node kind label span children).isDecoration with
    | true =>
      rw [decorations_of_isDecoration own] at h
      obtain rfl := List.mem_singleton.1 h
      exact mem_nodes_self _
    | false =>
      rw [decorations_eq own] at h
      obtain ⟨child, below, inside⟩ := List.mem_flatMap.1 h
      exact mem_nodes_iff.2 (.inr ⟨child, below, ih child below inside⟩)

/-! ## The tree that is left -/

@[simp]
theorem label_withLabel (tree : Tree) (label : Option Label) :
    (tree.withLabel label).label = label := by
  cases tree
  rfl

@[simp]
theorem kind_withLabel (tree : Tree) (label : Option Label) :
    (tree.withLabel label).kind = tree.kind := by
  cases tree
  rfl

@[simp]
theorem children_withLabel (tree : Tree) (label : Option Label) :
    (tree.withLabel label).children = tree.children := by
  cases tree
  rfl

theorem label_bare (tree : Tree) : tree.bare.label = tree.label := by
  rw [bare_eq]
  unfold rebuild
  split
  · rfl
  · split <;> exact label_withLabel _ _

theorem bare_of_wraps {tree inner : Tree} (wraps : tree.kind.wraps = true)
    (single : tree.kept = [inner]) : tree.bare = inner.bare.withLabel tree.label := by
  simp [bare_eq, single, rebuild, wraps]

theorem bare_of_kept {tree first : Tree} {rest : List Tree} (plain : tree.kind.wraps = false)
    (left : tree.kept = first :: rest) :
    tree.bare = (above tree.kind (tree.kept.map bare)).withLabel tree.label := by
  simp [bare_eq, left, rebuild, plain]

theorem bare_of_leaf {tree : Tree} (empty : tree.children = []) : tree.bare = tree := by
  cases tree with
  | node kind label span children =>
    obtain rfl : children = [] := empty
    rfl

theorem kind_bare {tree : Tree} (plain : tree.kind.wraps = false) : tree.bare.kind = tree.kind := by
  cases left : tree.kept with
  | nil => simp [bare_eq, left, rebuild, kind]
  | cons first rest =>
    rw [bare_of_kept plain left, kind_withLabel]
    rfl

theorem children_bare {tree : Tree} (plain : tree.kind.wraps = false) :
    tree.bare.children = tree.kept.map bare := by
  cases left : tree.kept with
  | nil => simp [bare_eq, left, rebuild, children]
  | cons first rest =>
    rw [bare_of_kept plain left, children_withLabel, left]
    rfl

/-! ## Positions -/

theorem isDecorated_iff {tree : Tree} {position : Nat} :
    tree.isDecorated position = true ↔
      ∃ decoration ∈ tree.decorations, decoration.span.contains position = true :=
  List.any_eq_true

theorem IsOrdered.eq_or_apart {tree node first second : Tree} (ordered : tree.IsOrdered)
    (inside : node ∈ tree.nodes) (isFirst : first ∈ node.children)
    (isSecond : second ∈ node.children) :
    first = second ∨ first.span.stop ≤ second.span.start ∨
      second.span.stop ≤ first.span.start := by
  have behind := ordered.behind node inside
  exact List.Pairwise.forall_of_forall_of_flip (R := fun first second => first = second ∨
    first.span.stop ≤ second.span.start ∨ second.span.stop ≤ first.span.start)
    (fun _ _ => .inl rfl) (behind.imp fun apart => .inr (.inl apart))
    (behind.imp fun apart => .inr (.inr apart)) isFirst isSecond

/-- Where a node outside of decorations stands, only its own decorations do. -/
theorem IsOrdered.isDecorated_eq {tree node : Tree} (ordered : tree.IsOrdered)
    (h : node ∈ tree.skeleton) {position : Nat} (here : node.span.contains position = true) :
    tree.isDecorated position = node.isDecorated position := by
  induction tree using Tree.induction with
  | node kind label span children ih =>
    obtain ⟨own, rfl | ⟨child, below, inside⟩⟩ := mem_skeleton_iff.1 h
    · rfl
    · have self := mem_nodes_self (Tree.node kind label span children)
      have childInside := mem_nodes_of_child self below
      rw [← ih child below (ordered.of_mem childInside) inside, Bool.eq_iff_iff,
        isDecorated_iff, isDecorated_iff, decorations_eq own]
      constructor
      · rintro ⟨decoration, listed, there⟩
        obtain ⟨other, isOther, listed⟩ := List.mem_flatMap.1 listed
        have otherInside := mem_nodes_of_child self isOther
        have within := (ordered.of_mem childInside).bounds (skeleton_subset_nodes _ inside)
        have within' := (ordered.of_mem otherInside).bounds (decorations_subset_nodes _ listed)
        rw [Span.contains_iff] at here there
        rcases ordered.eq_or_apart self below isOther with rfl | apart
        · exact ⟨decoration, listed, Span.contains_iff.2 there⟩
        · omega
      · rintro ⟨decoration, listed, there⟩
        exact ⟨decoration, List.mem_flatMap.2 ⟨child, below, listed⟩, there⟩

theorem getElem?_bareText (tree : Tree) (source : List Char) (position : Nat) :
    (tree.bareText source)[position]? =
      source[position]?.map fun c => if tree.isDecorated position then ' ' else c := by
  rw [bareText, List.getElem?_mapIdx]

/-- What stands in the bare text and is no blank, stands in the text and in no decoration. -/
theorem getElem?_bareText_eq_some {tree : Tree} {source : List Char} {position : Nat} {c : Char}
    (h : (tree.bareText source)[position]? = some c) (blank : c ≠ ' ') :
    source[position]? = some c ∧ tree.isDecorated position = false := by
  rw [getElem?_bareText] at h
  obtain ⟨own, isOwn, result⟩ := Option.map_eq_some_iff.1 h
  cases decorated : tree.isDecorated position with
  | true =>
    rw [decorated, if_pos rfl] at result
    exact absurd result.symm blank
  | false =>
    rw [decorated, if_neg Bool.false_ne_true] at result
    exact ⟨result ▸ isOwn, rfl⟩

/-- A node without children outside of decorations keeps its text. -/
theorem IsOrdered.text_bareText {tree leaf : Tree} (ordered : tree.IsOrdered)
    (h : leaf ∈ tree.skeleton) (empty : leaf.children = []) (source : List Char) :
    leaf.span.text (tree.bareText source) = leaf.span.text source := by
  have free (position : Nat) : leaf.isDecorated position = false := by
    rw [isDecorated, decorations_eq (isDecoration_of_mem_skeleton h), empty]
    rfl
  refine List.ext_getElem? fun i => ?_
  rw [Span.getElem?_text, Span.getElem?_text]
  split
  · rename_i inside
    have here : leaf.span.contains (leaf.span.start + i) = true :=
      Span.contains_iff.2 ⟨Nat.le_add_right _ _, inside⟩
    rw [getElem?_bareText, ordered.isDecorated_eq h here, free]
    simp
  · rfl

end Tree

/-- Nodes one behind the other lie between the start of the first and the stop of the last. -/
theorem bounds_above (kind : Kind) {trees : List Tree}
    (spans : ∀ tree ∈ trees, tree.span.start ≤ tree.span.stop)
    (behind : trees.Pairwise fun first second => first.span.stop ≤ second.span.start) :
    ∀ tree ∈ trees, (Tree.above kind trees).span.start ≤ tree.span.start ∧
      tree.span.stop ≤ (Tree.above kind trees).span.stop := by
  induction trees with
  | nil => simp
  | cons first rest ih =>
    obtain ⟨apart, others⟩ := List.pairwise_cons.1 behind
    have bounds := ih (fun tree h => spans tree (List.mem_cons_of_mem _ h)) others
    have ordered := spans first List.mem_cons_self
    cases rest with
    | nil =>
      intro tree h
      obtain rfl := List.mem_singleton.1 h
      exact ⟨Nat.le_refl _, Nat.le_refl _⟩
    | cons second rest =>
      have stop : (Tree.above kind (first :: second :: rest)).span.stop =
          (Tree.above kind (second :: rest)).span.stop := by
        simp [Tree.above, Tree.span]
      have start : (Tree.above kind (first :: second :: rest)).span.start = first.span.start := rfl
      have next := bounds second List.mem_cons_self
      have nextOrdered := spans second (List.mem_cons_of_mem _ List.mem_cons_self)
      have nextApart := apart second List.mem_cons_self
      intro tree h
      rw [start, stop]
      rcases List.mem_cons.1 h with rfl | h
      · omega
      · have treeApart := apart tree h
        have inside := bounds tree h
        omega

theorem above_within (kind : Kind) {trees : List Tree} (some : trees ≠ []) {start stop : Nat}
    (within : ∀ tree ∈ trees, start ≤ tree.span.start ∧ tree.span.stop ≤ stop) :
    start ≤ (Tree.above kind trees).span.start ∧ (Tree.above kind trees).span.stop ≤ stop := by
  constructor
  · cases trees with
    | nil => exact absurd rfl some
    | cons first rest => exact (within first List.mem_cons_self).1
  · have last : (Tree.above kind trees).span.stop = (trees.getLast some).span.stop := by
      simp [Tree.above, Tree.span, List.getLast?_eq_some_getLast some]
    rw [last]
    exact (within _ (List.getLast_mem some)).2

/-! ## Counting -/

theorem Span.text_append {start middle stop : Nat} (first : start ≤ middle) (last : middle ≤ stop)
    (source : List Char) :
    Span.text ⟨start, stop⟩ source =
      Span.text ⟨start, middle⟩ source ++ Span.text ⟨middle, stop⟩ source := by
  have length : stop - start = (middle - start) + (stop - middle) := by omega
  rw [Span.text, length, List.take_add, List.drop_drop, Nat.add_sub_cancel' first]
  rfl

theorem count_text_eq_zero {source : List Char} {c : Char} {start stop : Nat}
    (none : ∀ position, start ≤ position → position < stop → source[position]? ≠ some c) :
    (Span.text ⟨start, stop⟩ source).count c = 0 := by
  rw [List.count_eq_zero]
  intro h
  obtain ⟨i, isC⟩ := List.mem_iff_getElem?.1 h
  rw [Span.getElem?_text] at isC
  split at isC
  · rename_i inside
    exact none _ (Nat.le_add_right _ _) inside isC
  · cases isC

/-- A character that stands only in the given nodes is counted in each of them. -/
theorem count_text_eq_sum {source : List Char} {c : Char} {trees : List Tree} {start stop : Nat}
    (spans : ∀ tree ∈ trees, tree.span.start ≤ tree.span.stop)
    (within : ∀ tree ∈ trees, start ≤ tree.span.start ∧ tree.span.stop ≤ stop)
    (behind : trees.Pairwise fun first second => first.span.stop ≤ second.span.start)
    (only : ∀ position, start ≤ position → position < stop → source[position]? = some c →
      ∃ tree ∈ trees, tree.span.contains position = true) :
    (Span.text ⟨start, stop⟩ source).count c =
      (trees.map fun tree => (tree.span.text source).count c).sum := by
  induction trees generalizing start with
  | nil =>
    refine count_text_eq_zero fun position first last isC => ?_
    obtain ⟨tree, listed, -⟩ := only position first last isC
    cases listed
  | cons tree rest ih =>
    obtain ⟨first, others⟩ := List.pairwise_cons.1 behind
    have ordered := spans tree List.mem_cons_self
    have bounds := within tree List.mem_cons_self
    have gap : (Span.text ⟨start, tree.span.start⟩ source).count c = 0 := by
      refine count_text_eq_zero fun position lower upper isC => ?_
      obtain ⟨other, listed, there⟩ := only position lower (by omega) isC
      rw [Span.contains_iff] at there
      rcases List.mem_cons.1 listed with rfl | listed
      · omega
      · have apart := first other listed
        omega
    have tail : (Span.text ⟨tree.span.stop, stop⟩ source).count c =
        (rest.map fun tree => (tree.span.text source).count c).sum := by
      refine ih (fun other h => spans other (List.mem_cons_of_mem _ h)) (fun other h => ?_) others ?_
      · exact ⟨first other h, (within other (List.mem_cons_of_mem _ h)).2⟩
      · intro position lower upper isC
        obtain ⟨other, listed, there⟩ := only position (by omega) upper isC
        rcases List.mem_cons.1 listed with rfl | listed
        · rw [Span.contains_iff] at there
          omega
        · exact ⟨other, listed, there⟩
    rw [Span.text_append bounds.1 (Nat.le_trans ordered bounds.2), Span.text_append ordered bounds.2,
      List.count_append, List.count_append, gap, tail, List.map_cons, List.sum_cons, Nat.zero_add]

end ClassCatalog.Java
