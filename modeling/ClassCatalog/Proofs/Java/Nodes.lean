import ClassCatalog.Java.Declarations
import Mathlib.Data.List.Basic

/-!
# Nodes of a syntax tree

All nodes of a tree in the order of the source (`nodes`), induction over the nodes below a node, and
the functions that take declarations from a tree, each given by what it takes from single nodes.
A node comes with the one right before it, which may be its comment (`placed`).
-/

namespace ClassCatalog.Java

/-- What holds of a node if it holds of the nodes right below it, holds of all trees. -/
theorem Tree.induction {P : Tree → Prop}
    (node : ∀ kind label span children, (∀ child ∈ children, P child) →
      P (.node kind label span children)) (tree : Tree) : P tree := by
  refine @Tree.rec P (fun trees => ∀ tree ∈ trees, P tree) node ?_ ?_ tree
  · simp
  · intro tree rest first others
    exact List.forall_mem_cons.2 ⟨first, others⟩

/-! ## All nodes -/

mutual

/-- A node and all nodes below it, in the order of the source. -/
def Tree.nodes : Tree → List Tree
  | .node kind label span children => .node kind label span children :: nodesOf children

/-- Some nodes and all nodes below them. -/
def nodesOf : List Tree → List Tree
  | [] => []
  | tree :: rest => tree.nodes ++ nodesOf rest

end

theorem nodesOf_eq_flatMap (trees : List Tree) : nodesOf trees = trees.flatMap Tree.nodes := by
  induction trees with
  | nil => rfl
  | cons tree rest ih => rw [nodesOf, ih, List.flatMap_cons]

theorem Tree.nodes_eq (tree : Tree) :
    tree.nodes = tree :: tree.children.flatMap Tree.nodes := by
  cases tree with
  | node kind label span children => rw [Tree.nodes, nodesOf_eq_flatMap, Tree.children]

theorem Tree.mem_nodes_self (tree : Tree) : tree ∈ tree.nodes := by
  rw [Tree.nodes_eq]
  exact List.mem_cons_self

theorem Tree.mem_nodes_iff {tree node : Tree} :
    node ∈ tree.nodes ↔ node = tree ∨ ∃ child ∈ tree.children, node ∈ child.nodes := by
  rw [Tree.nodes_eq, List.mem_cons, List.mem_flatMap]

/-- The nodes below a node of a tree are nodes of the tree. -/
theorem Tree.nodes_subset {tree node : Tree} (h : node ∈ tree.nodes) : node.nodes ⊆ tree.nodes := by
  induction tree using Tree.induction with
  | node kind label span children ih =>
    rcases Tree.mem_nodes_iff.1 h with rfl | ⟨child, below, inside⟩
    · exact List.Subset.refl _
    · intro other inner
      exact Tree.mem_nodes_iff.2 (.inr ⟨child, below, ih child below inside inner⟩)

theorem Tree.children_subset_nodes (tree : Tree) : tree.children ⊆ tree.nodes :=
  fun child below => Tree.mem_nodes_iff.2 (.inr ⟨child, below, child.mem_nodes_self⟩)

theorem Tree.mem_nodes_of_child {tree node child : Tree} (h : node ∈ tree.nodes)
    (below : child ∈ node.children) : child ∈ tree.nodes :=
  Tree.nodes_subset h (node.children_subset_nodes below)

/-! ## Positions -/

/-- The nodes of a tree stand in the text as they do in the tree: within the node above them, and
behind those before them. -/
structure Tree.IsOrdered (tree : Tree) : Prop where
  spans : ∀ node ∈ tree.nodes, node.span.start ≤ node.span.stop
  within : ∀ node ∈ tree.nodes, ∀ child ∈ node.children,
    node.span.start ≤ child.span.start ∧ child.span.stop ≤ node.span.stop
  behind : ∀ node ∈ tree.nodes, node.children.Pairwise fun first second =>
    first.span.stop ≤ second.span.start

instance (tree : Tree) : Decidable tree.IsOrdered :=
  decidable_of_iff (_ ∧ _ ∧ _)
    ⟨fun ⟨spans, within, behind⟩ => ⟨spans, within, behind⟩,
      fun ordered => ⟨ordered.spans, ordered.within, ordered.behind⟩⟩

theorem Tree.IsOrdered.of_mem {tree node : Tree} (ordered : tree.IsOrdered)
    (h : node ∈ tree.nodes) : node.IsOrdered where
  spans inner below := ordered.spans inner (Tree.nodes_subset h below)
  within inner below := ordered.within inner (Tree.nodes_subset h below)
  behind inner below := ordered.behind inner (Tree.nodes_subset h below)

theorem Tree.IsOrdered.bounds {tree node : Tree} (ordered : tree.IsOrdered)
    (h : node ∈ tree.nodes) :
    tree.span.start ≤ node.span.start ∧ node.span.stop ≤ tree.span.stop := by
  induction tree using Tree.induction with
  | node kind label span children ih =>
    rcases Tree.mem_nodes_iff.1 h with rfl | ⟨child, below, inside⟩
    · exact ⟨Nat.le_refl _, Nat.le_refl _⟩
    · have own := Tree.children_subset_nodes _ below
      have outer := ordered.within _ (Tree.mem_nodes_self _) child below
      have inner := ih child below (ordered.of_mem own) inside
      exact ⟨Nat.le_trans outer.1 inner.1, Nat.le_trans inner.2 outer.2⟩

/-- What is found below the children of a node, in the order of the children, stands in the order of
the text. -/
theorem Tree.IsOrdered.pairwise_flatMap {tree : Tree} (ordered : tree.IsOrdered)
    {found : Tree → List Tree} (inside : ∀ child ∈ tree.children, found child ⊆ child.nodes)
    (each : ∀ child ∈ tree.children,
      (found child).Pairwise fun first second => first.span.stop ≤ second.span.start) :
    (tree.children.flatMap found).Pairwise
      fun first second => first.span.stop ≤ second.span.start := by
  have below (child : Tree) (h : child ∈ tree.children) :=
    ordered.of_mem (tree.children_subset_nodes h)
  refine List.pairwise_flatMap.2 ⟨each, ?_⟩
  refine (ordered.behind tree tree.mem_nodes_self).imp_of_mem ?_
  intro first second isFirst isSecond apart node isNode other isOther
  have before := (below first isFirst).bounds (inside first isFirst isNode)
  have behind := (below second isSecond).bounds (inside second isSecond isOther)
  omega

/-! ## Nodes with the one before -/

/-- Each of some nodes with the one right before it; `previous` is the one before all of them. -/
def placed (previous : Option Tree) : List Tree → List (Option Tree × Tree)
  | [] => []
  | tree :: rest => (previous, tree) :: placed (some tree) rest

theorem map_snd_placed (previous : Option Tree) (trees : List Tree) :
    (placed previous trees).map Prod.snd = trees := by
  induction trees generalizing previous with
  | nil => rfl
  | cons tree rest ih => rw [placed, List.map_cons, ih]

theorem placed_append (previous : Option Tree) (front : List Tree) (tree : Tree)
    (rest : List Tree) :
    placed previous (front ++ tree :: rest) =
      placed previous front ++ (front.getLast?.or previous, tree) :: placed (some tree) rest := by
  induction front generalizing previous with
  | nil => rfl
  | cons first more ih =>
    rw [List.cons_append, placed, placed, ih, List.cons_append, List.getLast?_cons]
    cases more.getLast? <;> rfl

theorem mem_of_mem_placed {previous : Option Tree} {trees : List Tree} {place : Option Tree × Tree}
    (h : place ∈ placed previous trees) : place.2 ∈ trees := by
  rw [← map_snd_placed previous trees]
  exact List.mem_map_of_mem h

theorem memberDecls_eq (source : List Char) (previous : Option Tree) (trees : List Tree) :
    memberDecls source previous trees =
      (placed previous trees).flatMap fun place =>
        if place.2.isPart then memberDecl source place.1 place.2 else [] := by
  induction trees generalizing previous with
  | nil => rw [memberDecls, placed, List.flatMap_nil]
  | cons tree rest ih => rw [memberDecls, placed, List.flatMap_cons, ih]

theorem codeDecls_eq (source : List Char) (previous : Option Tree) (trees : List Tree) :
    codeDecls source previous trees =
      (placed previous trees).flatMap fun place =>
        if place.2.isPart then codeDecl source place.1 place.2 else [] := by
  induction trees generalizing previous with
  | nil => rw [codeDecls, placed, List.flatMap_nil]
  | cons tree rest ih => rw [codeDecls, placed, List.flatMap_cons, ih]

/-! ## Bodies -/

theorem typeBodyDecls_eq (source : List Char) (trees : List Tree) :
    typeBodyDecls source trees =
      (trees.find? (·.label = some .body)).elim [] fun body =>
        memberDecls source none body.children := by
  induction trees with
  | nil => rw [typeBodyDecls]; rfl
  | cons tree rest ih =>
    cases tree with
    | node kind label span children =>
      rw [typeBodyDecls, ih, List.find?_cons]
      by_cases body : label = some .body <;> simp [body, Tree.label, Tree.children]

theorem codeBodyDecls_eq (source : List Char) (trees : List Tree) :
    codeBodyDecls source trees =
      (trees.find? (·.label = some .body)).elim [] fun body =>
        codeDecls source none body.children := by
  induction trees with
  | nil => rw [codeBodyDecls]; rfl
  | cons tree rest ih =>
    cases tree with
    | node kind label span children =>
      rw [codeBodyDecls, ih, List.find?_cons]
      by_cases body : label = some .body <;> simp [body, Tree.label, Tree.children]

theorem lambdaBodyDecls_eq (source : List Char) (previous : Option Tree) (trees : List Tree) :
    lambdaBodyDecls source previous trees =
      ((placed previous trees).find? (·.2.label = some .body)).elim [] fun place =>
        codeDecl source place.1 place.2 := by
  induction trees generalizing previous with
  | nil => rw [lambdaBodyDecls]; rfl
  | cons tree rest ih =>
    rw [lambdaBodyDecls, ih, placed, List.find?_cons]
    by_cases body : tree.label = some .body <;> simp [body]

/-! ## Types -/

theorem elementExpr?_eq (source : List Char) (trees : List Tree) :
    elementExpr? source trees =
      (trees.find? (·.label = some .element)).map (typeExpr source) := by
  induction trees with
  | nil => rw [elementExpr?]; rfl
  | cons tree rest ih =>
    rw [elementExpr?, ih, List.find?_cons]
    by_cases element : tree.label = some .element <;> simp [element]

theorem lastTypeExpr?_eq (source : List Char) (trees : List Tree) :
    lastTypeExpr? source trees = (trees.reverse.find? Tree.isType).map (typeExpr source) := by
  induction trees with
  | nil => rw [lastTypeExpr?]; rfl
  | cons tree rest ih =>
    rw [lastTypeExpr?, ih, List.reverse_cons, List.find?_append]
    cases rest.reverse.find? Tree.isType with
    | some type => simp
    | none => by_cases type : tree.isType = true <;> simp [type]

end ClassCatalog.Java
