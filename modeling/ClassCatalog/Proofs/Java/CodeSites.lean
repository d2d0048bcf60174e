import ClassCatalog.Java.Parse
import ClassCatalog.Proofs.Java.Nodes

/-!
# Lambdas and local types in code

The walk through code takes the parameters of lambdas and the types declared in it. Here it is set
against what can be seen from a region: `Visible` says when a node is reached without going through a
type or an anonymous class, `codeSites` lists the lambdas and types so reached, and `declaredAt` what
each of them declares itself. In a tree of code (`Tree.IsCode`) the walk declares just that, with
nothing left out and nothing twice, in the order of the text (`codeDecls_scans`).
-/

namespace ClassCatalog.Java

/-- Whether nodes of the kind declare something in code: lambdas and types. -/
def Kind.declaresInCode (kind : Kind) : Bool :=
  kind == .lambdaExpression || kind.classKind?.isSome

/-- Whether nodes of the kind hide what is declared in them: types and anonymous classes. -/
def Kind.hides (kind : Kind) : Bool :=
  kind == .classBody || kind.classKind?.isSome

/-! ## What can be seen from a node -/

/-- The second node, with the one before it, is the first or is reached from it without going
through a node that hides what is in it. -/
inductive Visible : Option Tree × Tree → Option Tree × Tree → Prop
  | self (place : Option Tree × Tree) : Visible place place
  | inside {outer inner place : Option Tree × Tree} (opens : outer.2.kind.hides = false)
      (below : inner ∈ placed none outer.2.children) (rest : Visible inner place) :
      Visible outer place

mutual

/-- The lambdas and types that can be seen from a node, in the order of the source. -/
def codeSites (previous : Option Tree) : Tree → List (Option Tree × Tree)
  | .node kind label span children =>
    (if kind.declaresInCode then [(previous, .node kind label span children)] else []) ++
      if kind.hides then [] else codeSitesIn none children

/-- The lambdas and types that can be seen from some nodes. -/
def codeSitesIn (previous : Option Tree) : List Tree → List (Option Tree × Tree)
  | [] => []
  | tree :: rest => codeSites previous tree ++ codeSitesIn (some tree) rest

end

theorem codeSitesIn_eq (previous : Option Tree) (trees : List Tree) :
    codeSitesIn previous trees =
      (placed previous trees).flatMap fun place => codeSites place.1 place.2 := by
  induction trees generalizing previous with
  | nil => rw [codeSitesIn, placed, List.flatMap_nil]
  | cons tree rest ih => rw [codeSitesIn, placed, List.flatMap_cons, ih]

theorem codeSites_eq (previous : Option Tree) (tree : Tree) :
    codeSites previous tree =
      (if tree.kind.declaresInCode then [(previous, tree)] else []) ++
        if tree.kind.hides then [] else codeSitesIn none tree.children := by
  cases tree with
  | node kind label span children => rw [codeSites, Tree.kind, Tree.children]

theorem mem_codeSites_iff {previous : Option Tree} {tree : Tree} {place : Option Tree × Tree} :
    place ∈ codeSites previous tree ↔
      Visible (previous, tree) place ∧ place.2.kind.declaresInCode = true := by
  induction tree using Tree.induction generalizing previous with
  | node kind label span children ih =>
    rw [codeSites_eq, codeSitesIn_eq, List.mem_append]
    constructor
    · rintro (own | inner)
      · split at own
        · rename_i declares
          obtain rfl := List.mem_singleton.1 own
          exact ⟨.self _, declares⟩
        · cases own
      · split at inner
        · cases inner
        · rename_i opens
          obtain ⟨child, below, seen⟩ := List.mem_flatMap.1 inner
          obtain ⟨visible, declares⟩ := (ih child.2 (mem_of_mem_placed below)).1 seen
          exact ⟨.inside (by simpa using opens) below visible, declares⟩
    · rintro ⟨visible, declares⟩
      cases visible with
      | self =>
        left
        rw [if_pos declares]
        exact List.mem_singleton.2 rfl
      | @inside _ inner _ opens below rest =>
        right
        rw [if_neg (by simpa using opens)]
        refine List.mem_flatMap.2 ⟨inner, below, ?_⟩
        exact (ih inner.2 (mem_of_mem_placed below)).2 ⟨rest, declares⟩

theorem mem_nodes_of_mem_codeSites {previous : Option Tree} {tree : Tree}
    {place : Option Tree × Tree} (h : place ∈ codeSites previous tree) : place.2 ∈ tree.nodes := by
  induction tree using Tree.induction generalizing previous with
  | node kind label span children ih =>
    rw [codeSites_eq, codeSitesIn_eq] at h
    rcases List.mem_append.1 h with own | inner
    · split at own
      · obtain rfl := List.mem_singleton.1 own
        exact Tree.mem_nodes_self _
      · cases own
    · split at inner
      · cases inner
      · obtain ⟨child, below, seen⟩ := List.mem_flatMap.1 inner
        have below := mem_of_mem_placed below
        exact Tree.mem_nodes_iff.2 (.inr ⟨child.2, below, ih child.2 below seen⟩)

/-! ## What a lambda or a type declares -/

/-- The nodes of the parameters of a lambda. -/
def parameterNodes (tree : Tree) : List Tree :=
  match tree.labelled? .parameters with
  | none => []
  | some parameters =>
    match parameters.kind with
    | .identifier => [parameters]
    | .inferredParameters => parameters.parts.filter (·.kind == .identifier)
    | .formalParameters =>
      parameters.parts.filter fun part =>
        part.kind == .formalParameter || part.kind == .spreadParameter
    | _ => []

/-- The parameter that a node declares, as a name alone or with a type. -/
def parameterAt? (source : List Char) (node : Tree) : Option Decl :=
  if node.kind = .identifier then some (inferredParameter source node)
  else (declaredParameter? source node).map .parameter

/-- What a lambda or a type declares in the code around it, each declaration with its node. -/
def declaredAt (source : List Char) (place : Option Tree × Tree) : List (Tree × Decl) :=
  if place.2.kind = .lambdaExpression then
    (parameterNodes place.2).filterMap fun node => (parameterAt? source node).map (node, ·)
  else
    (typeDecl source place.1 place.2 (typeBodyDecls source place.2.children)).map (place.2, ·)

theorem filterMap_declared (source : List Char) (trees : List Tree) :
    (trees.filter fun part => part.kind == .formalParameter || part.kind == .spreadParameter).filterMap
        (parameterAt? source) =
      (trees.filterMap (declaredParameter? source)).map .parameter := by
  induction trees with
  | nil => rfl
  | cons tree rest ih =>
    rw [List.filter_cons, List.filterMap_cons]
    by_cases formal : tree.kind = .formalParameter
    · cases h : formalParameter? source tree <;>
        simp [formal, parameterAt?, declaredParameter?, h, ih]
    · by_cases spread : tree.kind = .spreadParameter
      · cases h : spreadParameter? source tree <;>
          simp [spread, parameterAt?, declaredParameter?, h, ih]
      · have none : declaredParameter? source tree = none := by
          unfold declaredParameter?
          split <;> simp_all
        simp [formal, spread, none, ih]

theorem filterMap_identifiers (source : List Char) (trees : List Tree) :
    (trees.filter (·.kind == .identifier)).filterMap (parameterAt? source) =
      (trees.filter (·.kind == .identifier)).map (inferredParameter source) := by
  rw [← List.filterMap_eq_map]
  refine List.filterMap_congr fun tree h => ?_
  have kind : tree.kind = .identifier := by simpa using (List.mem_filter.1 h).2
  simp [parameterAt?, kind]

/-- The nodes of its parameters are what a lambda is read from. -/
theorem lambdaParameters_eq (source : List Char) (tree : Tree) :
    lambdaParameters source tree = (parameterNodes tree).filterMap (parameterAt? source) := by
  unfold lambdaParameters parameterNodes
  cases tree.labelled? .parameters with
  | none => rfl
  | some parameters =>
    dsimp only
    by_cases identifier : parameters.kind = .identifier
    · simp [identifier, parameterAt?]
    by_cases inferred : parameters.kind = .inferredParameters
    · rw [inferred]
      exact (filterMap_identifiers source _).symm
    by_cases formal : parameters.kind = .formalParameters
    · rw [formal]
      exact (filterMap_declared source _).symm
    · simp

theorem map_snd_declaredAt_lambda {source : List Char} {place : Option Tree × Tree}
    (lambda : place.2.kind = .lambdaExpression) :
    (declaredAt source place).map Prod.snd = lambdaParameters source place.2 := by
  rw [declaredAt, if_pos lambda, lambdaParameters_eq, List.map_filterMap]
  congr 1
  funext node
  cases parameterAt? source node <;> rfl

theorem map_snd_declaredAt_type {source : List Char} {place : Option Tree × Tree}
    (type : place.2.kind ≠ .lambdaExpression) :
    (declaredAt source place).map Prod.snd =
      typeDecl source place.1 place.2 (typeBodyDecls source place.2.children) := by
  rw [declaredAt, if_neg type, List.map_map]
  exact List.map_id _

/-! ## Code as the language has it -/

/-- A lambda has a single body, behind its start and its parameters, and there is no lambda and no
type outside of the body.  Its parameters take up some of the text. -/
structure Tree.IsLambda (node : Tree) : Prop where
  body : (node.children.filter (·.label = some .body)).length = 1
  before : ∀ last ∈ node.children, last.label = some .body → node.span.start < last.span.start ∧
    ∀ first ∈ node.children, first.label = some .parameters → first.span.stop ≤ last.span.start
  free : ∀ child ∈ node.children, child.label ≠ some .body →
    ∀ inner ∈ child.nodes, inner.kind.declaresInCode = false
  solid : ∀ parameter ∈ parameterNodes node, parameter.span.start < parameter.span.stop

/-- A tree of code: symbols, keywords and comments have no parts, lambdas have their shape, types
have names and take up some of the text. -/
structure Tree.IsCode (region : Tree) : Prop extends region.IsOrdered where
  leaves : ∀ node ∈ region.nodes, node.isPart = false → node.children = []
  lambdas : ∀ node ∈ region.nodes, node.kind = .lambdaExpression → node.IsLambda
  named : ∀ node ∈ region.nodes, node.kind.classKind?.isSome → (node.labelled? .name).isSome
  solid : ∀ node ∈ region.nodes, node.kind.classKind?.isSome → node.span.start < node.span.stop

instance (node : Tree) : Decidable node.IsLambda :=
  decidable_of_iff (_ ∧ _ ∧ _ ∧ _)
    ⟨fun ⟨body, before, free, solid⟩ => ⟨body, before, free, solid⟩,
      fun lambda => ⟨lambda.body, lambda.before, lambda.free, lambda.solid⟩⟩

instance (region : Tree) : Decidable region.IsCode :=
  decidable_of_iff (_ ∧ _ ∧ _ ∧ _ ∧ _)
    ⟨fun ⟨ordered, leaves, lambdas, named, solid⟩ => ⟨ordered, leaves, lambdas, named, solid⟩,
      fun code => ⟨code.toIsOrdered, code.leaves, code.lambdas, code.named, code.solid⟩⟩

theorem Kind.not_declaresInCode_of_not_isPart {kind : Kind} (h : kind.isPart = false) :
    kind.declaresInCode = false := by
  have : kind = .token ∨ kind = .lineComment ∨ kind = .blockComment := by
    unfold Kind.isPart Kind.isComment at h
    split at h <;> simp_all
  rcases this with rfl | rfl | rfl <;> rfl

theorem codeSites_eq_nil {tree : Tree} (free : ∀ node ∈ tree.nodes, node.kind.declaresInCode = false)
    (previous : Option Tree) : codeSites previous tree = [] := by
  refine List.eq_nil_iff_forall_not_mem.2 fun place h => ?_
  have declares := (mem_codeSites_iff.1 h).2
  rw [free place.2 (mem_nodes_of_mem_codeSites h)] at declares
  cases declares

theorem Tree.mem_of_labelled? {tree child : Tree} {label : Label}
    (h : tree.labelled? label = some child) :
    child ∈ tree.children ∧ child.label = some label := by
  constructor
  · exact List.mem_of_find?_eq_some h
  · simpa using List.find?_some h

/-- The body of a lambda among its children, of which no other is a body or holds a lambda or a
type. -/
theorem Tree.IsLambda.split {node : Tree} (lambda : node.IsLambda) :
    ∃ front body rest, node.children = front ++ body :: rest ∧ body.label = some .body ∧
      ∀ child ∈ front ++ rest, child.label ≠ some .body ∧
        ∀ inner ∈ child.nodes, inner.kind.declaresInCode = false := by
  obtain ⟨body, single⟩ := List.length_eq_one_iff.1 lambda.body
  obtain ⟨front, rest, split, before, own, behind⟩ := List.filter_eq_cons_iff.1 single
  refine ⟨front, body, rest, split, by simpa using own, fun child h => ?_⟩
  have below : child ∈ node.children := by
    rw [split]
    rcases List.mem_append.1 h with h | h <;> simp [h]
  have other : child.label ≠ some .body := by
    rcases List.mem_append.1 h with h | h
    · simpa using before child h
    · simpa using List.filter_eq_nil_iff.1 behind child h
  exact ⟨other, lambda.free child below other⟩

/-- From a lambda one sees what is seen from its body. -/
theorem Tree.IsLambda.exists_body {node : Tree} (lambda : node.IsLambda) :
    ∃ body previous, node.labelled? .body = some body ∧
      codeSitesIn none node.children = codeSites previous body ∧
      ∀ source, lambdaBodyDecls source none node.children = codeDecl source previous body := by
  obtain ⟨front, body, rest, split, isBody, others⟩ := lambda.split
  have nothing (previous : Option Tree) {trees : List Tree} (h : trees ⊆ front ++ rest) :
      codeSitesIn previous trees = [] := by
    rw [codeSitesIn_eq, List.flatMap_eq_nil_iff]
    intro place listed
    exact codeSites_eq_nil (others place.2 (h (mem_of_mem_placed listed))).2 place.1
  refine ⟨body, front.getLast?.or none, ?_, ?_, fun source => ?_⟩
  · have none : front.find? (fun child => child.label == some .body) = none :=
      List.find?_eq_none.2 fun child h => by simpa using (others child (List.mem_append_left _ h)).1
    rw [Tree.labelled?, split, List.find?_append, none, Option.none_or,
      List.find?_cons_of_pos (by simpa using isBody)]
  · rw [split, codeSitesIn_eq, placed_append, List.flatMap_append, List.flatMap_cons,
      ← codeSitesIn_eq, ← codeSitesIn_eq, nothing none (List.subset_append_left _ _),
      nothing _ (List.subset_append_right _ _), List.nil_append, List.append_nil]
  · have none : (placed none front).find? (·.2.label = some .body) = none := by
      refine List.find?_eq_none.2 fun place listed => ?_
      have here := List.mem_append_left rest (mem_of_mem_placed listed)
      simpa using (others place.2 here).1
    rw [lambdaBodyDecls_eq, split, placed_append, List.find?_append, none, Option.none_or,
      List.find?_cons_of_pos (by simpa using isBody)]
    rfl

theorem Kind.hides_of_isSome {kind : Kind} (h : kind.classKind?.isSome = true) :
    kind.hides = true := by
  simp [Kind.hides, h]

section Code

variable {region : Tree}

theorem Tree.IsCode.free_of_not_isPart (code : region.IsCode) {tree : Tree}
    (inside : tree ∈ region.nodes) (other : tree.isPart = false) :
    ∀ node ∈ tree.nodes, node.kind.declaresInCode = false := by
  intro node h
  rw [Tree.nodes_eq, code.leaves tree inside other] at h
  obtain rfl := List.mem_singleton.1 h
  exact Kind.not_declaresInCode_of_not_isPart other

/-! ## What is declared -/

/-- A node that is neither a lambda, an anonymous class nor a type shows what is in it. -/
theorem Kind.plain_of_ne {kind : Kind} (lambda : kind ≠ .lambdaExpression)
    (anonymous : kind ≠ .classBody) (type : ¬kind.classKind?.isSome = true) :
    kind.declaresInCode = false ∧ kind.hides = false := by
  simp [Kind.declaresInCode, Kind.hides, lambda, anonymous, type]

/-- What the walk takes from some nodes is what it takes from each, as symbols, keywords and comments
have nothing to take. -/
theorem Tree.IsCode.codeDecls_eq_flatMap (code : region.IsCode) (source : List Char)
    {trees : List Tree} (inside : ∀ tree ∈ trees, tree ∈ region.nodes)
    (each : ∀ tree ∈ trees, ∀ previous, codeDecl source previous tree =
      ((codeSites previous tree).flatMap (declaredAt source)).map Prod.snd)
    (previous : Option Tree) :
    codeDecls source previous trees =
      ((codeSitesIn previous trees).flatMap (declaredAt source)).map Prod.snd := by
  rw [codeDecls_eq, codeSitesIn_eq, List.flatMap_assoc, List.map_flatMap]
  refine List.flatMap_congr fun place listed => ?_
  have listed := mem_of_mem_placed listed
  cases part : place.2.isPart with
  | true => rw [if_pos rfl, each place.2 listed]
  | false =>
    have free := code.free_of_not_isPart (inside place.2 listed) part
    rw [codeSites_eq_nil free]
    rfl

theorem Tree.IsCode.codeDecl_eq (code : region.IsCode) (source : List Char) {tree : Tree}
    (inside : tree ∈ region.nodes) (previous : Option Tree) :
    codeDecl source previous tree =
      ((codeSites previous tree).flatMap (declaredAt source)).map Prod.snd := by
  induction tree using Tree.induction generalizing previous with
  | node kind label span children ih =>
    rw [codeSites_eq, List.flatMap_append, List.map_append]
    unfold codeDecl
    dsimp only
    split
    · have lambda := code.lambdas _ inside rfl
      obtain ⟨body, before, isBody, sites, decls⟩ := lambda.exists_body
      have below := (Tree.mem_of_labelled? isBody).1
      have own := @map_snd_declaredAt_lambda source
        (previous, Tree.node .lambdaExpression label span children) rfl
      have inner := ih body below (Tree.mem_nodes_of_child inside below) before
      rw [show lambdaBodyDecls source none children = _ from decls source, inner, ← sites, ← own]
      simp [Tree.kind, Kind.declaresInCode, Kind.hides, Kind.classKind?]
    · simp [Tree.kind, Kind.declaresInCode, Kind.hides, Kind.classKind?]
    · rename_i notLambda notBody
      split
      · rename_i type
        have own := @map_snd_declaredAt_type source (previous, Tree.node kind label span children)
          notLambda
        simp only [Tree.kind, Kind.declaresInCode, type, Bool.or_true, if_true,
          Kind.hides_of_isSome type, List.flatMap_nil, List.map_nil, List.append_nil,
          List.flatMap_singleton, own]
        rfl
      · rename_i noType
        have below (tree) (h : tree ∈ children) := Tree.mem_nodes_of_child inside h
        obtain ⟨declares, hides⟩ := Kind.plain_of_ne notLambda notBody noType
        simp only [Tree.kind, Tree.children, declares, hides, Bool.false_eq_true, if_false,
          List.flatMap_nil, List.map_nil, List.nil_append]
        exact code.codeDecls_eq_flatMap source below
          (fun tree h previous => ih tree h (below tree h) previous) none

/-! ## The order -/

/-- Where what a lambda or a type declares itself has come to its end: a lambda declares its
parameters, which stand before its body. -/
def Tree.ownStop (tree : Tree) : Nat :=
  if tree.kind = .lambdaExpression then
    (tree.labelled? .body).elim tree.span.stop (·.span.start)
  else tree.span.stop

theorem Tree.ownStop_lambda {node body : Tree} (kind : node.kind = .lambdaExpression)
    (isBody : node.labelled? .body = some body) : node.ownStop = body.span.start := by
  rw [Tree.ownStop, if_pos kind, isBody, Option.elim_some]

theorem Tree.IsCode.ownStop_bounds (code : region.IsCode) {tree : Tree}
    (inside : tree ∈ region.nodes) (declares : tree.kind.declaresInCode = true) :
    tree.span.start < tree.ownStop ∧ tree.ownStop ≤ tree.span.stop := by
  by_cases kind : tree.kind = .lambdaExpression
  · have lambda := code.lambdas tree inside kind
    obtain ⟨body, -, isBody, -⟩ := lambda.exists_body
    obtain ⟨below, label⟩ := Tree.mem_of_labelled? isBody
    have ahead := (lambda.before body below label).1
    have within := code.within tree inside body below
    have solid := code.spans body (Tree.mem_nodes_of_child inside below)
    rw [Tree.ownStop_lambda kind isBody]
    omega
  · rw [Tree.ownStop, if_neg kind]
    have type : tree.kind.classKind?.isSome = true := by
      simpa [Kind.declaresInCode, kind] using declares
    exact ⟨code.solid tree inside type, Nat.le_refl _⟩

/-- Among nodes that stand one behind the other, so does what is seen from them, if it does so from
each. -/
theorem Tree.IsCode.pairwise_codeSitesIn (code : region.IsCode) {node : Tree}
    (inside : node ∈ region.nodes)
    (each : ∀ child ∈ node.children, ∀ previous, (codeSites previous child).Pairwise
      fun first second => first.2.ownStop ≤ second.2.span.start) :
    (codeSitesIn none node.children).Pairwise
      fun first second => first.2.ownStop ≤ second.2.span.start := by
  rw [codeSitesIn_eq, List.pairwise_flatMap]
  constructor
  · intro place listed
    exact each place.2 (mem_of_mem_placed listed) place.1
  · have behind := code.behind node inside
    rw [← map_snd_placed none node.children, List.pairwise_map] at behind
    refine behind.imp_of_mem ?_
    intro first second firstListed secondListed apart site seen other otherSeen
    have firstInside := Tree.mem_nodes_of_child inside (mem_of_mem_placed firstListed)
    have secondInside := Tree.mem_nodes_of_child inside (mem_of_mem_placed secondListed)
    have siteInside := mem_nodes_of_mem_codeSites seen
    have own := code.ownStop_bounds (Tree.nodes_subset firstInside siteInside)
      (mem_codeSites_iff.1 seen).2
    have within := (code.of_mem firstInside).bounds siteInside
    have within' := (code.of_mem secondInside).bounds (mem_nodes_of_mem_codeSites otherSeen)
    omega

/-- Each lambda or type seen from a node has declared its own before the next begins. -/
theorem Tree.IsCode.pairwise_codeSites (code : region.IsCode) {tree : Tree}
    (inside : tree ∈ region.nodes) (previous : Option Tree) :
    (codeSites previous tree).Pairwise
      fun first second => first.2.ownStop ≤ second.2.span.start := by
  induction tree using Tree.induction generalizing previous with
  | node kind label span children ih =>
    rw [codeSites_eq, List.pairwise_append]
    refine ⟨?_, ?_, ?_⟩
    · split
      · exact List.pairwise_singleton _ _
      · exact List.Pairwise.nil
    · split
      · exact List.Pairwise.nil
      · exact code.pairwise_codeSitesIn inside fun child below =>
          ih child below (Tree.mem_nodes_of_child inside below)
    · -- only a lambda both declares something and shows what is in it
      intro own isOwn site seen
      split at isOwn
      · obtain rfl := List.mem_singleton.1 isOwn
        rename_i declares
        split at seen
        · cases seen
        · rename_i opens
          have isLambda : (Tree.node kind label span children).kind = .lambdaExpression := by
            by_contra other
            have type : (Tree.node kind label span children).kind.classKind?.isSome = true := by
              simpa [Kind.declaresInCode, other] using declares
            exact opens (Kind.hides_of_isSome type)
          obtain ⟨body, before, isBody, sites, -⟩ := (code.lambdas _ inside isLambda).exists_body
          rw [sites] at seen
          have bodyInside := Tree.mem_nodes_of_child inside (Tree.mem_of_labelled? isBody).1
          have within := (code.of_mem bodyInside).bounds (mem_nodes_of_mem_codeSites seen)
          rw [Tree.ownStop_lambda isLambda isBody]
          exact within.1
      · cases isOwn

/-- The nodes of a lambda's parameters are in order, and are its own or lie in the parentheses. -/
theorem parameterNodes_spec {node parameters : Tree}
    (first : node.labelled? .parameters = some parameters) (ordered : parameters.IsOrdered) :
    ((parameterNodes node).Pairwise fun first second => first.span.stop ≤ second.span.start) ∧
      parameterNodes node ⊆ parameters.nodes := by
  have listed (keep : Tree → Bool) : ((parameters.parts.filter keep).Pairwise fun first second =>
      first.span.stop ≤ second.span.start) ∧ parameters.parts.filter keep ⊆ parameters.nodes := by
    refine ⟨((ordered.behind parameters parameters.mem_nodes_self).filter _).filter _, ?_⟩
    intro inner h
    exact parameters.children_subset_nodes (List.mem_filter.1 (List.mem_filter.1 h).1).1
  rw [parameterNodes, first]
  dsimp only
  split
  · exact ⟨List.pairwise_singleton _ _, by simpa using parameters.mem_nodes_self⟩
  · exact listed _
  · exact listed _
  · exact ⟨List.Pairwise.nil, List.nil_subset _⟩

theorem parameterNodes_eq_nil {node : Tree} (none : node.labelled? .parameters = none) :
    parameterNodes node = [] := by
  rw [parameterNodes, none]

/-- The nodes of a lambda's parameters stand in order, between its start and its body. -/
theorem Tree.IsCode.parameterNodes_bounds (code : region.IsCode) {tree : Tree}
    (inside : tree ∈ region.nodes) (kind : tree.kind = .lambdaExpression) :
    ((parameterNodes tree).Pairwise fun first second => first.span.stop ≤ second.span.start) ∧
      ∀ node ∈ parameterNodes tree, tree.span.start ≤ node.span.start ∧
        node.span.start < node.span.stop ∧ node.span.stop ≤ tree.ownStop := by
  have lambda := code.lambdas tree inside kind
  obtain ⟨body, -, isBody, -⟩ := lambda.exists_body
  obtain ⟨bodyBelow, bodyLabel⟩ := Tree.mem_of_labelled? isBody
  rw [Tree.ownStop_lambda kind isBody]
  cases first : tree.labelled? .parameters with
  | none =>
    rw [parameterNodes_eq_nil first]
    exact ⟨List.Pairwise.nil, by simp⟩
  | some parameters =>
    obtain ⟨below, label⟩ := Tree.mem_of_labelled? first
    have ordered := code.of_mem (Tree.mem_nodes_of_child inside below)
    obtain ⟨apart, nodes⟩ := parameterNodes_spec first ordered
    have outer := code.within tree inside parameters below
    have before := (lambda.before body bodyBelow bodyLabel).2 parameters below label
    refine ⟨apart, fun node h => ?_⟩
    have inner := ordered.bounds (nodes h)
    have solid := lambda.solid node h
    omega

theorem Tree.IsCode.exists_typeDecl (code : region.IsCode) (source : List Char) {tree : Tree}
    (inside : tree ∈ region.nodes) (type : tree.kind.classKind?.isSome = true)
    (previous : Option Tree) (members : List Decl) :
    ∃ head declared, typeDecl source previous tree members = [.type head declared] := by
  obtain ⟨kind, isKind⟩ := Option.isSome_iff_exists.1 type
  obtain ⟨name, isName⟩ := Option.isSome_iff_exists.1 (code.named tree inside type)
  have text : tree.labelledText? source .name = some (name.text source) := by
    rw [Tree.labelledText?, isName, Option.map_some]
  rw [typeDecl, isKind, text]
  exact ⟨_, _, rfl⟩

/-- A type declares itself, once. -/
theorem Tree.IsCode.declaredAt_type (code : region.IsCode) (source : List Char)
    {place : Option Tree × Tree} (inside : place.2 ∈ region.nodes)
    (type : place.2.kind.classKind?.isSome = true) :
    ∃ head members, declaredAt source place = [(place.2, .type head members)] := by
  have other : place.2.kind ≠ .lambdaExpression := by
    intro kind
    rw [kind] at type
    cases type
  obtain ⟨head, members, decl⟩ := code.exists_typeDecl source inside type place.1
    (typeBodyDecls source place.2.children)
  exact ⟨head, members, by rw [declaredAt, if_neg other, decl, List.map_singleton]⟩

/-- What a lambda or a type declares itself stands in order, from its start on and before its own
stop. -/
theorem Tree.IsCode.declaredAt_spec (code : region.IsCode) (source : List Char)
    {place : Option Tree × Tree} (inside : place.2 ∈ region.nodes)
    (declares : place.2.kind.declaresInCode = true) :
    ((declaredAt source place).Pairwise fun first second =>
        first.1.span.start < second.1.span.start) ∧
      ∀ declared ∈ declaredAt source place, place.2.span.start ≤ declared.1.span.start ∧
        declared.1.span.start < place.2.ownStop := by
  by_cases kind : place.2.kind = .lambdaExpression
  · obtain ⟨ordered, nodes⟩ := code.parameterNodes_bounds inside kind
    rw [declaredAt, if_pos kind]
    constructor
    · refine List.Pairwise.filterMap _ ?_ (ordered.imp_of_mem (R := _) (S := fun first second =>
        first.span.start < second.span.start) ?_)
      · intro first second apart declared isFirst other isSecond
        obtain ⟨-, -, rfl⟩ := Option.map_eq_some_iff.1 isFirst
        obtain ⟨-, -, rfl⟩ := Option.map_eq_some_iff.1 isSecond
        exact apart
      · intro first second isFirst _ apart
        have solid := (nodes first isFirst).2.1
        omega
    · intro declared h
      obtain ⟨node, isNode, isDeclared⟩ := List.mem_filterMap.1 h
      obtain ⟨-, -, rfl⟩ := Option.map_eq_some_iff.1 isDeclared
      obtain ⟨start, solid, stop⟩ := nodes node isNode
      exact ⟨start, Nat.lt_of_lt_of_le solid stop⟩
  · have type : place.2.kind.classKind?.isSome = true := by
      simpa [Kind.declaresInCode, kind] using declares
    obtain ⟨head, members, decl⟩ := code.declaredAt_type source inside type
    rw [decl]
    refine ⟨List.pairwise_singleton _ _, fun declared h => ?_⟩
    obtain rfl := List.mem_singleton.1 h
    exact ⟨Nat.le_refl _, (code.ownStop_bounds inside declares).1⟩

/-! ## The walk through a region -/

/-- The places are those of the lambdas and types that can be seen from a region, each once and in the
order of the text, and the walk through the region takes from each what it declares: from a lambda
its parameters, from a type the type. -/
structure Scans (source : List Char) (region : Tree) (places : List (Option Tree × Tree)) : Prop where
  complete : ∀ place, place ∈ places ↔
    (∃ child ∈ placed none region.children, Visible child place) ∧
      place.2.kind.declaresInCode = true
  places_inOrder : places.Pairwise fun first second => first.2.span.start < second.2.span.start
  emits : codeDecls source none region.children =
    (places.flatMap (declaredAt source)).map Prod.snd
  declared_inOrder : (places.flatMap (declaredAt source)).Pairwise fun first second =>
    first.1.span.start < second.1.span.start
  lambdas : ∀ place ∈ places, place.2.kind = .lambdaExpression →
    (declaredAt source place).map Prod.snd = lambdaParameters source place.2
  types : ∀ place ∈ places, place.2.kind.classKind?.isSome = true →
    ∃ head members, declaredAt source place = [(place.2, .type head members)]

/-- The walk through code finds the lambdas and the types that are not in another type or an
anonymous class, all of them, once each and in the order of the text. -/
theorem codeDecls_scans (source : List Char) (code : region.IsCode) :
    ∃ places, Scans source region places := by
  have own := region.mem_nodes_self
  have below (child) (h : child ∈ region.children) := Tree.mem_nodes_of_child own h
  have complete (place : Option Tree × Tree) : place ∈ codeSitesIn none region.children ↔
      (∃ child ∈ placed none region.children, Visible child place) ∧
        place.2.kind.declaresInCode = true := by
    simp only [codeSitesIn_eq, List.mem_flatMap, mem_codeSites_iff]
    grind
  have inside (place : Option Tree × Tree) (h : place ∈ codeSitesIn none region.children) :
      place.2 ∈ region.nodes := by
    rw [codeSitesIn_eq] at h
    obtain ⟨child, listed, seen⟩ := List.mem_flatMap.1 h
    exact Tree.nodes_subset (below child.2 (mem_of_mem_placed listed))
      (mem_nodes_of_mem_codeSites seen)
  have apart := code.pairwise_codeSitesIn own fun child h => code.pairwise_codeSites (below child h)
  refine ⟨codeSitesIn none region.children, ?_⟩
  exact
    { complete
      places_inOrder := by
        refine apart.imp_of_mem fun first _ apart => ?_
        have bounds := code.ownStop_bounds (inside _ first) ((complete _).1 first).2
        omega
      emits := code.codeDecls_eq_flatMap source below
        (fun tree h previous => code.codeDecl_eq source (below tree h) previous) none
      declared_inOrder := by
        rw [List.pairwise_flatMap]
        constructor
        · intro place h
          exact (code.declaredAt_spec source (inside place h) ((complete place).1 h).2).1
        · refine apart.imp_of_mem ?_
          intro first second isFirst isSecond apart declared h other h'
          have bounds := (code.declaredAt_spec source (inside first isFirst)
            ((complete first).1 isFirst).2).2 declared h
          have bounds' := (code.declaredAt_spec source (inside second isSecond)
            ((complete second).1 isSecond).2).2 other h'
          omega
      lambdas := fun place _ kind => map_snd_declaredAt_lambda kind
      types := fun place h type => code.declaredAt_type source (inside place h) type }

end Code

/-- A lambda whose body has a type, and a lambda with an anonymous class that has a lambda in it. -/
def nestedCode : List Char :=
  "class A { X x = a -> { class B {} return (c, d) -> new T() { Y y = e -> e; }; }; }".toList

/-- The field in it. -/
def nestedRegion : Tree :=
  ((parse nestedCode).nodes.find? (·.kind == .fieldDeclaration)).getD default

theorem codeDecls_scans_nested :
    nestedRegion.IsCode ∧ (codeDecls nestedCode none nestedRegion.children).length = 4 ∧
      ∃ places, Scans nestedCode nestedRegion places := by
  have code : nestedRegion.IsCode := by decide +kernel
  exact ⟨code, by decide +kernel, codeDecls_scans nestedCode code⟩

end ClassCatalog.Java
