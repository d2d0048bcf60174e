import ClassCatalog.Proofs.Java.Signatures

/-!
# Where declarations stand

The declarations taken from a tree are well placed (`WellPlaced`), at every depth.  A file holds
packages, imports and types.  A type holds its supertypes, the superclass before the interfaces, and
behind them methods, types and parameters; a method holds its own parameters and behind them the
parameters and types of its code.  A declaration is well placed together with the node it is read
from, and the nodes of what it holds stand in the body of that node.  The proof goes over the nodes
of a tree, once for members and once for code, since one function calls the other.
-/

namespace ClassCatalog.Java

/-- What a declaration stands in. -/
inductive Holder where
  | file
  | type
  | method

/-- Whether a node declares a type, that is, one with a name. -/
def Tree.declaresType (node : Tree) : Bool :=
  node.kind.classKind?.isSome && (node.labelled? .name).isSome

/-- Whether a node declares a member of the type it stands in: a method or a type with a name. -/
def Tree.declaresMember (node : Tree) : Bool :=
  (node.kind == .methodDeclaration || node.kind.classKind?.isSome) && (node.labelled? .name).isSome

/-- Whether a node is the name of a package or of what is imported. -/
def Tree.isWrittenName (node : Tree) : Bool :=
  node.kind == .scopedIdentifier || node.kind == .identifier

theorem isPart_of_isWrittenName (node : Tree) (h : node.isWrittenName = true) :
    node.isPart = true := by
  cases node with
  | node kind label span children => cases kind <;> first | rfl | cases h

/-- Whether a node declares something at the top level of a file. -/
def Tree.declaresInFile (node : Tree) : Bool :=
  match node.kind with
  | .packageDeclaration => node.children.any Tree.isWrittenName
  | .importDeclaration => node.children.any Tree.isWrittenName
  | _ => node.declaresType

/-- A node is one of those that make up the body of a type.  The members of an enum stand in a part
of its body. -/
inductive StandsIn : Tree → Tree → Prop
  | child {body node : Tree} (below : node ∈ body.children) : StandsIn body node
  | part {body part node : Tree} (below : part ∈ body.children)
      (kind : part.kind = .enumBodyDeclarations) (inside : StandsIn part node) : StandsIn body node

/-- A declaration stands where it may, with everything in it, and is read from the given node.  What
it holds is read from nodes in the body of its own node (`sites`); `supertypes` lists the supertypes
of the node of a type. -/
inductive WellPlaced (source : List Char) (supertypes : Tree → List (Clause × Tree)) :
    Holder → Tree → Decl → Prop
  | package {node part : Tree} (kind : node.kind = .packageDeclaration)
      (name : node.children.find? Tree.isWrittenName = some part) :
      WellPlaced source supertypes .file node (.package (part.compactText source))
  | imported {node part : Tree} {entry : Import} (kind : node.kind = .importDeclaration)
      (name : node.children.find? Tree.isWrittenName = some part)
      (path : entry.path = part.compactText source) :
      WellPlaced source supertypes .file node (.imported entry)
  | type {holder : Holder} {node : Tree} {head : ClassHead} {sites : List (Tree × Decl)}
      (kind : node.kind.classKind? = some head.kind)
      (name : node.labelledText? source .name = some head.name)
      (inside : ∀ site ∈ sites, ∃ body ∈ node.labelled? .body, site.1 ∈ body.nodes)
      (complete : ∀ body ∈ node.labelled? .body, ∀ member, StandsIn body member →
        member.declaresMember = true → member ∈ sites.map Prod.fst)
      (each : ∀ site ∈ sites, WellPlaced source supertypes .type site.1 site.2) :
      WellPlaced source supertypes holder node
        (.type head ((supertypes node).map (fun entry =>
          .supertype ⟨entry.1, ⟨typeSegments source entry.2⟩⟩) ++ sites.map Prod.snd))
  | method {node : Tree} {head : MethodHead} {parameters : List Parameter}
      {sites : List (Tree × Decl)} (kind : node.kind = .methodDeclaration)
      (name : node.labelledText? source .name = some head.name)
      (own : List.Forall₂ (IsReadFrom source) (formalNodes node) parameters)
      (inside : ∀ site ∈ sites, ∃ body ∈ node.labelled? .body, site.1 ∈ body.nodes)
      (each : ∀ site ∈ sites, WellPlaced source supertypes .method site.1 site.2) :
      WellPlaced source supertypes .type node
        (.method head (parameters.map .parameter ++ sites.map Prod.snd))
  | parameter {holder : Holder} {node : Tree} {parameter : Parameter} (notInFile : holder ≠ .file)
      (own : IsReadFrom source node parameter) :
      WellPlaced source supertypes holder node (.parameter parameter)

section Places

variable {source : List Char} {supertypes : Tree → List (Clause × Tree)}

/-- What code declares can also be declared by a type. -/
theorem WellPlaced.of_method {node : Tree} {decl : Decl}
    (h : WellPlaced source supertypes .method node decl) :
    WellPlaced source supertypes .type node decl := by
  cases h with
  | type kind name inside complete each => exact .type kind name inside complete each
  | parameter _ own => exact .parameter (by simp) own

/-- Declarations are read from some of the given nodes, and each of the required nodes is read. -/
def Declares (source : List Char) (supertypes : Tree → List (Clause × Tree)) (holder : Holder)
    (nodes : List Tree) (required : Tree → Prop) (decls : List Decl) : Prop :=
  ∃ sites : List (Tree × Decl), sites.map Prod.snd = decls ∧
    (∀ site ∈ sites, site.1 ∈ nodes ∧ WellPlaced source supertypes holder site.1 site.2) ∧
    ∀ node, required node → node ∈ sites.map Prod.fst

namespace Declares

variable {holder : Holder} {nodes : List Tree} {required : Tree → Prop} {decls : List Decl}

theorem nil (none : ∀ node, ¬required node) : Declares source supertypes holder nodes required [] :=
  ⟨[], rfl, by simp, fun node h => absurd h (none node)⟩

theorem of_forall₂ {trees : List Tree}
    (read : List.Forall₂ (WellPlaced source supertypes holder) trees decls)
    (inside : trees ⊆ nodes) : Declares source supertypes holder nodes (· ∈ trees) decls := by
  induction read with
  | nil => exact nil (by simp)
  | @cons tree decl trees decls own _ ih =>
    rw [List.cons_subset] at inside
    obtain ⟨sites, rfl, each, complete⟩ := ih inside.2
    refine ⟨(tree, decl) :: sites, rfl, List.forall_mem_cons.2 ⟨⟨inside.1, own⟩, each⟩, ?_⟩
    intro node h
    rw [List.map_cons, List.mem_cons]
    exact (List.mem_cons.1 h).imp id (complete node)

theorem of_filter {chosen : Tree → Bool} {node : Tree}
    (read : List.Forall₂ (WellPlaced source supertypes holder) ([node].filter chosen) decls)
    (inside : node ∈ nodes) :
    Declares source supertypes holder nodes (fun other => other ∈ [node].filter chosen) decls :=
  of_forall₂ read fun other h => by
    rw [List.mem_singleton.1 (List.mem_filter.1 h).1]
    exact inside

theorem within {more : List Tree} (h : Declares source supertypes holder nodes required decls)
    (wider : nodes ⊆ more) : Declares source supertypes holder more required decls := by
  obtain ⟨sites, same, each, complete⟩ := h
  exact ⟨sites, same, fun site h => ⟨wider (each site h).1, (each site h).2⟩, complete⟩

theorem weaken {others : Tree → Prop} (h : Declares source supertypes holder nodes required decls)
    (fewer : ∀ node, others node → required node) :
    Declares source supertypes holder nodes others decls := by
  obtain ⟨sites, same, each, complete⟩ := h
  exact ⟨sites, same, each, fun node h => complete node (fewer node h)⟩

theorem of_method (h : Declares source supertypes .method nodes required decls) :
    Declares source supertypes .type nodes required decls := by
  obtain ⟨sites, same, each, complete⟩ := h
  exact ⟨sites, same, fun site h => ⟨(each site h).1, (each site h).2.of_method⟩, complete⟩

theorem append {others : Tree → Prop} {more : List Decl}
    (first : Declares source supertypes holder nodes required decls)
    (second : Declares source supertypes holder nodes others more) :
    Declares source supertypes holder nodes (fun node => required node ∨ others node)
      (decls ++ more) := by
  obtain ⟨front, rfl, eachFront, completeFront⟩ := first
  obtain ⟨rest, rfl, eachRest, completeRest⟩ := second
  refine ⟨front ++ rest, List.map_append, fun site h => ?_, fun node h => ?_⟩
  · exact (List.mem_append.1 h).elim (eachFront site) (eachRest site)
  · rw [List.map_append, List.mem_append]
    exact h.imp (completeFront node) (completeRest node)

theorem flatMap {α : Type} {required : α → Tree → Prop} {read : α → List Decl} {places : List α}
    (each : ∀ place ∈ places,
      Declares source supertypes holder nodes (required place) (read place)) :
    Declares source supertypes holder nodes (fun node => ∃ place ∈ places, required place node)
      (places.flatMap read) := by
  induction places with
  | nil => exact nil (by simp)
  | cons place rest ih =>
    rw [List.forall_mem_cons] at each
    exact (each.1.append (ih each.2)).weaken fun node => by simp

end Declares

theorem labelled?_eq (node : Tree) (label : Label) :
    node.labelled? label = node.children.find? (·.label = some label) := by
  rw [Tree.labelled?]
  congr 1
  funext child
  rw [beq_eq_decide]

/-- The members of types that a node has to yield: itself or, for a part of the body of an enum,
those that stand in it. -/
def IsMemberAt (node member : Tree) : Prop :=
  (member = node ∨ node.kind = .enumBodyDeclarations ∧ StandsIn node member) ∧
    member.declaresMember = true

theorem isPart_of_isMemberAt {node member : Tree} (h : IsMemberAt node member) :
    node.isPart = true := by
  obtain ⟨rfl | ⟨kind, -⟩, declares⟩ := h
  · rw [Tree.declaresMember, Bool.and_eq_true, Bool.or_eq_true, beq_iff_eq] at declares
    cases member with
    | node kind label span children =>
      cases kind <;> first | rfl | simp [Tree.kind, Kind.classKind?] at declares
  · rw [Tree.isPart, kind]
    rfl

theorem exists_isMemberAt {body member : Tree} (inside : StandsIn body member)
    (declares : member.declaresMember = true) :
    ∃ node ∈ body.children, IsMemberAt node member := by
  cases inside with
  | child below => exact ⟨member, below, .inl rfl, declares⟩
  | part below kind inside => exact ⟨_, below, .inr ⟨kind, inside⟩, declares⟩

theorem eq_of_isMemberAt {node member : Tree} (h : IsMemberAt node member)
    (part : node.kind ≠ .enumBodyDeclarations) :
    member = node ∧ (node.kind = .methodDeclaration ∨ node.kind.classKind?.isSome = true) ∧
      (node.labelled? .name).isSome = true := by
  obtain ⟨rfl | ⟨kind, -⟩, declares⟩ := h
  · rw [Tree.declaresMember, Bool.and_eq_true, Bool.or_eq_true, beq_iff_eq] at declares
    exact ⟨rfl, declares⟩
  · exact absurd kind part

theorem standsIn_of_isMemberAt {node member : Tree} (h : IsMemberAt node member)
    (part : node.kind = .enumBodyDeclarations) :
    StandsIn node member ∧ member.declaresMember = true := by
  obtain ⟨rfl | ⟨-, inside⟩, declares⟩ := h
  · simp [Tree.declaresMember, part, Kind.classKind?] at declares
  · exact ⟨inside, declares⟩

/-- The nodes that make up the body of a node. -/
def Tree.bodyNodes (node : Tree) : List Tree :=
  (node.labelled? .body).elim [] Tree.nodes

theorem Tree.mem_bodyNodes {node inner : Tree} (h : inner ∈ node.bodyNodes) :
    ∃ body ∈ node.labelled? .body, inner ∈ body.nodes := by
  rw [Tree.bodyNodes] at h
  cases own : node.labelled? .body with
  | none => simp [own] at h
  | some body => exact ⟨body, rfl, by simpa [own] using h⟩

theorem forall₂_typeDecl {holder : Holder} {previous : Option Tree} {node : Tree}
    {members : List Decl}
    (listed : node.kind.classKind?.isSome = true → supertypeDecls source node =
      (supertypes node).map fun entry => .supertype ⟨entry.1, ⟨typeSegments source entry.2⟩⟩)
    (own : Declares source supertypes .type node.bodyNodes (fun member =>
      ∃ body ∈ node.labelled? .body, StandsIn body member ∧ member.declaresMember = true) members) :
    List.Forall₂ (WellPlaced source supertypes holder) ([node].filter Tree.declaresType)
      (typeDecl source previous node members) := by
  obtain ⟨sites, rfl, each, complete⟩ := own
  have named : (node.labelled? .name).isSome = (node.labelledText? source .name).isSome := by
    rw [Tree.labelledText?, Option.isSome_map]
  rw [List.filter_singleton, Tree.declaresType, named, typeDecl]
  cases kind : node.kind.classKind? with
  | none => exact .nil
  | some own =>
    cases name : node.labelledText? source .name with
    | none => exact .nil
    | some spelled =>
      rw [listed (by rw [kind]; rfl)]
      refine .cons (.type kind name ?_ ?_ ?_) .nil
      · exact fun site h => Tree.mem_bodyNodes (each site h).1
      · exact fun body isBody member stands declares =>
          complete member ⟨body, isBody, stands, declares⟩
      · exact fun site h => (each site h).2

theorem forall₂_methodDecl {previous : Option Tree} {node : Tree} {members : List Decl}
    (kind : node.kind = .methodDeclaration)
    (own : Declares source supertypes .method node.bodyNodes (fun _ => False) members) :
    List.Forall₂ (WellPlaced source supertypes .type) ([node].filter Tree.declaresMember)
      (methodDecl source previous node members) := by
  obtain ⟨sites, rfl, each, -⟩ := own
  have parameters : ∃ parameters : List Parameter,
      ((node.labelled? .parameters).map (declaredParameters source)).getD [] =
        parameters.map .parameter ∧
      List.Forall₂ (IsReadFrom source) (formalNodes node) parameters := by
    rw [formalNodes]
    cases node.labelled? .parameters with
    | none => exact ⟨[], rfl, .nil⟩
    | some list => exact exists_declaredParameters source list
  obtain ⟨parameters, same, read⟩ := parameters
  have named : node.declaresMember = (node.labelledText? source .name).isSome := by
    simp [Tree.declaresMember, kind, Tree.labelledText?]
  rw [List.filter_singleton, named, methodDecl, same]
  cases name : node.labelledText? source .name with
  | none => exact .nil
  | some spelled =>
    refine .cons (.method kind name read ?_ ?_) .nil
    · exact fun site h => Tree.mem_bodyNodes (each site h).1
    · exact fun site h => (each site h).2

theorem declares_parameters {trees nodes : List Tree} {parameters : List Parameter}
    (read : List.Forall₂ (IsReadFrom source) trees parameters) (inside : trees ⊆ nodes) :
    Declares source supertypes .method nodes (fun _ => False) (parameters.map .parameter) := by
  have own : List.Forall₂ (WellPlaced source supertypes .method) trees
      (parameters.map .parameter) :=
    List.forall₂_map_right_iff.2 (read.imp fun _ _ own => .parameter (by simp) own)
  exact (Declares.of_forall₂ own inside).weaken fun _ => False.elim

theorem declares_inferredParameters {names nodes : List Tree}
    (kind : ∀ name ∈ names, name.kind = .identifier) (inside : names ⊆ nodes) :
    Declares source supertypes .method nodes (fun _ => False)
      (names.map (inferredParameter source)) := by
  have read : List.Forall₂ (IsReadFrom source) names
      (names.map fun name => { name := name.text source, type := .inferred }) :=
    List.forall₂_map_right_iff.2
      (List.forall₂_same.2 fun name h => isReadFrom_inferred (kind name h))
  have declared : Declares source supertypes .method _ _ _ := declares_parameters read inside
  rwa [List.map_map] at declared

theorem declares_lambdaParameters (source : List Char) (node : Tree) :
    Declares source supertypes .method node.nodes (fun _ => False)
      (lambdaParameters source node) := by
  rw [lambdaParameters]
  split
  · exact .nil fun _ => id
  · rename_i parameters own
    have inside := node.children_subset_nodes (List.mem_of_find?_eq_some own)
    have below : parameters.children ⊆ node.nodes :=
      fun child h => Tree.mem_nodes_of_child inside h
    split
    · rename_i kind
      have read : List.Forall₂ (IsReadFrom source) [parameters] _ :=
        .cons (isReadFrom_inferred kind) .nil
      exact declares_parameters read (by simpa using inside)
    · exact declares_inferredParameters (fun name h => by simpa using (List.mem_filter.1 h).2)
        fun name h => below (List.mem_filter.1 (List.mem_filter.1 h).1).1
    · obtain ⟨list, same, read⟩ := exists_declaredParameters source parameters
      rw [same]
      exact declares_parameters read (List.Subset.trans (List.filter_subset_self _) below)
    · exact .nil fun _ => id

/-- What the members and the code in a node declare, read at the node itself and at the nodes right
below it. -/
structure DeclaresWell (source : List Char) (supertypes : Tree → List (Clause × Tree))
    (node : Tree) : Prop where
  member : ∀ previous, Declares source supertypes .type node.nodes (IsMemberAt node)
    (memberDecl source previous node)
  code : ∀ previous, Declares source supertypes .method node.nodes (fun _ => False)
    (codeDecl source previous node)
  members : Declares source supertypes .type node.nodes
    (fun member => StandsIn node member ∧ member.declaresMember = true)
    (memberDecls source none node.children)
  codes : Declares source supertypes .method node.nodes (fun _ => False)
    (codeDecls source none node.children)

section Below

variable {node : Tree} (each : ∀ child ∈ node.children, DeclaresWell source supertypes child)

include each

theorem declares_memberDecls : Declares source supertypes .type node.nodes
    (fun member => StandsIn node member ∧ member.declaresMember = true)
    (memberDecls source none node.children) := by
  rw [memberDecls_eq]
  have own : ∀ place ∈ placed none node.children, Declares source supertypes .type node.nodes
      (IsMemberAt place.2) (if place.2.isPart then memberDecl source place.1 place.2 else []) := by
    intro place listed
    have below := mem_of_mem_placed listed
    split
    · exact ((each place.2 below).member place.1).within
        (Tree.nodes_subset (node.children_subset_nodes below))
    · rename_i other
      exact .nil fun member h => other (isPart_of_isMemberAt h)
  refine (Declares.flatMap own).weaken fun member h => ?_
  obtain ⟨child, below, required⟩ := exists_isMemberAt h.1 h.2
  rw [← map_snd_placed none node.children] at below
  obtain ⟨place, listed, rfl⟩ := List.mem_map.1 below
  exact ⟨place, listed, required⟩

theorem declares_codeDecls : Declares source supertypes .method node.nodes (fun _ => False)
    (codeDecls source none node.children) := by
  rw [codeDecls_eq]
  have own : ∀ place ∈ placed none node.children, Declares source supertypes .method node.nodes
      (fun _ => False) (if place.2.isPart then codeDecl source place.1 place.2 else []) := by
    intro place listed
    have below := mem_of_mem_placed listed
    split
    · exact ((each place.2 below).code place.1).within
        (Tree.nodes_subset (node.children_subset_nodes below))
    · exact .nil fun _ => id
  exact (Declares.flatMap own).weaken fun _ => False.elim

theorem declares_typeBodyDecls : Declares source supertypes .type node.bodyNodes
    (fun member =>
      ∃ body ∈ node.labelled? .body, StandsIn body member ∧ member.declaresMember = true)
    (typeBodyDecls source node.children) := by
  rw [typeBodyDecls_eq, ← labelled?_eq, Tree.bodyNodes]
  cases h : node.labelled? .body with
  | none => exact .nil (by simp)
  | some body =>
    exact (each body (List.mem_of_find?_eq_some h)).members.weaken (by simp)

theorem declares_codeBodyDecls : Declares source supertypes .method node.bodyNodes
    (fun _ => False) (codeBodyDecls source node.children) := by
  rw [codeBodyDecls_eq, ← labelled?_eq, Tree.bodyNodes]
  cases h : node.labelled? .body with
  | none => exact .nil fun _ => id
  | some body => exact (each body (List.mem_of_find?_eq_some h)).codes

theorem declares_lambdaBodyDecls : Declares source supertypes .method node.nodes (fun _ => False)
    (lambdaBodyDecls source none node.children) := by
  rw [lambdaBodyDecls_eq]
  cases h : (placed none node.children).find? (·.2.label = some .body) with
  | none => exact .nil fun _ => id
  | some place =>
    have below := mem_of_mem_placed (List.mem_of_find?_eq_some h)
    exact ((each place.2 below).code place.1).within
      (Tree.nodes_subset (node.children_subset_nodes below))

end Below

section Root

variable {root : Tree} (listed : ∀ node ∈ root.nodes, node.kind.classKind?.isSome = true →
  supertypeDecls source node =
    (supertypes node).map fun entry => .supertype ⟨entry.1, ⟨typeSegments source entry.2⟩⟩)

include listed

theorem declaresWell {node : Tree} (inside : node ∈ root.nodes) :
    DeclaresWell source supertypes node := by
  induction node using Tree.induction with
  | node kind label span children ih =>
    have each : ∀ child ∈ (Tree.node kind label span children).children,
        DeclaresWell source supertypes child :=
      fun child below => ih child below (Tree.mem_nodes_of_child inside below)
    have members := declares_memberDecls each
    have codes := declares_codeDecls each
    have type {holder : Holder} {previous : Option Tree} : Declares source supertypes holder
        _ _ (typeDecl source previous (.node kind label span children) _) :=
      .of_filter (forall₂_typeDecl (listed _ inside) (declares_typeBodyDecls each))
        (Tree.mem_nodes_self _)
    refine ⟨fun previous => ?_, fun previous => ?_, members, codes⟩
    · -- every kind of member that holds code but declares nothing itself is alike
      have inner (part : kind ≠ .enumBodyDeclarations) (method : kind ≠ .methodDeclaration)
          (plain : kind.classKind? = none) := codes.of_method.weaken
        fun member (h : IsMemberAt (.node kind label span children) member) => by
          have own := (eq_of_isMemberAt h part).2.1
          simp [Tree.kind, method, plain] at own
      unfold memberDecl
      dsimp only
      split
      · have method : Declares source supertypes .type _ _
            (methodDecl source previous (.node .methodDeclaration label span children) _) :=
          .of_filter (forall₂_methodDecl rfl (declares_codeBodyDecls each))
            (Tree.mem_nodes_self _)
        refine method.weaken fun member h => List.mem_filter.2 ?_
        exact ⟨List.mem_singleton.2 (eq_of_isMemberAt h (by simp [Tree.kind])).1, h.2⟩
      · exact members.weaken fun member h => standsIn_of_isMemberAt h rfl
      · exact inner (by decide) (by decide) rfl
      · exact inner (by decide) (by decide) rfl
      · exact inner (by decide) (by decide) rfl
      · exact inner (by decide) (by decide) rfl
      · exact inner (by decide) (by decide) rfl
      · exact inner (by decide) (by decide) rfl
      · rename_i method part _ _ _ _ _ _
        refine type.weaken fun member h => ?_
        obtain ⟨rfl, own, named⟩ := eq_of_isMemberAt h part
        refine List.mem_filter.2 ⟨List.mem_singleton.2 rfl, ?_⟩
        rw [Tree.declaresType, named, own.resolve_left method, Bool.and_self]
    · unfold codeDecl
      dsimp only
      split
      · exact ((declares_lambdaParameters source _).append (declares_lambdaBodyDecls each)).weaken
          fun _ => False.elim
      · exact .nil fun _ => id
      · split
        · exact type.weaken fun _ => False.elim
        · exact codes

theorem forall₂_topLevelDecl {node : Tree} (inside : node ∈ root.nodes)
    (previous : Option Tree) :
    List.Forall₂ (WellPlaced source supertypes .file) ([node].filter Tree.declaresInFile)
      (topLevelDecl source previous node) := by
  have written : writtenName? source node =
      (node.children.find? Tree.isWrittenName).map (Tree.compactText source) := by
    rw [← find?_parts isPart_of_isWrittenName]
    rfl
  have named : node.children.any Tree.isWrittenName =
      (node.children.find? Tree.isWrittenName).isSome := List.isSome_find?.symm
  by_cases package : node.kind = .packageDeclaration
  · simp only [topLevelDecl, List.filter_singleton, Tree.declaresInFile, package, named, written]
    cases name : node.children.find? Tree.isWrittenName with
    | none => exact .nil
    | some part => exact .cons (.package package name) .nil
  by_cases imported : node.kind = .importDeclaration
  · simp only [topLevelDecl, List.filter_singleton, Tree.declaresInFile, imported, named, written]
    cases name : node.children.find? Tree.isWrittenName with
    | none => exact .nil
    | some part => exact .cons (.imported imported name rfl) .nil
  · have declares : [node].filter Tree.declaresInFile = [node].filter Tree.declaresType := by
      simp only [List.filter_singleton, Tree.declaresInFile]
    have own : topLevelDecl source previous node =
        typeDecl source previous node (typeBodyDecls source node.children) := by
      simp only [topLevelDecl]
    rw [declares, own]
    exact forall₂_typeDecl (listed node inside) (declares_typeBodyDecls fun child below =>
      declaresWell listed (Tree.mem_nodes_of_child inside below))

theorem forall₂_topLevelDecls {trees : List Tree} (inside : trees ⊆ root.nodes)
    (previous : Option Tree) :
    List.Forall₂ (WellPlaced source supertypes .file) (trees.filter Tree.declaresInFile)
      (topLevelDecls source previous trees) := by
  induction trees generalizing previous with
  | nil => exact .nil
  | cons tree rest ih =>
    rw [List.cons_subset] at inside
    rw [← List.singleton_append, List.filter_append, List.singleton_append, topLevelDecls]
    exact List.rel_append (forall₂_topLevelDecl listed inside.1 previous) (ih inside.2 _)

end Root

end Places

/-- The declarations of a tree are those that the nodes right below it declare, in the order of the
source, and all are well placed.  If no type has two lists of interfaces, as is so in the tree of a
text, then its interfaces come in the order of the source. -/
theorem programDecls_wellPlaced (source : List Char) :
    (∀ tree : Tree, List.Forall₂ (WellPlaced source supertypesByKeyword .file)
      (tree.children.filter Tree.declaresInFile) (programDecls source tree)) ∧
    (∀ tree : Tree, tree.HasSingleLists → List.Forall₂ (WellPlaced source supertypesInOrder .file)
      (tree.children.filter Tree.declaresInFile) (programDecls source tree)) ∧
    (∀ node : Tree, node.IsOrdered → (interfaceEntries node).Pairwise
      fun first second => first.2.span.stop ≤ second.2.span.start) ∧
    (parse source).HasSingleLists := by
  refine ⟨fun tree => ?_, fun tree single => ?_, fun node ordered => ?_,
    hasSingleLists_parse source⟩
  · exact forall₂_topLevelDecls (fun node _ _ => supertypeDecls_eq source node)
      tree.children_subset_nodes none
  · refine forall₂_topLevelDecls (fun node inside type => ?_) tree.children_subset_nodes none
    rw [← supertypesByKeyword_of_single (single node inside type)]
    exact supertypeDecls_eq source node
  · exact ordered.pairwise_interfaceEntries

/-- A class with a superclass, two interfaces and a method. -/
def derivedClass : List Char :=
  "class A extends B implements C, D { void f(int[] x) { run(y -> y); } }".toList

/-- The node of the class. -/
def derivedNode : Tree :=
  ((parse derivedClass).children.find? Tree.declaresInFile).getD default

theorem programDecls_wellPlaced_derivedClass :
    (programDecls derivedClass (parse derivedClass)).length = 1 ∧
      (supertypesInOrder derivedNode).map (fun entry => (entry.1, entry.2.text derivedClass)) =
        [(.extends, "B"), (.implements, "C"), (.implements, "D")] ∧
      List.Forall₂ (WellPlaced derivedClass supertypesInOrder .file)
        ((parse derivedClass).children.filter Tree.declaresInFile)
        (programDecls derivedClass (parse derivedClass)) ∧
      (interfaceEntries derivedNode).Pairwise fun first second =>
        first.2.span.stop ≤ second.2.span.start := by
  obtain ⟨-, inOrder, positions, single⟩ := programDecls_wellPlaced derivedClass
  have ordered : derivedNode.IsOrdered := by decide +kernel
  exact ⟨by decide +kernel, by decide +kernel, inOrder _ single, positions _ ordered⟩

end ClassCatalog.Java
