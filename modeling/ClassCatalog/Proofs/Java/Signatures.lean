import ClassCatalog.Proofs.Java.InterfaceLists
import Mathlib.Data.List.Forall2

/-!
# Parameters and supertypes

The nodes of the parameters of a method (`formalNodes`) and of the supertypes of a type
(`supertypesByKeyword`, `supertypesInOrder`), and what is read from them.  They are taken from the
children of a node in the order of the source, apart from the functions that read them.  Written
types are flat: brackets of all places are in one count.
-/

namespace ClassCatalog

/-- The type is no array, or an array with at least one dimension of what is no array. -/
def TypeExpr.IsFlat : TypeExpr → Prop
  | array element dimensions => 1 ≤ dimensions ∧ ∀ inner more, element ≠ array inner more
  | _ => True

theorem TypeExpr.isFlat_arrayOf {type : TypeExpr} {dimensions : Nat} (flat : type.IsFlat)
    (positive : 1 ≤ dimensions) : (type.arrayOf dimensions).IsFlat := by
  cases type with
  | array element inner => exact ⟨Nat.le_add_right_of_le flat.1, flat.2⟩
  | _ => exact ⟨positive, by simp⟩

namespace Java

/-! ## Parts -/

theorem isPart_of_isType (node : Tree) (h : node.isType = true) : node.isPart = true := by
  cases node with
  | node kind label span children => cases kind <;> first | rfl | cases h

/-- A choice that takes parts only takes the same ones among all children. -/
theorem filter_parts {chosen : Tree → Bool} (own : ∀ node, chosen node = true → node.isPart = true)
    (node : Tree) : node.parts.filter chosen = node.children.filter chosen := by
  rw [Tree.parts, List.filter_filter]
  refine List.filter_congr fun child _ => ?_
  cases h : chosen child with
  | false => rfl
  | true => rw [own child h, Bool.and_self]

theorem find?_parts {chosen : Tree → Bool} (own : ∀ node, chosen node = true → node.isPart = true)
    (node : Tree) : node.parts.find? chosen = node.children.find? chosen := by
  rw [← List.head?_filter, filter_parts own, List.head?_filter]

/-! ## Parameters -/

theorem isFlat_typeExpr (source : List Char) (tree : Tree) : (typeExpr source tree).IsFlat := by
  induction tree using Tree.induction with
  | node kind label span children ih =>
    have primitive (tree : Tree) : (primitiveExpr source tree).IsFlat := by
      rw [primitiveExpr]
      split <;> trivial
    unfold typeExpr
    dsimp only
    split
    · exact primitive _
    · exact primitive _
    · exact primitive _
    · split <;> trivial
    · trivial
    · trivial
    · rw [elementExpr?_eq]
      refine TypeExpr.isFlat_arrayOf ?_ ?_
      · cases h : children.find? (·.label = some .element) with
        | none => trivial
        | some element => exact ih element (List.mem_of_find?_eq_some h)
      · cases (Tree.node .arrayType label span children).labelled? .dimensions with
        | none => exact Nat.le_refl 1
        | some brackets => exact Nat.le_max_left 1 _
    · rw [lastTypeExpr?_eq]
      cases h : children.reverse.find? Tree.isType with
      | none => trivial
      | some type => exact ih type (List.mem_reverse.1 (List.mem_of_find?_eq_some h))
    · trivial

theorem isFlat_formalParameter? {source : List Char} {tree : Tree} {parameter : Parameter}
    (h : formalParameter? source tree = some parameter) : parameter.type.IsFlat := by
  have own : (((tree.labelled? .type).map (typeExpr source)).getD .inferred).IsFlat := by
    cases tree.labelled? .type with
    | none => trivial
    | some type => exact isFlat_typeExpr source type
  obtain ⟨name, -, rfl⟩ := Option.map_eq_some_iff.1 h
  dsimp only
  split
  · exact TypeExpr.isFlat_arrayOf own (Nat.le_max_left 1 _)
  · exact own

theorem isFlat_spreadParameter? {source : List Char} {tree : Tree} {parameter : Parameter}
    (h : spreadParameter? source tree = some parameter) : parameter.type.IsFlat := by
  simp only [spreadParameter?, bind, Option.bind_eq_some_iff, pure, Option.some.injEq] at h
  obtain ⟨type, -, name, -, rfl⟩ := h
  exact isFlat_typeExpr source type

/-- The node that spells the name of a parameter. -/
def parameterName? (node : Tree) : Option Tree :=
  match node.kind with
  | .identifier => some node
  | .formalParameter => node.labelled? .name
  | .spreadParameter =>
    (node.labelled? .name).or ((node.ofKind? .variableDeclarator).bind (·.labelled? .name))
  | _ => none

/-- Whether a node declares a parameter.  One for any number of arguments has to have a type. -/
def Tree.declaresParameter (node : Tree) : Bool :=
  match node.kind with
  | .formalParameter => (parameterName? node).isSome
  | .spreadParameter => (parameterName? node).isSome && node.children.any Tree.isType
  | _ => false

/-- The nodes of the parameters of a method, in the order of the source. -/
def formalNodes (node : Tree) : List Tree :=
  (node.labelled? .parameters).elim [] fun list => list.children.filter Tree.declaresParameter

/-- A parameter is read from a node: it has the name that the node spells and a flat type, which is
left out where the node is the name alone. -/
structure IsReadFrom (source : List Char) (node : Tree) (parameter : Parameter) : Prop where
  name : (parameterName? node).map (Tree.text source) = some parameter.name
  flat : parameter.type.IsFlat
  bare : node.kind = .identifier → parameter.type = .inferred

theorem isReadFrom_inferred {source : List Char} {node : Tree} (kind : node.kind = .identifier) :
    IsReadFrom source node { name := node.text source, type := .inferred } where
  name := by rw [parameterName?, kind]; rfl
  flat := trivial
  bare _ := rfl

theorem isPart_of_declaresParameter (node : Tree) (h : node.declaresParameter = true) :
    node.isPart = true := by
  cases node with
  | node kind label span children => cases kind <;> first | rfl | cases h

theorem spreadParameter?_eq {source : List Char} {node : Tree}
    (kind : node.kind = .spreadParameter) :
    spreadParameter? source node = (node.children.find? Tree.isType).bind fun type =>
      (parameterName? node).map fun name =>
        { name := name.text source, type := typeExpr source type } := by
  rw [spreadParameter?, find?_parts isPart_of_isType, parameterName?, kind]
  cases node.children.find? Tree.isType with
  | none => rfl
  | some type =>
    cases own : node.labelled? .name with
    | some name => simp [Tree.labelledText?, own]
    | none =>
      cases node.ofKind? .variableDeclarator with
      | none => simp [Tree.labelledText?, own]
      | some declarator =>
        cases h : declarator.labelled? .name <;> simp [Tree.labelledText?, own, h]

theorem isReadFrom_declaredParameter? {source : List Char} {node : Tree} {parameter : Parameter}
    (h : declaredParameter? source node = some parameter) : IsReadFrom source node parameter := by
  rw [declaredParameter?] at h
  split at h
  · rename_i kind
    have flat := isFlat_formalParameter? h
    obtain ⟨name, spelled, rfl⟩ := Option.map_eq_some_iff.1 h
    refine ⟨?_, flat, by simp [kind]⟩
    rwa [parameterName?, kind]
  · rename_i kind
    have flat := isFlat_spreadParameter? h
    rw [spreadParameter?_eq kind, Option.bind_eq_some_iff] at h
    obtain ⟨type, -, h⟩ := h
    obtain ⟨name, spelled, rfl⟩ := Option.map_eq_some_iff.1 h
    exact ⟨by rw [spelled]; rfl, flat, by simp [kind]⟩
  · cases h

theorem isSome_declaredParameter? (source : List Char) (node : Tree) :
    (declaredParameter? source node).isSome = node.declaresParameter := by
  by_cases formal : node.kind = .formalParameter
  · simp only [declaredParameter?, formalParameter?, Tree.declaresParameter, parameterName?, formal,
      Tree.labelledText?, Option.isSome_map]
  by_cases spread : node.kind = .spreadParameter
  · simp only [declaredParameter?, Tree.declaresParameter, spread, spreadParameter?_eq spread,
      ← List.isSome_find?]
    cases node.children.find? Tree.isType <;> simp
  · have none : declaredParameter? source node = none := by
      unfold declaredParameter?
      split <;> simp_all
    have other : node.declaresParameter = false := by
      unfold Tree.declaresParameter
      split <;> simp_all
    rw [none, other]
    rfl

/-- Of some nodes, those that declare a parameter and the parameters read from them. -/
theorem forall₂_declaredParameter? (source : List Char) (trees : List Tree) :
    List.Forall₂ (IsReadFrom source) (trees.filter Tree.declaresParameter)
      (trees.filterMap (declaredParameter? source)) := by
  induction trees with
  | nil => exact .nil
  | cons tree rest ih =>
    have some := isSome_declaredParameter? source tree
    rw [List.filter_cons, List.filterMap_cons]
    cases h : declaredParameter? source tree with
    | none => simpa [← some, h] using ih
    | some parameter =>
      rw [← some, h, if_pos Option.isSome_some]
      exact .cons (isReadFrom_declaredParameter? h) ih

/-- The parameters declared right below a node, with their own nodes. -/
theorem exists_declaredParameters (source : List Char) (node : Tree) :
    ∃ parameters : List Parameter, declaredParameters source node = parameters.map .parameter ∧
      List.Forall₂ (IsReadFrom source) (node.children.filter Tree.declaresParameter)
        parameters := by
  refine ⟨_, rfl, ?_⟩
  rw [← filter_parts isPart_of_declaresParameter]
  exact forall₂_declaredParameter? source node.parts

/-! ## Supertypes -/

/-- The type behind the keyword of a superclass. -/
def superclassType? (node : Tree) : Option Tree :=
  ((node.labelled? .superclass).or (node.ofKind? .superclass)).bind (·.children.find? Tree.isType)

/-- The types that a part of a list names: itself, or those of a list of types. -/
def typesAt (part : Tree) : List Tree :=
  if part.isType then [part]
  else if part.kind = .typeList then part.children.filter Tree.isType
  else []

/-- The types that a list of interfaces names, in the order of the source. -/
def interfaceTypes (list : Tree) : List Tree :=
  list.children.flatMap typesAt

/-- The interfaces of a type with their keywords, in the order of the source. -/
def interfaceEntries (node : Tree) : List (Clause × Tree) :=
  node.children.flatMap fun child =>
    child.kind.interfaceClause?.elim [] fun clause => (interfaceTypes child).map (clause, ·)

/-- The interfaces in the first list of a kind. -/
def interfacesIn (kind : Kind) (node : Tree) : List Tree :=
  (node.ofKind? kind).elim [] interfaceTypes

/-- The supertypes of a type with their keywords: the superclass and the interfaces, those behind
`implements` before those behind `extends`. -/
def supertypesByKeyword (node : Tree) : List (Clause × Tree) :=
  (superclassType? node).toList.map (Clause.extends, ·) ++
    (interfacesIn .superInterfaces node).map (Clause.implements, ·) ++
    (interfacesIn .extendsInterfaces node).map (Clause.extends, ·)

/-- The supertypes of a type with their keywords: the superclass and the interfaces, these in the
order of the source. -/
def supertypesInOrder (node : Tree) : List (Clause × Tree) :=
  (superclassType? node).toList.map (Clause.extends, ·) ++ interfaceEntries node

theorem listedTypes_eq (list : Tree) : listedTypes list = interfaceTypes list := by
  rw [listedTypes, interfaceTypes, Tree.parts]
  induction list.children with
  | nil => rfl
  | cons child rest ih =>
    rw [List.filter_cons, List.flatMap_cons, ← ih, typesAt]
    by_cases type : child.isType = true
    · have other : child.kind ≠ .typeList := by
        intro kind
        rw [Tree.isType, kind] at type
        cases type
      rw [if_pos (isPart_of_isType child type), List.flatMap_cons, if_neg other, if_pos type,
        if_pos type]
    rw [if_neg type]
    by_cases kind : child.kind = .typeList
    · have part : child.isPart = true := by
        rw [Tree.isPart, kind]
        rfl
      rw [if_pos part, List.flatMap_cons, if_pos kind, if_pos kind, filter_parts isPart_of_isType]
    · rw [if_neg kind, List.nil_append]
      split
      · rw [List.flatMap_cons, if_neg kind, if_neg type, List.nil_append]
      · rfl

theorem supertypeDecls_eq (source : List Char) (node : Tree) :
    supertypeDecls source node =
      (supertypesByKeyword node).map fun entry =>
        .supertype ⟨entry.1, ⟨typeSegments source entry.2⟩⟩ := by
  have superclass : ((node.labelled? .superclass).or (node.ofKind? .superclass)).bind
      (·.parts.find? Tree.isType) = superclassType? node := by
    rw [superclassType?]
    congr 1
    funext clause
    exact find?_parts isPart_of_isType clause
  have listed (kind : Kind) :
      ((node.ofKind? kind).map listedTypes).getD [] = interfacesIn kind node := by
    rw [interfacesIn]
    cases node.ofKind? kind with
    | none => rfl
    | some list => exact listedTypes_eq list
  rw [supertypeDecls, superclass]
  dsimp only
  rw [listed, listed, supertypesByKeyword]
  simp only [List.map_append, List.map_map]
  rfl

theorem Kind.isSome_interfaceClause? {kind : Kind} (h : kind.interfaceClause?.isSome) :
    kind = .superInterfaces ∨ kind = .extendsInterfaces := by
  unfold Kind.interfaceClause? at h
  split at h
  · exact .inl rfl
  · exact .inr rfl
  · cases h

theorem ofKind?_eq_find?_interfaceLists {kind : Kind} (own : kind.interfaceClause?.isSome)
    (node : Tree) : node.ofKind? kind = (interfaceLists node).find? (·.kind == kind) := by
  rw [interfaceLists, List.find?_filter, Tree.ofKind?]
  congr 1
  funext child
  by_cases same : child.kind = kind <;> simp [same, own]

theorem interfaceEntries_eq (node : Tree) :
    interfaceEntries node = (interfaceLists node).flatMap fun list =>
      list.kind.interfaceClause?.elim [] fun clause => (interfaceTypes list).map (clause, ·) := by
  rw [interfaceEntries, interfaceLists]
  induction node.children with
  | nil => rfl
  | cons child rest ih =>
    rw [List.flatMap_cons, List.filter_cons, ih]
    cases h : child.kind.interfaceClause? <;> simp [h]

/-- With one list of interfaces there is one keyword, and the orders agree. -/
theorem supertypesByKeyword_of_single {node : Tree} (single : (interfaceLists node).length ≤ 1) :
    supertypesByKeyword node = supertypesInOrder node := by
  rw [supertypesByKeyword, supertypesInOrder, List.append_assoc, interfacesIn, interfacesIn,
    ofKind?_eq_find?_interfaceLists rfl, ofKind?_eq_find?_interfaceLists rfl, interfaceEntries_eq]
  congr 1
  cases h : interfaceLists node with
  | nil => rfl
  | cons list others =>
    have own : list ∈ interfaceLists node := by simp [h]
    rw [h, List.length_cons] at single
    obtain rfl : others = [] := List.length_eq_zero_iff.1 (by omega)
    rcases Kind.isSome_interfaceClause? (List.mem_filter.1 own).2 with kind | kind
    · simp [kind, Kind.interfaceClause?]
    · simp [kind, Kind.interfaceClause?]

theorem typesAt_subset (part : Tree) : typesAt part ⊆ part.nodes := by
  intro type h
  rw [typesAt] at h
  split at h
  · rw [List.mem_singleton.1 h]
    exact part.mem_nodes_self
  · split at h
    · exact part.children_subset_nodes (List.mem_filter.1 h).1
    · cases h

theorem interfaceTypes_subset (list : Tree) : interfaceTypes list ⊆ list.nodes := by
  intro type h
  obtain ⟨part, below, own⟩ := List.mem_flatMap.1 h
  have inside := list.children_subset_nodes below
  exact Tree.nodes_subset inside (typesAt_subset part own)

theorem Tree.IsOrdered.pairwise_interfaceTypes {list : Tree} (ordered : list.IsOrdered) :
    (interfaceTypes list).Pairwise fun first second => first.span.stop ≤ second.span.start := by
  refine ordered.pairwise_flatMap (fun part _ => typesAt_subset part) fun part below => ?_
  have inside := list.children_subset_nodes below
  rw [typesAt]
  split
  · exact List.pairwise_singleton _ _
  · split
    · exact (ordered.behind part inside).filter _
    · exact List.Pairwise.nil

/-- The interfaces of a type stand in the text as in the list. -/
theorem Tree.IsOrdered.pairwise_interfaceEntries {node : Tree} (ordered : node.IsOrdered) :
    (interfaceEntries node).Pairwise
      fun first second => first.2.span.stop ≤ second.2.span.start := by
  have types : (interfaceEntries node).map Prod.snd = node.children.flatMap fun child =>
      child.kind.interfaceClause?.elim [] fun _ => interfaceTypes child := by
    rw [interfaceEntries, List.map_flatMap]
    refine List.flatMap_congr fun child _ => ?_
    cases child.kind.interfaceClause? with
    | none => rfl
    | some clause => exact (List.map_map ..).trans (List.map_id _)
  have apart : ((interfaceEntries node).map Prod.snd).Pairwise
      fun first second => first.span.stop ≤ second.span.start := by
    rw [types]
    refine ordered.pairwise_flatMap (fun child _ => ?_) fun child h => ?_
    · cases child.kind.interfaceClause? with
      | none => exact List.nil_subset _
      | some clause => exact interfaceTypes_subset child
    · have inner := ordered.of_mem (node.children_subset_nodes h)
      cases child.kind.interfaceClause? with
      | none => exact List.Pairwise.nil
      | some clause => exact inner.pairwise_interfaceTypes
  exact List.pairwise_map.1 apart

end Java

end ClassCatalog
