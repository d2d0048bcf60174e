import ClassCatalog.Java.Parse
import ClassCatalog.Proofs.Java.TypeShapes

/-!
# Types of parameters

What the type of a parameter is read as, with its decorations and without (`formalParameter?_bare_eq`).
The dimensions are counted in the text of the brackets.  A node of brackets writes its pairs and also
the brackets that its decorations hide (`bracketCount_eq`); in the bare text only the pairs are left
(`bracketCount_bare`).
-/

namespace ClassCatalog.Java

/-! ## Brackets -/

theorem sum_map_kept_add (count : Tree → Nat) (tree : Tree) :
    (tree.children.map count).sum =
      (tree.kept.map count).sum + ((tree.children.filter Tree.isDecoration).map count).sum := by
  rw [Tree.kept]
  induction tree.children with
  | nil => rfl
  | cons child rest ih =>
    cases h : child.isDecoration <;> simp [h, ih] <;> omega

namespace Tree

variable {source : List Char} {tree : Tree}

/-- The brackets that are left in a node of brackets have one opening bracket a pair. -/
theorem IsShaped.sum_kept (shape : tree.IsShaped source) (kind : tree.kind = .dimensions) :
    (tree.kept.map fun token => (token.span.text source).count '[').sum = tree.pairs source := by
  have tokens := (shape.bracketTokens kind).1
  rw [pairs]
  generalize tree.kept = left at tokens
  induction left with
  | nil => rfl
  | cons token rest ih =>
    obtain ⟨own, others⟩ := List.forall_mem_cons.1 tokens
    have spelled (spelling : String) (h : token.text source = spelling) :
        token.span.text source = spelling.toList := by
      rw [← h, text, String.toList_ofList]
    rw [List.map_cons, List.sum_cons, ih others, List.countP_cons]
    rcases own.2 with h | h
    · rw [spelled _ h, h, Nat.add_comm]
      rfl
    · rw [spelled _ h, h]
      exact Nat.zero_add _

theorem IsShaped.one_le_pairs (shape : tree.IsShaped source) (kind : tree.kind = .dimensions) :
    1 ≤ tree.pairs source := by
  obtain ⟨token, isKept, isOpen⟩ := (shape.bracketTokens kind).2.1
  exact List.countP_pos_iff.2 ⟨token, isKept, by simpa using isOpen⟩

/-- The dimensions that a node of brackets writes are its pairs and what its decorations hide. -/
theorem IsShaped.bracketCount_eq (shape : tree.IsShaped source) (ordered : tree.IsOrdered)
    (kind : tree.kind = .dimensions) :
    bracketCount source tree = tree.pairs source + tree.hidden source := by
  have self := tree.mem_nodes_self
  have positive := shape.one_le_pairs kind
  have count : (tree.span.text source).count '[' = tree.pairs source + tree.hidden source := by
    rw [← shape.sum_kept kind, hidden, ← sum_map_kept_add]
    refine count_text_eq_sum ?_ (ordered.within tree self) (ordered.behind tree self) ?_
    · exact fun child below => ordered.spans child (mem_nodes_of_child self below)
    · exact fun position first last => (shape.bracketTokens kind).2.2 position
        (Span.contains_iff.2 ⟨first, last⟩)
  rw [bracketCount, count]
  omega

/-- Once the decorations are gone, the pairs are all that is written. -/
theorem IsShaped.bracketCount_bare {node : Tree} (shape : node.IsShaped source)
    (ordered : tree.IsOrdered) (inside : node ∈ tree.skeleton) (kind : node.kind = .dimensions) :
    bracketCount (tree.bareText source) node.bare = node.pairs source := by
  have nodeInside := skeleton_subset_nodes _ inside
  obtain ⟨tokens, ⟨opening, isKept, -⟩, only⟩ := shape.bracketTokens kind
  have leaf (token : Tree) (h : token ∈ node.kept) : token.children = [] :=
    (shape.of_kept h).children_leaf (.inr (.inl (tokens token h).1))
  have childInside (token : Tree) (h : token ∈ node.kept) : token ∈ tree.nodes :=
    mem_nodes_of_child nodeInside (mem_kept_iff.1 h).1
  have left : node.kept.map bare = node.kept := by
    rw [List.map_congr_left fun token h => bare_of_leaf (leaf token h), List.map_id']
  have some : node.kept ≠ [] := List.ne_nil_of_mem isKept
  have bareSpan : node.bare.span = (above node.kind node.kept).span := by
    obtain ⟨first, rest, isFirst⟩ := List.exists_cons_of_ne_nil some
    rw [bare_of_kept (by rw [kind]; rfl) isFirst, left]
    rfl
  have spans := fun token h => ordered.spans token (childInside token h)
  have behind := (ordered.behind node nodeInside).filter (!·.isDecoration)
  have outer := above_within node.kind some fun token h =>
    ordered.within node nodeInside token (mem_kept_iff.1 h).1
  have count : (node.bare.span.text (tree.bareText source)).count '[' = node.pairs source := by
    have texts (token : Tree) (h : token ∈ node.kept) :=
      ordered.text_bareText (mem_skeleton_of_kept inside h) (leaf token h) source
    rw [← shape.sum_kept kind, ← List.map_congr_left fun token h =>
      congrArg (List.count '[') (texts token h), bareSpan]
    refine count_text_eq_sum spans (bounds_above node.kind spans behind) behind ?_
    intro position first last isOpen
    have here : node.span.contains position = true :=
      Span.contains_iff.2 ⟨Nat.le_trans outer.1 first, Nat.lt_of_lt_of_le last outer.2⟩
    obtain ⟨isSource, free⟩ := getElem?_bareText_eq_some isOpen (by decide)
    obtain ⟨child, below, there⟩ := only position here isSource
    refine ⟨child, mem_kept_iff.2 ⟨below, ?_⟩, there⟩
    -- a bracket in a decoration would have been blanked out
    cases decoration : child.isDecoration with
    | false => rfl
    | true =>
      rw [ordered.isDecorated_eq inside here] at free
      have decorated : node.isDecorated position = true := by
        refine isDecorated_iff.2 ⟨child, ?_, there⟩
        rw [decorations_eq shape.own]
        refine List.mem_flatMap.2 ⟨child, below, ?_⟩
        rw [decorations_of_isDecoration decoration]
        exact List.mem_singleton.2 rfl
      rw [decorated] at free
      cases free
  have positive := shape.one_le_pairs kind
  rw [bracketCount, count]
  omega

/-! ## Parameters -/

/-- The parts of a parameter apart from its modifiers. -/
structure HasParts (tree type name : Tree) (last : Option Tree) : Prop where
  left : tree.kept.filter (·.kind != .modifiers) = type :: name :: last.toList
  isType : type.kind.isParameterType = true
  type_label : type.label = some .type
  isName : name.kind = .identifier
  name_label : name.label = some .name
  isBrackets : ∀ brackets ∈ last, brackets.kind = .dimensions ∧ brackets.label = some .dimensions

/-- A parameter with a type of primitive types, names, annotated types and arrays. -/
structure IsParameter (source : List Char) (tree : Tree) : Prop
    extends tree.IsOrdered, tree.IsShaped source where
  kind : tree.kind = .formalParameter

instance (source : List Char) (tree : Tree) : Decidable (tree.IsParameter source) :=
  decidable_of_iff (_ ∧ _ ∧ _)
    ⟨fun ⟨ordered, shape, kind⟩ => ⟨ordered, shape, kind⟩,
      fun parameter => ⟨parameter.toIsOrdered, parameter.toIsShaped, parameter.kind⟩⟩

theorem IsParameter.exists_parts (parameter : tree.IsParameter source) :
    ∃ type name last, tree.HasParts type name last := by
  have fits := parameter.toIsShaped.fits_self
  simp only [Tree.fits, parameter.kind] at fits
  split at fits
  · rename_i type name rest left
    simp only [Bool.and_eq_true, beq_iff_eq, decide_eq_true_eq, List.all_eq_true] at fits
    obtain ⟨⟨⟨⟨⟨isType, typeLabel⟩, isName⟩, nameLabel⟩, single⟩, isBrackets⟩ := fits
    refine ⟨type, name, rest.head?, ?_⟩
    have listed : rest = rest.head?.toList := by
      cases rest with
      | nil => rfl
      | cons brackets others =>
        rw [List.length_cons] at single
        obtain rfl : others = [] := List.length_eq_zero_iff.1 (by omega)
        rfl
    exact
      { left := by rw [left, ← listed]
        isType
        type_label := typeLabel
        isName
        name_label := nameLabel
        isBrackets := fun brackets h => isBrackets brackets (List.mem_of_mem_head? h) }
  · cases fits

section Parts

variable {type name : Tree} {last : Option Tree}

theorem HasParts.mem_kept (parts : tree.HasParts type name last) {child : Tree}
    (h : child ∈ type :: name :: last.toList) : child ∈ tree.kept := by
  rw [← parts.left] at h
  exact (List.mem_filter.1 h).1

/-- The nodes of some kinds in a parameter are those in its type and in the brackets behind it. -/
theorem HasParts.ofKinds_eq {kinds : Kind → Bool} (parts : tree.HasParts type name last)
    (shape : tree.IsShaped source) (own : kinds tree.kind = false)
    (others : ∀ kind, kinds kind = true →
      kind ≠ .token ∧ kind ≠ .identifier ∧ kind ≠ .modifiers) :
    tree.ofKinds kinds =
      type.ofKinds kinds ++ if kinds .dimensions then last.toList else [] := by
  have none {kind : Kind} (h : kind = .token ∨ kind = .identifier ∨ kind = .modifiers) :
      kinds kind = false := by
    cases isIn : kinds kind with
    | true =>
      obtain ⟨token, identifier, modifiers⟩ := others kind isIn
      rcases h with h | h | h <;> contradiction
    | false => rfl
  have token : kinds .token = false := none (.inl rfl)
  have modifiers (child : Tree) (h : child ∈ tree.kept) (kind : child.kind = .modifiers) :
      child.ofKinds kinds = [] := by
    have childShape := shape.of_kept h
    have tokens : ∀ word ∈ child.kept, word.kind = .token := by
      have fits := childShape.fits_self
      simpa only [Tree.fits, kind, List.all_eq_true, beq_iff_eq] using fits
    rw [childShape.ofKinds_tokens tokens token, kind, none (.inr (.inr rfl))]
    rfl
  have left : tree.kept.flatMap (ofKinds kinds) =
      (type :: name :: last.toList).flatMap (ofKinds kinds) := by
    rw [← parts.left]
    exact (flatMap_filter_of_nil fun child h isModifiers =>
      modifiers child h (by simpa using isModifiers)).symm
  have nameShape : name.IsShaped source := shape.of_kept (parts.mem_kept (by simp))
  have nameNone : name.ofKinds kinds = [] := by
    rw [ofKinds_leaf kinds nameShape.own (nameShape.children_leaf (.inr (.inr (.inl parts.isName)))),
      parts.isName, none (.inr (.inl rfl))]
    rfl
  have lastOnly : last.toList.flatMap (ofKinds kinds) =
      if kinds .dimensions then last.toList else [] := by
    cases last with
    | none => simp
    | some brackets =>
      have isBrackets := (parts.isBrackets brackets rfl).1
      have shaped : brackets.IsShaped source := shape.of_kept (parts.mem_kept (by simp))
      have tokens := fun child h => ((shaped.bracketTokens isBrackets).1 child h).1
      rw [Option.toList_some, List.flatMap_singleton, shaped.ofKinds_tokens tokens token, isBrackets]
  rw [Tree.ofKinds_eq kinds shape.own, own, left, List.flatMap_cons, List.flatMap_cons, nameNone,
    lastOnly]
  rfl

/-- The first part of a parameter in a role is not among its modifiers. -/
theorem HasParts.find?_eq (parts : tree.HasParts type name last) (shape : tree.IsShaped source)
    (label : Label) :
    tree.kept.find? (fun child => child.label == some label) =
      (type :: name :: last.toList).find? fun child => child.label == some label := by
  rw [← parts.left]
  refine (find?_filter_of_imp fun child below h => ?_).symm
  rw [bne_iff_ne]
  intro kind
  have inside := (mem_kept_iff.1 below).1
  rw [shape.unlabelled tree (mem_skeleton_self shape.own) child inside (.inr kind)] at h
  cases h

theorem HasParts.find?_parts (parts : tree.HasParts type name last) (shape : tree.IsShaped source) :
    tree.kept.find? (fun child => child.label == some .type) = some type ∧
      tree.kept.find? (fun child => child.label == some .name) = some name ∧
      tree.kept.find? (fun child => child.label == some .dimensions) = last := by
  rw [parts.find?_eq shape, parts.find?_eq shape, parts.find?_eq shape]
  refine ⟨?_, ?_, ?_⟩
  · simp [parts.type_label]
  · simp [parts.type_label, parts.name_label]
  · cases last with
    | none => simp [parts.type_label, parts.name_label]
    | some brackets =>
      simp [parts.type_label, parts.name_label, (parts.isBrackets brackets rfl).2]

theorem HasParts.hasElement (parts : tree.HasParts type name last) (shape : tree.IsShaped source)
    (kind : tree.kind = .formalParameter) : tree.HasElement type := by
  have lists {kinds : Kind → Bool} (own : kinds .formalParameter = false)
      (brackets : kinds .dimensions = false) (others : ∀ kind, kinds kind = true →
        kind ≠ .token ∧ kind ≠ .identifier ∧ kind ≠ .modifiers) :
      tree.ofKinds kinds = type.ofKinds kinds := by
    simp [parts.ofKinds_eq shape (by rw [kind, own]) others, brackets]
  refine ⟨lists rfl rfl fun kind h => ?_, lists rfl rfl fun kind h => ?_,
    lists rfl rfl fun kind h => ?_⟩
  · rcases Kind.isPrimitive_iff.1 h with rfl | rfl | rfl <;> decide
  · obtain rfl := beq_iff_eq.1 h
    decide
  · obtain rfl := beq_iff_eq.1 h
    decide

theorem HasParts.brackets_eq (parts : tree.HasParts type name last) (shape : tree.IsShaped source)
    (kind : tree.kind = .formalParameter) : tree.brackets = type.brackets ++ last.toList := by
  refine parts.ofKinds_eq shape (by rw [kind]; rfl) fun kind h => ?_
  obtain rfl := beq_iff_eq.1 h
  decide

end Parts

/-- Brackets behind the name of a parameter come on top of those of its type. -/
theorem formalParameter?_of_parts {text : List Char} {type name : Tree} {last : Option Tree}
    {element : TypeExpr} {rank : Nat} (isType : tree.labelled? .type = some type)
    (isName : tree.labelled? .name = some name) (isLast : tree.labelled? .dimensions = last)
    (plain : element.isArray = false) (read : typeExpr text type = element.ofRank rank) :
    formalParameter? text tree =
      some ⟨name.text text, element.ofRank (rank + (last.toList.map (bracketCount text)).sum)⟩ := by
  rw [formalParameter?, labelledText?, isName, isType, isLast]
  cases last with
  | none => simp [read]
  | some brackets =>
    simp [read, TypeExpr.arrayOf_ofRank plain rank (one_le_bracketCount text brackets)]

/-- How a parameter is read, as it is and without decorations, from any text. -/
theorem IsParameter.formalParameter?_eq (parameter : tree.IsParameter source) {name : Tree}
    (isName : tree.labelled? .name = some name) (text : List Char) :
    formalParameter? text tree =
        some ⟨name.text text,
          (tree.elementType text (tree.isVar text && !tree.hasArguments)).ofRank
            (tree.brackets.map (bracketCount text)).sum⟩ ∧
      formalParameter? text tree.bare =
        some ⟨name.text text,
          (tree.elementType text (tree.isVar text)).ofRank
            (tree.brackets.map fun brackets => bracketCount text brackets.bare).sum⟩ := by
  obtain ⟨type, own, last, parts⟩ := parameter.exists_parts
  have shape := parameter.toIsShaped
  have typeShape : type.IsShaped source := shape.of_kept (parts.mem_kept (by simp))
  have ownShape : own.IsShaped source := shape.of_kept (parts.mem_kept (by simp))
  have read := typeShape.isRead parts.isType text
  have same := parts.hasElement shape parameter.kind
  have plain : tree.kind.wraps = false := by rw [parameter.kind]; rfl
  obtain ⟨isType, isOwn, isLast⟩ := parts.find?_parts shape
  obtain rfl : own = name := by
    rw [shape.labelled?_eq, isOwn] at isName
    exact Option.some.inj isName
  have leaf := bare_of_leaf (ownShape.children_leaf (.inr (.inr (.inl parts.isName))))
  rw [same.isVar_eq, same.hasArguments_eq, same.elementType_eq, same.elementType_eq,
    parts.brackets_eq shape parameter.kind, List.map_append, List.map_append, List.sum_append,
    List.sum_append]
  constructor
  · exact formalParameter?_of_parts (by rw [shape.labelled?_eq, isType])
      (by rw [shape.labelled?_eq, isOwn]) (by rw [shape.labelled?_eq, isLast])
      (isArray_elementType ..) read.written
  · have bareLast : last.toList.map (fun brackets => bracketCount text brackets.bare) =
        (last.map bare).toList.map (bracketCount text) := by
      cases last <;> rfl
    rw [bareLast]
    exact formalParameter?_of_parts (by rw [labelled?_bare plain, isType]; rfl)
      (by rw [labelled?_bare plain, isOwn, Option.map_some, leaf])
      (by rw [labelled?_bare plain, isLast]) (isArray_elementType ..) read.bare

/-! ## The text without decorations -/

theorem IsParameter.text_bareText (parameter : tree.IsParameter source) {node : Tree}
    (inside : node ∈ tree.skeleton)
    (kind : node.kind.isPrimitive = true ∨ node.kind = .token ∨ node.kind = .identifier ∨
      node.kind = .typeIdentifier) :
    node.span.text (tree.bareText source) = node.span.text source :=
  parameter.toIsOrdered.text_bareText inside
    ((parameter.toIsShaped.of_mem inside).children_leaf kind) source

theorem IsParameter.identifiers_bareText (parameter : tree.IsParameter source) :
    tree.identifiers (tree.bareText source) = tree.identifiers source := by
  refine List.map_congr_left fun node h => ?_
  obtain ⟨inside, kind⟩ := List.mem_filter.1 h
  rw [text, text, parameter.text_bareText inside (.inr (.inr (.inr (beq_iff_eq.1 kind))))]

theorem IsParameter.isVar_bareText (parameter : tree.IsParameter source) :
    tree.isVar (tree.bareText source) = tree.isVar source := by
  rw [isVar, isVar, parameter.identifiers_bareText]

theorem IsParameter.elementType_bareText (parameter : tree.IsParameter source) (inferred : Bool) :
    tree.elementType (tree.bareText source) inferred = tree.elementType source inferred := by
  rw [elementType, elementType, parameter.identifiers_bareText]
  cases keywords : tree.ofKinds Kind.isPrimitive with
  | nil => rfl
  | cons keyword rest =>
    have listed : keyword ∈ tree.ofKinds Kind.isPrimitive := by simp [keywords]
    obtain ⟨inside, kind⟩ := List.mem_filter.1 listed
    have same : keyword.compactText (tree.bareText source) = keyword.compactText source := by
      rw [compactText, compactText, parameter.text_bareText inside (.inl kind)]
    dsimp only
    rw [primitiveExpr, primitiveExpr, spelledName, spelledName, same]

theorem IsParameter.brackets_spec (parameter : tree.IsParameter source) :
    (tree.brackets.map (bracketCount source)).sum =
        (tree.brackets.map (pairs source)).sum + (tree.brackets.map (hidden source)).sum ∧
      (tree.brackets.map fun brackets => bracketCount (tree.bareText source) brackets.bare).sum =
        (tree.brackets.map (pairs source)).sum := by
  have each (brackets : Tree) (h : brackets ∈ tree.brackets) :
      bracketCount source brackets = brackets.pairs source + brackets.hidden source ∧
        bracketCount (tree.bareText source) brackets.bare = brackets.pairs source := by
    obtain ⟨inside, kind⟩ := List.mem_filter.1 h
    have shape := parameter.toIsShaped.of_mem inside
    have ordered := parameter.toIsOrdered.of_mem (skeleton_subset_nodes _ inside)
    exact ⟨shape.bracketCount_eq ordered (beq_iff_eq.1 kind),
      shape.bracketCount_bare parameter.toIsOrdered inside (beq_iff_eq.1 kind)⟩
  rw [List.map_congr_left fun brackets h => (each brackets h).1,
    List.map_congr_left fun brackets h => (each brackets h).2]
  exact ⟨List.sum_map_add, rfl⟩

/-- Type arguments change an element only if they stand behind the lone word for an inferred type. -/
theorem elementType_eq_iff (tree : Tree) (text : List Char) :
    tree.elementType text (tree.isVar text && !tree.hasArguments) =
        tree.elementType text (tree.isVar text) ↔
      ¬(tree.isVar text = true ∧ tree.hasArguments = true) := by
  cases tree.isVar text with
  | false => simp
  | true =>
    cases tree.hasArguments with
    | false => simp
    | true =>
      have other : tree.elementType text false ≠ .inferred := by
        rw [elementType, if_neg Bool.false_ne_true]
        split
        · rw [primitiveExpr]
          split <;> simp [spelledName]
        · simp
      simpa [elementType] using other

end Tree

/-- A parameter is read as the array of its element type, with a dimension for each pair of brackets of
the type and of those behind the name. Type arguments, annotations and comments are without effect on
it but for two cases: an opening bracket in a comment or an annotation among the brackets counts as
one more dimension, and type arguments make a name of the lone word for an inferred type. -/
theorem formalParameter?_bare_eq {source : List Char} {tree : Tree}
    (parameter : tree.IsParameter source) :
    ∃ name, tree.labelledText? source .name = some name ∧
      formalParameter? source tree =
        some ⟨name, (tree.elementType source (tree.isVar source && !tree.hasArguments)).ofRank
          ((tree.brackets.map (Tree.pairs source)).sum +
            (tree.brackets.map (Tree.hidden source)).sum)⟩ ∧
      formalParameter? (tree.bareText source) tree.bare =
        some ⟨name, (tree.elementType source (tree.isVar source)).ofRank
          (tree.brackets.map (Tree.pairs source)).sum⟩ ∧
      (formalParameter? source tree = formalParameter? (tree.bareText source) tree.bare ↔
        (∀ brackets ∈ tree.brackets, brackets.hidden source = 0) ∧
          ¬(tree.isVar source = true ∧ tree.hasArguments = true)) := by
  obtain ⟨type, name, last, parts⟩ := parameter.exists_parts
  have shape := parameter.toIsShaped
  have isName : tree.labelled? .name = some name := by
    rw [shape.labelled?_eq, (parts.find?_parts shape).2.1]
  have sameName : name.text (tree.bareText source) = name.text source := by
    have listed : name ∈ tree.kept := parts.mem_kept (by simp)
    have inside := Tree.mem_skeleton_of_kept (Tree.mem_skeleton_self shape.own) listed
    rw [Tree.text, Tree.text, parameter.text_bareText inside (.inr (.inr (.inl parts.isName)))]
  have written := (parameter.formalParameter?_eq isName source).1
  have bare := (parameter.formalParameter?_eq isName (tree.bareText source)).2
  rw [parameter.brackets_spec.1] at written
  rw [sameName, parameter.elementType_bareText, parameter.isVar_bareText,
    parameter.brackets_spec.2] at bare
  refine ⟨name.text source, by rw [Tree.labelledText?, isName, Option.map_some], written, bare, ?_⟩
  rw [written, bare, Option.some.injEq, Parameter.mk.injEq,
    TypeExpr.ofRank_eq_iff (Tree.isArray_elementType ..) (Tree.isArray_elementType ..),
    Tree.elementType_eq_iff, Nat.add_eq_left, List.sum_eq_zero_iff_forall_eq_nat, List.forall_mem_map]
  simp only [true_and]
  exact and_comm

/-- The first parameter of a method in a text. -/
def firstParameter (source : List Char) : Tree :=
  ((parse source).nodes.find? (·.kind == .formalParameter)).getD default

/-- A parameter with decorations in all places, also with a bracket in front of the brackets. -/
def decorated : List Char :=
  "interface A { void f(@N final a . @N B<C[]>.D<@M E> /*[*/ @S(1) [/**/] [] x /**/ @T [ ]); }".toList

theorem formalParameter?_bare_eq_decorated :
    (firstParameter decorated).IsParameter decorated ∧
      formalParameter? decorated (firstParameter decorated) =
        some ⟨"x", .array (.named ⟨["a", "B", "D"]⟩) 3⟩ ∧
      formalParameter? decorated (firstParameter decorated) =
        formalParameter? ((firstParameter decorated).bareText decorated)
          (firstParameter decorated).bare := by
  have parameter : (firstParameter decorated).IsParameter decorated := by decide +kernel
  obtain ⟨_, _, _, _, same⟩ := formalParameter?_bare_eq parameter
  exact ⟨parameter, by decide +kernel, same.2 (by decide +kernel)⟩

/-- A parameter with a bracket in a comment between its brackets. -/
def commented : List Char :=
  "interface A { void f(int[/*[*/] x); }".toList

/-- The comment counts as a dimension. -/
theorem comment_adds_dimension :
    (firstParameter commented).IsParameter commented ∧
      formalParameter? commented (firstParameter commented) =
        some ⟨"x", .array (.primitive .int) 2⟩ ∧
      formalParameter? ((firstParameter commented).bareText commented)
          (firstParameter commented).bare =
        some ⟨"x", .array (.primitive .int) 1⟩ := by
  decide +kernel

end ClassCatalog.Java
