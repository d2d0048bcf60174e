import ClassCatalog.Proofs.Java.Decorations

/-!
# The shape of types

Types of primitive types, dotted names with or without type arguments, annotated types and arrays
(`Tree.IsShaped`).  The nodes of a kind outside of decorations (`Tree.ofKinds`) tell what such a type is
read as: its keyword or its identifiers give the element type, its nodes of brackets the dimensions,
and this is so also without its decorations (`Tree.IsRead`).
-/

namespace ClassCatalog

/-! ## Arrays by rank -/

namespace TypeExpr

/-- Whether a type is an array. -/
def isArray : TypeExpr → Bool
  | array _ _ => true
  | _ => false

/-- The array of an element type with a number of dimensions, the element itself if there are none. -/
def ofRank (element : TypeExpr) (rank : Nat) : TypeExpr :=
  if rank = 0 then element else element.arrayOf rank

theorem arrayOf_eq {element : TypeExpr} (plain : element.isArray = false) (dimensions : Nat) :
    element.arrayOf dimensions = array element dimensions := by
  cases element <;> first | rfl | cases plain

theorem arrayOf_ofRank {element : TypeExpr} (plain : element.isArray = false) (rank : Nat)
    {dimensions : Nat} (positive : 1 ≤ dimensions) :
    (element.ofRank rank).arrayOf dimensions = element.ofRank (rank + dimensions) := by
  have total : rank + dimensions ≠ 0 := by omega
  rw [ofRank, ofRank, if_neg total, arrayOf_eq plain, arrayOf_eq plain]
  split
  · rename_i zero
    rw [zero, Nat.zero_add, arrayOf_eq plain]
  · rfl

theorem ofRank_eq_iff {element other : TypeExpr} (plain : element.isArray = false)
    (plain' : other.isArray = false) {rank rank' : Nat} :
    element.ofRank rank = other.ofRank rank' ↔ element = other ∧ rank = rank' := by
  rw [ofRank, ofRank, arrayOf_eq plain, arrayOf_eq plain']
  split <;> split
  · simp_all
  · constructor
    · rintro rfl
      cases plain
    · omega
  · constructor
    · rintro rfl
      cases plain'
    · omega
  · rw [array.injEq]

end TypeExpr

namespace Java

/-! ## What a type consists of -/

/-- Whether nodes of the kind are keywords of primitive types. -/
def Kind.isPrimitive : Kind → Bool
  | integralType => true
  | floatingPointType => true
  | booleanType => true
  | _ => false

/-- Whether nodes of the kind are names of types. -/
def Kind.isName : Kind → Bool
  | typeIdentifier => true
  | scopedTypeIdentifier => true
  | genericType => true
  | _ => false

/-- Whether nodes of the kind are types a parameter may have. -/
def Kind.isParameterType (kind : Kind) : Bool :=
  kind.isPrimitive || kind.isName || kind == .annotatedType || kind == .arrayType

namespace Tree

/-- The nodes of some kinds outside of decorations. -/
def ofKinds (kinds : Kind → Bool) (tree : Tree) : List Tree :=
  tree.skeleton.filter fun node => kinds node.kind

/-- The identifiers of a type, in order. -/
def identifiers (source : List Char) (tree : Tree) : List String :=
  (tree.ofKinds (· == .typeIdentifier)).map (text source)

/-- The brackets of a type and of the parameter it belongs to. -/
def brackets (tree : Tree) : List Tree :=
  tree.ofKinds (· == .dimensions)

/-- Whether some name in a type has type arguments. -/
def hasArguments (tree : Tree) : Bool :=
  !(tree.ofKinds (· == .genericType)).isEmpty

/-- The type without its brackets: an inferred one, a primitive type, or what its identifiers name. -/
def elementType (source : List Char) (tree : Tree) (inferred : Bool) : TypeExpr :=
  if inferred then .inferred
  else
    match tree.ofKinds Kind.isPrimitive with
    | keyword :: _ => primitiveExpr source keyword
    | [] => .named ⟨tree.identifiers source⟩

/-- Whether the one identifier of a type is the word that asks for an inferred type. -/
def isVar (source : List Char) (tree : Tree) : Bool :=
  tree.identifiers source == ["var"]

/-- How many pairs of brackets stand in a node of them. -/
def pairs (source : List Char) (brackets : Tree) : Nat :=
  brackets.kept.countP fun token => token.text source == "["

/-- How many opening brackets the decorations in a node of brackets hold. -/
def hidden (source : List Char) (brackets : Tree) : Nat :=
  ((brackets.children.filter isDecoration).map fun child =>
    (child.span.text source).count '[').sum

/-! ## The shape of a parameter -/

/-- Whether a node outside of decorations has the children that its kind calls for. -/
def fits (source : List Char) (tree : Tree) : Bool :=
  match tree.kind with
  | .token | .identifier | .typeIdentifier => tree.children.isEmpty
  | .integralType | .floatingPointType | .booleanType => tree.children.isEmpty
  | .scopedTypeIdentifier =>
    match tree.kept with
    | [outer, dot, inner] =>
      outer.kind.isName && dot.kind == .token && inner.kind == .typeIdentifier
    | _ => false
  | .genericType =>
    match tree.kept with
    | [name] => name.kind.isName
    | _ => false
  | .annotatedType =>
    match tree.kept with
    | [type] => type.kind.isParameterType
    | _ => false
  | .arrayType =>
    match tree.kept with
    | [element, brackets] =>
      element.kind.isParameterType && element.label == some .element &&
        brackets.kind == .dimensions && brackets.label == some .dimensions
    | _ => false
  | .dimensions =>
    tree.kept.all (fun token =>
        token.kind == .token && (token.text source == "[" || token.text source == "]")) &&
      tree.kept.any (fun token => token.text source == "[") &&
      (List.range source.length).all fun position =>
        !(tree.span.contains position && source[position]? == some '[') ||
          tree.children.any (·.span.contains position)
  | .modifiers => tree.kept.all (·.kind == .token)
  | .formalParameter =>
    match tree.kept.filter (·.kind != .modifiers) with
    | type :: name :: rest =>
      type.kind.isParameterType && type.label == some .type && name.kind == .identifier &&
        name.label == some .name && rest.length ≤ 1 &&
        rest.all fun brackets =>
          brackets.kind == .dimensions && brackets.label == some .dimensions
    | _ => false
  | _ => false

/-! ## Nodes of a kind -/

theorem ofKinds_eq (kinds : Kind → Bool) {tree : Tree} (own : tree.isDecoration = false) :
    tree.ofKinds kinds =
      (if kinds tree.kind then [tree] else []) ++ tree.kept.flatMap (ofKinds kinds) := by
  rw [ofKinds, skeleton_eq own, List.filter_cons, List.filter_flatMap]
  split <;> rfl

theorem ofKinds_leaf (kinds : Kind → Bool) {tree : Tree} (own : tree.isDecoration = false)
    (empty : tree.children = []) :
    tree.ofKinds kinds = if kinds tree.kind then [tree] else [] := by
  rw [ofKinds_eq kinds own, kept, empty]
  simp

/-- A node outside of decorations in which all such nodes have the children they call for. -/
structure IsShaped (source : List Char) (tree : Tree) : Prop where
  own : tree.isDecoration = false
  fits : ∀ node ∈ tree.skeleton, node.fits source = true
  unlabelled : ∀ node ∈ tree.skeleton, ∀ child ∈ node.children,
    child.isDecoration = true ∨ child.kind = .modifiers → child.label = none

instance (source : List Char) (tree : Tree) : Decidable (tree.IsShaped source) :=
  decidable_of_iff (_ ∧ _ ∧ _)
    ⟨fun ⟨own, fits, unlabelled⟩ => ⟨own, fits, unlabelled⟩,
      fun shape => ⟨shape.own, shape.fits, shape.unlabelled⟩⟩

variable {source : List Char} {tree : Tree}

theorem IsShaped.of_mem (shape : tree.IsShaped source) {node : Tree} (h : node ∈ tree.skeleton) :
    node.IsShaped source where
  own := isDecoration_of_mem_skeleton h
  fits inner inside := shape.fits inner (skeleton_subset h inside)
  unlabelled inner inside := shape.unlabelled inner (skeleton_subset h inside)

theorem IsShaped.of_kept (shape : tree.IsShaped source) {child : Tree} (below : child ∈ tree.kept) :
    child.IsShaped source :=
  shape.of_mem (mem_skeleton_of_kept (mem_skeleton_self shape.own) below)

theorem IsShaped.fits_self (shape : tree.IsShaped source) : tree.fits source = true :=
  shape.fits tree (mem_skeleton_self shape.own)

theorem IsShaped.children_leaf (shape : tree.IsShaped source)
    (kind : tree.kind.isPrimitive = true ∨ tree.kind = .token ∨ tree.kind = .identifier ∨
      tree.kind = .typeIdentifier) : tree.children = [] := by
  have fits := shape.fits_self
  unfold Tree.fits at fits
  split at fits <;> simp_all [Kind.isPrimitive]

theorem IsShaped.scoped (shape : tree.IsShaped source) (kind : tree.kind = .scopedTypeIdentifier) :
    ∃ outer dot inner, tree.kept = [outer, dot, inner] ∧ outer.kind.isName = true ∧
      dot.kind = .token ∧ inner.kind = .typeIdentifier := by
  have fits := shape.fits_self
  simp only [Tree.fits, kind] at fits
  split at fits
  · rename_i outer dot inner left
    simp only [Bool.and_eq_true, beq_iff_eq] at fits
    exact ⟨outer, dot, inner, left, fits.1.1, fits.1.2, fits.2⟩
  · cases fits

theorem IsShaped.generic (shape : tree.IsShaped source) (kind : tree.kind = .genericType) :
    ∃ name, tree.kept = [name] ∧ name.kind.isName = true := by
  have fits := shape.fits_self
  simp only [Tree.fits, kind] at fits
  split at fits
  · rename_i name left
    exact ⟨name, left, fits⟩
  · cases fits

theorem IsShaped.annotated (shape : tree.IsShaped source) (kind : tree.kind = .annotatedType) :
    ∃ type, tree.kept = [type] ∧ type.kind.isParameterType = true := by
  have fits := shape.fits_self
  simp only [Tree.fits, kind] at fits
  split at fits
  · rename_i type left
    exact ⟨type, left, fits⟩
  · cases fits

theorem IsShaped.array (shape : tree.IsShaped source) (kind : tree.kind = .arrayType) :
    ∃ element brackets, tree.kept = [element, brackets] ∧ element.kind.isParameterType = true ∧
      element.label = some .element ∧ brackets.kind = .dimensions ∧
      brackets.label = some .dimensions := by
  have fits := shape.fits_self
  simp only [Tree.fits, kind] at fits
  split at fits
  · rename_i element brackets left
    simp only [Bool.and_eq_true, beq_iff_eq] at fits
    exact ⟨element, brackets, left, fits.1.1.1, fits.1.1.2, fits.1.2, fits.2⟩
  · cases fits

/-- What is left in a node of brackets are the brackets, with every opening bracket of the text in
some child. -/
theorem IsShaped.bracketTokens (shape : tree.IsShaped source) (kind : tree.kind = .dimensions) :
    (∀ token ∈ tree.kept, token.kind = .token ∧
        (token.text source = "[" ∨ token.text source = "]")) ∧
      (∃ token ∈ tree.kept, token.text source = "[") ∧
      ∀ position, tree.span.contains position = true → source[position]? = some '[' →
        ∃ child ∈ tree.children, child.span.contains position = true := by
  have fits := shape.fits_self
  simp only [Tree.fits, kind, Bool.and_eq_true, List.all_eq_true, List.any_eq_true, beq_iff_eq,
    Bool.or_eq_true, List.mem_range] at fits
  obtain ⟨⟨tokens, opened⟩, only⟩ := fits
  refine ⟨tokens, opened, fun position inside isOpen => ?_⟩
  have bound : position < source.length := (List.getElem?_eq_some_iff.1 isOpen).1
  exact (only position bound).resolve_left (by simp [inside, isOpen])

/-! ## Nodes of some kinds in a type -/

section Kinds

variable {kinds : Kind → Bool}

theorem IsShaped.ofKinds_token (shape : tree.IsShaped source) (kind : tree.kind = .token)
    (token : kinds .token = false) : tree.ofKinds kinds = [] := by
  rw [ofKinds_leaf kinds shape.own (shape.children_leaf (.inr (.inl kind))), kind, token]
  rfl

theorem IsShaped.ofKinds_scoped (shape : tree.IsShaped source) {outer dot inner : Tree}
    (left : tree.kept = [outer, dot, inner]) (isDot : dot.kind = .token)
    (own : kinds tree.kind = false) (token : kinds .token = false) :
    tree.ofKinds kinds = outer.ofKinds kinds ++ inner.ofKinds kinds := by
  have shaped : dot.IsShaped source := shape.of_kept (by simp [left])
  simp [ofKinds_eq kinds shape.own, left, own, shaped.ofKinds_token isDot token]

theorem IsShaped.ofKinds_single (shape : tree.IsShaped source) {inner : Tree}
    (left : tree.kept = [inner]) (own : kinds tree.kind = false) :
    tree.ofKinds kinds = inner.ofKinds kinds := by
  simp [ofKinds_eq kinds shape.own, left, own]

theorem IsShaped.ofKinds_tokens (shape : tree.IsShaped source)
    (tokens : ∀ child ∈ tree.kept, child.kind = .token) (token : kinds .token = false) :
    tree.ofKinds kinds = if kinds tree.kind then [tree] else [] := by
  have none : tree.kept.flatMap (ofKinds kinds) = [] := by
    rw [List.flatMap_eq_nil_iff]
    exact fun child h => (shape.of_kept h).ofKinds_token (tokens child h) token
  rw [ofKinds_eq kinds shape.own, none, List.append_nil]

theorem IsShaped.ofKinds_array (shape : tree.IsShaped source) {element brackets : Tree}
    (left : tree.kept = [element, brackets]) (isBrackets : brackets.kind = .dimensions)
    (own : kinds tree.kind = false) (token : kinds .token = false) :
    tree.ofKinds kinds =
      element.ofKinds kinds ++ if kinds .dimensions then [brackets] else [] := by
  have shaped : brackets.IsShaped source := shape.of_kept (by simp [left])
  have tokens := fun child h => ((shaped.bracketTokens isBrackets).1 child h).1
  rw [ofKinds_eq kinds shape.own, left, own, List.flatMap_cons, List.flatMap_singleton,
    shaped.ofKinds_tokens tokens token, isBrackets]
  rfl

end Kinds

end Tree

/-! ## Names -/

theorem Kind.isName_iff {kind : Kind} : kind.isName = true ↔
    kind = .typeIdentifier ∨ kind = .scopedTypeIdentifier ∨ kind = .genericType := by
  unfold Kind.isName
  split <;> simp_all

theorem Kind.isTypeName_of_isName {kind : Kind} (name : kind.isName = true) :
    kind.isTypeName = true := by
  rcases Kind.isName_iff.1 name with rfl | rfl | rfl <;> rfl

theorem Tree.not_isTypeName_of_isDecoration {tree : Tree} (h : tree.isDecoration = true) :
    tree.kind.isTypeName = false := by
  unfold Tree.isDecoration Kind.isDecoration at h
  unfold Kind.isTypeName
  split at h <;> split <;> simp_all

theorem nameSegments_kept (text : List Char) (tree : Tree) :
    nameSegments text tree.children = nameSegments text tree.kept := by
  rw [Tree.kept]
  induction tree.children with
  | nil => rfl
  | cons child rest ih =>
    cases h : child.isDecoration with
    | true => simp [nameSegments, h, Tree.not_isTypeName_of_isDecoration h, ih]
    | false => simp [nameSegments, h, ih]

theorem typeSegments_leaf (text : List Char) {tree : Tree} (kind : tree.kind = .typeIdentifier) :
    typeSegments text tree = [tree.text text] := by
  cases tree with
  | node own label span children =>
    obtain rfl : own = .typeIdentifier := kind
    rw [typeSegments]

theorem typeSegments_name (text : List Char) {tree : Tree}
    (kind : tree.kind = .scopedTypeIdentifier ∨ tree.kind = .genericType) :
    typeSegments text tree = nameSegments text tree.kept := by
  rw [← nameSegments_kept]
  cases tree with
  | node own label span children =>
    rcases kind with rfl | rfl <;> rw [typeSegments] <;> rfl

theorem nameSegments_dotted (text : List Char) {outer dot inner : Tree}
    (isOuter : outer.kind.isTypeName = true) (isDot : dot.kind = .token)
    (isInner : inner.kind = .typeIdentifier) :
    nameSegments text [outer, dot, inner] = typeSegments text outer ++ [inner.text text] := by
  have noName : dot.kind.isTypeName = false := by rw [isDot]; rfl
  have isName : inner.kind.isTypeName = true := by rw [isInner]; rfl
  simp [nameSegments, isOuter, noName, isName, typeSegments_leaf text isInner]

theorem typeSegments_withLabel (text : List Char) (tree : Tree) (label : Option Label) :
    typeSegments text (tree.withLabel label) = typeSegments text tree := by
  cases tree with
  | node kind own span children =>
    rw [Tree.withLabel]
    unfold typeSegments
    rfl

namespace Tree

variable {source : List Char} {tree : Tree}

theorem IsShaped.identifiers_leaf (shape : tree.IsShaped source)
    (kind : tree.kind = .typeIdentifier) (text : List Char) :
    tree.identifiers text = [tree.text text] := by
  rw [identifiers, ofKinds_leaf _ shape.own (shape.children_leaf (.inr (.inr (.inr kind)))), kind]
  rfl

theorem IsShaped.identifiers_scoped (shape : tree.IsShaped source)
    (kind : tree.kind = .scopedTypeIdentifier) {outer dot inner : Tree}
    (left : tree.kept = [outer, dot, inner]) (isDot : dot.kind = .token)
    (isInner : inner.kind = .typeIdentifier) (text : List Char) :
    tree.identifiers text = outer.identifiers text ++ [inner.text text] := by
  have innerShape : inner.IsShaped source := shape.of_kept (by simp [left])
  have last := innerShape.identifiers_leaf isInner text
  rw [identifiers] at last
  rw [identifiers, shape.ofKinds_scoped left isDot (by rw [kind]; rfl) rfl, List.map_append, last]
  rfl

theorem IsShaped.identifiers_single (shape : tree.IsShaped source) {inner : Tree}
    (left : tree.kept = [inner]) (kind : tree.kind ≠ .typeIdentifier) (text : List Char) :
    tree.identifiers text = inner.identifiers text := by
  rw [identifiers, shape.ofKinds_single left (by simpa using kind)]
  rfl

/-- The segments of a name are its identifiers. -/
theorem IsShaped.typeSegments_eq (shape : tree.IsShaped source) (name : tree.kind.isName = true)
    (text : List Char) : typeSegments text tree = tree.identifiers text := by
  induction tree using Tree.induction with
  | node own label span children ih =>
    rcases Kind.isName_iff.1 name with kind | kind | kind
    · rw [typeSegments_leaf text kind, shape.identifiers_leaf kind]
    · obtain ⟨outer, dot, inner, left, isOuter, isDot, isInner⟩ := shape.scoped kind
      have below : outer ∈ (Tree.node own label span children).kept := by simp [left]
      have first := ih outer (mem_kept_iff.1 below).1 (shape.of_kept below) isOuter
      have typeName := Kind.isTypeName_of_isName isOuter
      rw [typeSegments_name text (.inl kind), shape.identifiers_scoped kind left isDot isInner,
        left, nameSegments_dotted text typeName isDot isInner, first]
    · obtain ⟨inner, left, isInner⟩ := shape.generic kind
      have below : inner ∈ (Tree.node own label span children).kept := by simp [left]
      have first := ih inner (mem_kept_iff.1 below).1 (shape.of_kept below) isInner
      have typeName := Kind.isTypeName_of_isName isInner
      rw [typeSegments_name text (.inr kind), left, shape.identifiers_single left (by simp [kind])]
      simp [nameSegments, typeName, first]

/-- The bare form of a name. -/
inductive IsBareName (text : List Char) (tree : Tree) : Prop
  /-- It is an identifier. -/
  | lone (kind : tree.bare.kind = .typeIdentifier)
      (same : tree.identifiers text = [tree.bare.text text])
  /-- It has more than one segment. -/
  | dotted (kind : tree.bare.kind = .scopedTypeIdentifier)
      (same : typeSegments text tree.bare = tree.identifiers text)
      (more : 2 ≤ (tree.identifiers text).length)

theorem IsBareName.typeSegments_eq {text : List Char} (bare : tree.IsBareName text) :
    typeSegments text tree.bare = tree.identifiers text := by
  cases bare with
  | lone kind same => rw [typeSegments_leaf text kind, same]
  | dotted kind same more => exact same

theorem text_withLabel (text : List Char) (tree : Tree) (label : Option Label) :
    (tree.withLabel label).text text = tree.text text := by
  cases tree
  rfl

theorem IsShaped.isBareName (shape : tree.IsShaped source) (name : tree.kind.isName = true)
    (text : List Char) : tree.IsBareName text := by
  induction tree using Tree.induction with
  | node own label span children ih =>
    rcases Kind.isName_iff.1 name with kind | kind | kind
    · have leaf := bare_of_leaf (shape.children_leaf (.inr (.inr (.inr kind))))
      exact .lone (by rw [leaf, kind]) (by rw [leaf, shape.identifiers_leaf kind])
    · obtain ⟨outer, dot, inner, left, isOuter, isDot, isInner⟩ := shape.scoped kind
      have below : outer ∈ (Tree.node own label span children).kept := by simp [left]
      have first := ih outer (mem_kept_iff.1 below).1 (shape.of_kept below) isOuter
      have innerShape : inner.IsShaped source := shape.of_kept (by simp [left])
      have dotShape : dot.IsShaped source := shape.of_kept (by simp [left])
      have plain : (Tree.node own label span children).kind.wraps = false := by rw [kind]; rfl
      have same := shape.identifiers_scoped kind left isDot isInner text
      have typeName : outer.bare.kind.isTypeName = true := by
        cases first with
        | lone kind _ => rw [kind]; rfl
        | dotted kind _ _ => rw [kind]; rfl
      have some : 1 ≤ (outer.identifiers text).length := by
        cases first with
        | lone _ same => rw [same]; exact Nat.le_refl 1
        | dotted _ _ more => omega
      have dotBare := bare_of_leaf (dotShape.children_leaf (.inr (.inl isDot)))
      have innerBare := bare_of_leaf (innerShape.children_leaf (.inr (.inr (.inr isInner))))
      refine .dotted (by rw [kind_bare plain, kind]) ?_ ?_
      · rw [typeSegments_name text (.inl (by rw [kind_bare plain, kind])), ← nameSegments_kept,
          children_bare plain, left, same, List.map_cons, List.map_cons, List.map_singleton, dotBare,
          innerBare, nameSegments_dotted text typeName isDot isInner, first.typeSegments_eq]
      · rw [same, List.length_append, List.length_singleton]
        omega
    · obtain ⟨inner, left, isInner⟩ := shape.generic kind
      have below : inner ∈ (Tree.node own label span children).kept := by simp [left]
      have first := ih inner (mem_kept_iff.1 below).1 (shape.of_kept below) isInner
      have same := shape.identifiers_single left (by simp [kind]) text
      have bare := bare_of_wraps (by rw [kind]; rfl) left
      cases first with
      | lone isLone lone =>
        exact .lone (by rw [bare, kind_withLabel, isLone]) (by rw [same, lone, bare, text_withLabel])
      | dotted isDotted dotted more =>
        exact .dotted (by rw [bare, kind_withLabel, isDotted])
          (by rw [bare, typeSegments_withLabel, dotted, same]) (by rw [same]; exact more)

end Tree

/-! ## Types -/

theorem Tree.not_isType_of_isDecoration {tree : Tree} (h : tree.isDecoration = true) :
    tree.isType = false := by
  unfold Tree.isDecoration Kind.isDecoration at h
  unfold Tree.isType Kind.isType
  split at h <;> split <;> simp_all

theorem Kind.isType_of_isParameterType {kind : Kind} (type : kind.isParameterType = true) :
    kind.isType = true := by
  unfold Kind.isParameterType Kind.isPrimitive Kind.isName at type
  unfold Kind.isType
  split <;> simp_all

theorem typeExpr_withLabel (text : List Char) (tree : Tree) (label : Option Label) :
    typeExpr text (tree.withLabel label) = typeExpr text tree := by
  cases tree with
  | node kind own span children =>
    rw [Tree.withLabel]
    unfold typeExpr
    rfl

theorem Kind.isPrimitive_iff {kind : Kind} : kind.isPrimitive = true ↔
    kind = .integralType ∨ kind = .floatingPointType ∨ kind = .booleanType := by
  unfold Kind.isPrimitive
  split <;> simp_all

theorem typeExpr_primitive (text : List Char) {tree : Tree} (kind : tree.kind.isPrimitive = true) :
    typeExpr text tree = primitiveExpr text tree := by
  cases tree with
  | node own label span children =>
    rcases Kind.isPrimitive_iff.1 kind with rfl | rfl | rfl <;> rw [typeExpr]

theorem typeExpr_lone (text : List Char) {tree : Tree} (kind : tree.kind = .typeIdentifier) :
    typeExpr text tree =
      if tree.text text = "var" then .inferred else .named ⟨[tree.text text]⟩ := by
  rw [← typeSegments_leaf text kind]
  cases tree with
  | node own label span children =>
    obtain rfl : own = .typeIdentifier := kind
    rw [typeExpr]

theorem typeExpr_name (text : List Char) {tree : Tree}
    (kind : tree.kind = .scopedTypeIdentifier ∨ tree.kind = .genericType) :
    typeExpr text tree = .named ⟨typeSegments text tree⟩ := by
  cases tree with
  | node own label span children => rcases kind with rfl | rfl <;> rw [typeExpr]

theorem typeExpr_annotated (text : List Char) {tree type : Tree} (kind : tree.kind = .annotatedType)
    (left : tree.kept = [type]) (isType : type.isType = true) :
    typeExpr text tree = typeExpr text type := by
  have last : tree.children.reverse.find? Tree.isType = some type := by
    rw [← find?_filter_of_imp (p := (!·.isDecoration)), List.filter_reverse]
    · rw [show tree.children.filter (!·.isDecoration) = [type] from left]
      simp [isType]
    · intro child _ h
      cases d : child.isDecoration with
      | true => simp [Tree.not_isType_of_isDecoration d] at h
      | false => rfl
  cases tree with
  | node own label span children =>
    obtain rfl : own = .annotatedType := kind
    rw [typeExpr, lastTypeExpr?_eq]
    simp only [Tree.children] at last
    simp [last]

theorem typeExpr_array (text : List Char) {tree element brackets : Tree}
    (kind : tree.kind = .arrayType) (isElement : tree.labelled? .element = some element)
    (isBrackets : tree.labelled? .dimensions = some brackets) :
    typeExpr text tree = (typeExpr text element).arrayOf (bracketCount text brackets) := by
  cases tree with
  | node own label span children =>
    obtain rfl : own = .arrayType := kind
    have found : children.find? (·.label = some .element) = some element := by
      rw [← isElement, Tree.labelled?, Tree.children]
      congr 1
      funext child
      rw [Bool.eq_iff_iff]
      simp
    rw [typeExpr, isBrackets, elementExpr?_eq, found]
    rfl

namespace Tree

variable {source : List Char} {tree : Tree}

theorem IsShaped.labelled?_eq (shape : tree.IsShaped source) (label : Label) :
    tree.labelled? label = tree.kept.find? fun child => child.label == some label := by
  refine (find?_filter_of_imp fun child below h => ?_).symm
  cases d : child.isDecoration with
  | true =>
    rw [shape.unlabelled tree (mem_skeleton_self shape.own) child below (.inl d)] at h
    cases h
  | false => rfl

theorem labelled?_bare (plain : tree.kind.wraps = false) (label : Label) :
    tree.bare.labelled? label =
      (tree.kept.find? fun child => child.label == some label).map bare := by
  rw [labelled?, children_bare plain, List.find?_map]
  congr 2
  funext child
  rw [Function.comp_apply, label_bare]

theorem isArray_elementType (tree : Tree) (text : List Char) (inferred : Bool) :
    (tree.elementType text inferred).isArray = false := by
  rw [elementType]
  split
  · rfl
  · split
    · rw [primitiveExpr]
      split <;> rfl
    · rfl

/-- In a name there is nothing but identifiers, dots and other names. -/
theorem IsShaped.ofKinds_name {kinds : Kind → Bool} (shape : tree.IsShaped source)
    (name : tree.kind.isName = true) (none : ∀ kind, kinds kind = true → kind.isName = false)
    (token : kinds .token = false) : tree.ofKinds kinds = [] := by
  induction tree using Tree.induction with
  | node own label span children ih =>
    have other {kind : Kind} (h : kind.isName = true) : kinds kind = false := by
      cases isIn : kinds kind with
      | true => rw [none kind isIn] at h; cases h
      | false => rfl
    rcases Kind.isName_iff.1 name with kind | kind | kind
    · have leaf := shape.children_leaf (.inr (.inr (.inr kind)))
      rw [ofKinds_leaf kinds shape.own leaf, other name]
      rfl
    · obtain ⟨outer, dot, inner, left, isOuter, isDot, isInner⟩ := shape.scoped kind
      have below : outer ∈ (Tree.node own label span children).kept := by simp [left]
      have below' : inner ∈ (Tree.node own label span children).kept := by simp [left]
      have isName : inner.kind.isName = true := by rw [isInner]; rfl
      rw [shape.ofKinds_scoped left isDot (other name) token,
        ih outer (mem_kept_iff.1 below).1 (shape.of_kept below) isOuter,
        ih inner (mem_kept_iff.1 below').1 (shape.of_kept below') isName]
      rfl
    · obtain ⟨inner, left, isInner⟩ := shape.generic kind
      have below : inner ∈ (Tree.node own label span children).kept := by simp [left]
      rw [shape.ofKinds_single left (other name),
        ih inner (mem_kept_iff.1 below).1 (shape.of_kept below) isInner]

theorem IsShaped.elementType_name (shape : tree.IsShaped source) (name : tree.kind.isName = true)
    (text : List Char) (inferred : Bool) :
    tree.elementType text inferred =
      if inferred then .inferred else .named ⟨tree.identifiers text⟩ := by
  have none (kind : Kind) (h : kind.isPrimitive = true) : kind.isName = false := by
    rcases Kind.isPrimitive_iff.1 h with rfl | rfl | rfl <;> rfl
  rw [elementType, shape.ofKinds_name name none rfl]

theorem isVar_eq_false (text : List Char) (more : 2 ≤ (tree.identifiers text).length) :
    tree.isVar text = false := by
  rw [isVar, beq_eq_false_iff_ne]
  intro lone
  simp [lone] at more

/-- A name is read as its identifiers; only the lone word for an inferred type is not, and it is taken
as a name where it has type arguments. -/
theorem IsShaped.typeExpr_of_name (shape : tree.IsShaped source) (name : tree.kind.isName = true)
    (text : List Char) :
    typeExpr text tree = tree.elementType text (tree.isVar text && !tree.hasArguments) := by
  rw [shape.elementType_name name]
  have segments := shape.typeSegments_eq name text
  rcases Kind.isName_iff.1 name with kind | kind | kind
  · have leaf := shape.children_leaf (.inr (.inr (.inr kind)))
    have plain : tree.hasArguments = false := by
      rw [hasArguments, ofKinds_leaf _ shape.own leaf, kind]
      rfl
    rw [typeExpr_lone text kind, isVar, shape.identifiers_leaf kind, plain]
    simp
  · obtain ⟨outer, dot, inner, left, isOuter, isDot, isInner⟩ := shape.scoped kind
    have more : tree.isVar text = false := by
      cases shape.isBareName name text with
      | lone isLone _ =>
        rw [kind_bare (by rw [kind]; rfl), kind] at isLone
        cases isLone
      | dotted _ _ more => exact isVar_eq_false text more
    rw [typeExpr_name text (.inl kind), segments, more]
    rfl
  · have arguments : tree.hasArguments = true := by
      rw [hasArguments, ofKinds_eq _ shape.own, kind]
      rfl
    rw [typeExpr_name text (.inr kind), segments, arguments]
    simp

theorem IsShaped.typeExpr_bare_of_name (shape : tree.IsShaped source)
    (name : tree.kind.isName = true) (text : List Char) :
    typeExpr text tree.bare = tree.elementType text (tree.isVar text) := by
  rw [shape.elementType_name name]
  cases shape.isBareName name text with
  | lone kind same =>
    rw [typeExpr_lone text kind, isVar, same]
    simp
  | dotted kind same more =>
    rw [typeExpr_name text (.inl kind), same, isVar_eq_false text more]
    rfl

/-- The two nodes have the same keywords, identifiers and names with type arguments in them. -/
structure HasElement (tree inner : Tree) : Prop where
  keywords : tree.ofKinds Kind.isPrimitive = inner.ofKinds Kind.isPrimitive
  names : tree.ofKinds (· == .typeIdentifier) = inner.ofKinds (· == .typeIdentifier)
  generics : tree.ofKinds (· == .genericType) = inner.ofKinds (· == .genericType)

section Element

variable {inner : Tree} (same : tree.HasElement inner) (text : List Char)
include same

theorem HasElement.isVar_eq : tree.isVar text = inner.isVar text := by
  rw [isVar, isVar, identifiers, identifiers, same.names]

theorem HasElement.hasArguments_eq : tree.hasArguments = inner.hasArguments := by
  rw [hasArguments, hasArguments, same.generics]

theorem HasElement.elementType_eq (inferred : Bool) :
    tree.elementType text inferred = inner.elementType text inferred := by
  rw [elementType, elementType, same.keywords, identifiers, identifiers, same.names]

end Element

/-- A type is read as the array of its element with the brackets in the text of its nodes of brackets,
and without decorations as the array with the brackets of those nodes left bare. -/
structure IsRead (text : List Char) (tree : Tree) : Prop where
  written : typeExpr text tree =
    (tree.elementType text (tree.isVar text && !tree.hasArguments)).ofRank
      (tree.brackets.map (bracketCount text)).sum
  bare : typeExpr text tree.bare =
    (tree.elementType text (tree.isVar text)).ofRank
      (tree.brackets.map fun brackets => bracketCount text brackets.bare).sum

theorem IsShaped.isRead_primitive (shape : tree.IsShaped source)
    (primitive : tree.kind.isPrimitive = true) (text : List Char) : tree.IsRead text := by
  have leaf := shape.children_leaf (.inl primitive)
  have noBrackets : tree.brackets = [] := by
    rw [brackets, ofKinds_leaf _ shape.own leaf]
    rcases Kind.isPrimitive_iff.1 primitive with h | h | h <;> rw [h] <;> rfl
  have noVar : tree.isVar text = false := by
    rw [isVar, identifiers, ofKinds_leaf _ shape.own leaf]
    rcases Kind.isPrimitive_iff.1 primitive with h | h | h <;> rw [h] <;> rfl
  have element : tree.elementType text false = primitiveExpr text tree := by
    rw [elementType, ofKinds_leaf _ shape.own leaf, if_pos primitive]
    rfl
  constructor
  · rw [noBrackets, noVar, Bool.false_and, element, typeExpr_primitive text primitive]
    rfl
  · rw [bare_of_leaf leaf, noBrackets, noVar, element, typeExpr_primitive text primitive]
    rfl

theorem IsShaped.isRead_name (shape : tree.IsShaped source) (name : tree.kind.isName = true)
    (text : List Char) : tree.IsRead text := by
  have noBrackets : tree.brackets = [] := by
    refine shape.ofKinds_name name (fun kind h => ?_) rfl
    rw [beq_iff_eq] at h
    rw [h]
    rfl
  constructor
  · rw [noBrackets]
    exact shape.typeExpr_of_name name text
  · rw [noBrackets]
    exact shape.typeExpr_bare_of_name name text

theorem IsShaped.isRead_annotated (shape : tree.IsShaped source) (kind : tree.kind = .annotatedType)
    {inner : Tree} (left : tree.kept = [inner]) (isType : inner.isType = true) {text : List Char}
    (read : inner.IsRead text) : tree.IsRead text := by
  have lists (kinds : Kind → Bool) (h : kinds .annotatedType = false) :
      tree.ofKinds kinds = inner.ofKinds kinds :=
    shape.ofKinds_single left (by rw [kind, h])
  have same : tree.HasElement inner := ⟨lists _ rfl, lists _ rfl, lists _ rfl⟩
  have sameBrackets : tree.brackets = inner.brackets := lists _ rfl
  constructor
  · rw [typeExpr_annotated text kind left isType, same.elementType_eq, same.isVar_eq,
      same.hasArguments_eq, sameBrackets, read.written]
  · rw [bare_of_wraps (by rw [kind]; rfl) left, typeExpr_withLabel, same.elementType_eq,
      same.isVar_eq, sameBrackets, read.bare]

theorem one_le_bracketCount (text : List Char) (brackets : Tree) : 1 ≤ bracketCount text brackets :=
  Nat.le_max_left 1 _

theorem IsShaped.isRead_array (shape : tree.IsShaped source) (kind : tree.kind = .arrayType)
    {element last : Tree} (left : tree.kept = [element, last])
    (isElement : element.label = some .element) (isBrackets : last.kind = .dimensions)
    (isLast : last.label = some .dimensions) {text : List Char} (read : element.IsRead text) :
    tree.IsRead text := by
  have lists (kinds : Kind → Bool) (own : kinds .arrayType = false) (token : kinds .token = false) :
      tree.ofKinds kinds = element.ofKinds kinds ++ if kinds .dimensions then [last] else [] :=
    shape.ofKinds_array left isBrackets (by rw [kind, own]) token
  have other (kinds : Kind → Bool) (own : kinds .arrayType = false) (token : kinds .token = false)
      (h : kinds .dimensions = false) : tree.ofKinds kinds = element.ofKinds kinds := by
    simp [lists kinds own token, h]
  have same : tree.HasElement element :=
    ⟨other _ rfl rfl rfl, other _ rfl rfl rfl, other _ rfl rfl rfl⟩
  have total (count : Tree → Nat) :
      (tree.brackets.map count).sum = (element.brackets.map count).sum + count last := by
    rw [brackets, lists _ rfl rfl]
    simp [brackets]
  have plain : tree.kind.wraps = false := by rw [kind]; rfl
  have isArray := element.isArray_elementType text
  constructor
  · have first : tree.labelled? .element = some element := by
      simp [shape.labelled?_eq, left, isElement]
    have second : tree.labelled? .dimensions = some last := by
      simp [shape.labelled?_eq, left, isElement, isLast]
    rw [typeExpr_array text kind first second, read.written,
      TypeExpr.arrayOf_ofRank (isArray _) _ (one_le_bracketCount text last), total,
      same.elementType_eq, same.isVar_eq, same.hasArguments_eq]
  · have first : tree.bare.labelled? .element = some element.bare := by
      simp [labelled?_bare plain, left, isElement]
    have second : tree.bare.labelled? .dimensions = some last.bare := by
      simp [labelled?_bare plain, left, isElement, isLast]
    rw [typeExpr_array text (by rw [kind_bare plain, kind]) first second, read.bare,
      TypeExpr.arrayOf_ofRank (isArray _) _ (one_le_bracketCount text last.bare), total,
      same.elementType_eq, same.isVar_eq]

theorem IsShaped.isRead (shape : tree.IsShaped source) (type : tree.kind.isParameterType = true)
    (text : List Char) : tree.IsRead text := by
  induction tree using Tree.induction with
  | node own label span children ih =>
    by_cases primitive : (Tree.node own label span children).kind.isPrimitive = true
    · exact shape.isRead_primitive primitive text
    by_cases name : (Tree.node own label span children).kind.isName = true
    · exact shape.isRead_name name text
    by_cases annotated : (Tree.node own label span children).kind = .annotatedType
    · obtain ⟨inner, left, isType⟩ := shape.annotated annotated
      have below : inner ∈ (Tree.node own label span children).kept := by simp [left]
      exact shape.isRead_annotated annotated left (Kind.isType_of_isParameterType isType)
        (ih inner (mem_kept_iff.1 below).1 (shape.of_kept below) isType)
    · have array : (Tree.node own label span children).kind = .arrayType := by
        simpa [Kind.isParameterType, primitive, name, annotated] using type
      obtain ⟨element, last, left, isType, isElement, isBrackets, isLast⟩ := shape.array array
      have below : element ∈ (Tree.node own label span children).kept := by simp [left]
      exact shape.isRead_array array left isElement isBrackets isLast
        (ih element (mem_kept_iff.1 below).1 (shape.of_kept below) isType)

end Tree

end Java

end ClassCatalog
