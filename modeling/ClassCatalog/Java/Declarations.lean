import ClassCatalog.Decl
import ClassCatalog.DocComment
import ClassCatalog.Java.Tree

/-!
# Declarations of a syntax tree

The declarations that documentation needs, taken from a syntax tree. Constructors, fields and
initializers are not declared themselves, but the parameters of the lambdas in them and the local
types are. The body of an anonymous class hides everything in it.
-/

namespace ClassCatalog.Java

/-- The kind of type that a node declares. -/
def Kind.classKind? : Kind → Option ClassKind
  | classDeclaration => some .plain
  | interfaceDeclaration => some .interface
  | enumDeclaration => some .enum
  | recordDeclaration => some .record
  | annotationTypeDeclaration => some .annotationType
  | _ => none

/-- Whether nodes of the kind are dotted names, with or without type arguments. -/
def Kind.isTypeName : Kind → Bool
  | typeIdentifier => true
  | identifier => true
  | scopedTypeIdentifier => true
  | genericType => true
  | _ => false

/-- Whether nodes of the kind are identifiers. -/
def Kind.isIdentifier : Kind → Bool
  | typeIdentifier => true
  | identifier => true
  | _ => false

/-! ## Names and types -/

/-- The dotted name of a package or import, as written but without blanks. -/
def writtenName? (source : List Char) (tree : Tree) : Option String :=
  (tree.parts.find? fun part => part.kind == .scopedIdentifier || part.kind == .identifier).map
    (Tree.compactText source)

mutual

/-- The segments of the name of a type, without type arguments and annotations. -/
def typeSegments (source : List Char) : Tree → List String
  | .node kind label span children =>
    match kind with
    | .typeIdentifier => [Tree.text source (.node kind label span children)]
    | .identifier => [Tree.text source (.node kind label span children)]
    | .scopedTypeIdentifier => nameSegments source children
    | .genericType => nameSegments source children
    | .annotatedType => (lastTypeSegments? source children).getD []
    | _ => (TypeName.parse (Tree.compactText source (.node kind label span children))).segments

/-- The segments of the names among some nodes. -/
def nameSegments (source : List Char) : List Tree → List String
  | [] => []
  | tree :: rest =>
    (if tree.kind.isTypeName then typeSegments source tree else []) ++ nameSegments source rest

/-- The segments of the last type among some nodes. -/
def lastTypeSegments? (source : List Char) : List Tree → Option (List String)
  | [] => none
  | tree :: rest =>
    match lastTypeSegments? source rest with
    | some segments => some segments
    | none => if tree.isType then some (typeSegments source tree) else none

end

/-- The number of dimensions that brackets write, at least one. -/
def bracketCount (source : List Char) (tree : Tree) : Nat :=
  max 1 ((tree.span.text source).count '[')

/-- The name that the text of a node spells. -/
def spelledName (source : List Char) (tree : Tree) : TypeExpr :=
  .named (TypeName.parse (tree.compactText source))

/-- The primitive type whose keyword the text of a node spells. -/
def primitiveExpr (source : List Char) (tree : Tree) : TypeExpr :=
  match Primitive.ofKeyword? (tree.compactText source) with
  | some p => .primitive p
  | none => spelledName source tree

mutual

/-- The type that a node writes. -/
def typeExpr (source : List Char) : Tree → TypeExpr
  | .node kind label span children =>
    let tree := Tree.node kind label span children
    match kind with
    | .integralType => primitiveExpr source tree
    | .floatingPointType => primitiveExpr source tree
    | .booleanType => primitiveExpr source tree
    | .typeIdentifier =>
      if tree.text source = "var" then .inferred else .named ⟨typeSegments source tree⟩
    | .scopedTypeIdentifier => .named ⟨typeSegments source tree⟩
    | .genericType => .named ⟨typeSegments source tree⟩
    | .arrayType =>
      ((elementExpr? source children).getD .inferred).arrayOf
        (((tree.labelled? .dimensions).map (bracketCount source)).getD 1)
    | .annotatedType => (lastTypeExpr? source children).getD (spelledName source tree)
    | _ => spelledName source tree

/-- The type that the first node in the role of an element writes. -/
def elementExpr? (source : List Char) : List Tree → Option TypeExpr
  | [] => none
  | tree :: rest =>
    if tree.label = some .element then some (typeExpr source tree) else elementExpr? source rest

/-- The type that the last type among some nodes writes. -/
def lastTypeExpr? (source : List Char) : List Tree → Option TypeExpr
  | [] => none
  | tree :: rest =>
    match lastTypeExpr? source rest with
    | some type => some type
    | none => if tree.isType then some (typeExpr source tree) else none

end

/-! ## Parameters -/

/-- A parameter; brackets behind its name belong to its type. -/
def formalParameter? (source : List Char) (tree : Tree) : Option Parameter :=
  (tree.labelledText? source .name).map fun name =>
    let type := ((tree.labelled? .type).map (typeExpr source)).getD .inferred
    { name
      type :=
        match tree.labelled? .dimensions with
        | some brackets => type.arrayOf (bracketCount source brackets)
        | none => type }

/-- A parameter for any number of arguments, which has the type of one of them. -/
def spreadParameter? (source : List Char) (tree : Tree) : Option Parameter := do
  let type ← tree.parts.find? Tree.isType
  let name ← (tree.labelledText? source .name).or <|
    (tree.ofKind? .variableDeclarator).bind (·.labelledText? source .name)
  return { name, type := typeExpr source type }

/-- A declared parameter of either form. -/
def declaredParameter? (source : List Char) (tree : Tree) : Option Parameter :=
  match tree.kind with
  | .formalParameter => formalParameter? source tree
  | .spreadParameter => spreadParameter? source tree
  | _ => none

/-- The declared parameters among the parts of a node. -/
def declaredParameters (source : List Char) (tree : Tree) : List Decl :=
  (tree.parts.filterMap (declaredParameter? source)).map .parameter

/-- A parameter without a type. -/
def inferredParameter (source : List Char) (tree : Tree) : Decl :=
  .parameter { name := tree.text source, type := .inferred }

/-- The parameters of a lambda. -/
def lambdaParameters (source : List Char) (tree : Tree) : List Decl :=
  match tree.labelled? .parameters with
  | none => []
  | some parameters =>
    match parameters.kind with
    | .identifier => [inferredParameter source parameters]
    | .inferredParameters =>
      (parameters.parts.filter fun part => part.kind == .identifier).map (inferredParameter source)
    | .formalParameters => declaredParameters source parameters
    | _ => []

/-! ## What a declaration says apart from its members -/

/-- The documentation comment right before a node. -/
def docBefore (source : List Char) (previous : Option Tree) : Option String :=
  match previous with
  | some tree =>
    if tree.kind = .blockComment && DocComment.isDocComment (tree.text source) then
      some (tree.text source)
    else none
  | none => none

/-- The keywords among the modifiers. -/
def modifierWords (source : List Char) (tree : Tree) : List String :=
  match tree.ofKind? .modifiers with
  | none => []
  | some modifiers =>
    ((modifiers.children.filter fun child =>
      child.kind != .annotationUse && child.kind != .annotationMarker &&
        !child.kind.isComment).map (Tree.text source)).filter fun word => !word.isEmpty

/-- The names of the declared type variables. -/
def typeParameterNames (source : List Char) (tree : Tree) : List String :=
  match (tree.labelled? .typeParameters).or (tree.ofKind? .typeParameters) with
  | none => []
  | some parameters =>
    (parameters.parts.filter fun part => part.kind == .typeParameter).filterMap fun parameter =>
      (parameter.parts.find? fun part => part.kind.isIdentifier).map (Tree.text source)

/-- A supertype behind a keyword. -/
def supertypeDecl (source : List Char) (clause : Clause) (tree : Tree) : Decl :=
  .supertype ⟨clause, ⟨typeSegments source tree⟩⟩

/-- The types in a list of supertypes. -/
def listedTypes (tree : Tree) : List Tree :=
  tree.parts.flatMap fun part =>
    if part.kind = .typeList then part.parts.filter Tree.isType
    else if part.isType then [part]
    else []

/-- The supertypes of a type: the superclass, then the interfaces. -/
def supertypeDecls (source : List Char) (tree : Tree) : List Decl :=
  let superclass := (tree.labelled? .superclass).or (tree.ofKind? .superclass)
  let extended := (superclass.bind (·.parts.find? Tree.isType)).toList
  let listed (kind : Kind) := ((tree.ofKind? kind).map listedTypes).getD []
  extended.map (supertypeDecl source .extends) ++
    (listed .superInterfaces).map (supertypeDecl source .implements) ++
    (listed .extendsInterfaces).map (supertypeDecl source .extends)

/-! ## Declarations -/

/-- The declaration of a type with the given members, if the node declares one. -/
def typeDecl (source : List Char) (previous : Option Tree) (tree : Tree) (members : List Decl) :
    List Decl :=
  match tree.kind.classKind?, tree.labelledText? source .name with
  | some kind, some name =>
    [.type
      { name
        kind
        doc := docBefore source previous
        typeParameters := typeParameterNames source tree }
      (supertypeDecls source tree ++ members)]
  | _, _ => []

/-- The declaration of a method with the given members, if the node has a name. -/
def methodDecl (source : List Char) (previous : Option Tree) (tree : Tree) (members : List Decl) :
    List Decl :=
  match tree.labelledText? source .name with
  | some name =>
    [.method
      { name
        doc := docBefore source previous
        modifiers := modifierWords source tree
        typeParameters := typeParameterNames source tree }
      (((tree.labelled? .parameters).map (declaredParameters source)).getD [] ++ members)]
  | none => []

mutual

/-- The members in the body of a type, the body being the first node in that role. -/
def typeBodyDecls (source : List Char) : List Tree → List Decl
  | [] => []
  | .node _ label _ children :: rest =>
    if label = some .body then memberDecls source none children else typeBodyDecls source rest

/-- The members among the nodes of a body; `previous` is the node before them. -/
def memberDecls (source : List Char) (previous : Option Tree) : List Tree → List Decl
  | [] => []
  | tree :: rest =>
    (if tree.isPart then memberDecl source previous tree else []) ++
      memberDecls source (some tree) rest

/-- What a member declares. -/
def memberDecl (source : List Char) (previous : Option Tree) : Tree → List Decl
  | .node kind label span children =>
    let tree := Tree.node kind label span children
    match kind with
    | .methodDeclaration => methodDecl source previous tree (codeBodyDecls source children)
    | .enumBodyDeclarations => memberDecls source none children
    | .fieldDeclaration => codeDecls source none children
    | .constantDeclaration => codeDecls source none children
    | .constructorDeclaration => codeDecls source none children
    | .compactConstructorDeclaration => codeDecls source none children
    | .block => codeDecls source none children
    | .staticInitializer => codeDecls source none children
    | _ => typeDecl source previous tree (typeBodyDecls source children)

/-- What the code of a method declares, the code being the first node in the role of a body. -/
def codeBodyDecls (source : List Char) : List Tree → List Decl
  | [] => []
  | .node _ label _ children :: rest =>
    if label = some .body then codeDecls source none children else codeBodyDecls source rest

/-- The lambda parameters and local types in some nodes of code; `previous` is the node before
them. -/
def codeDecls (source : List Char) (previous : Option Tree) : List Tree → List Decl
  | [] => []
  | tree :: rest =>
    (if tree.isPart then codeDecl source previous tree else []) ++
      codeDecls source (some tree) rest

/-- The lambda parameters and local types in a node of code. -/
def codeDecl (source : List Char) (previous : Option Tree) : Tree → List Decl
  | .node kind label span children =>
    let tree := Tree.node kind label span children
    match kind with
    | .lambdaExpression => lambdaParameters source tree ++ lambdaBodyDecls source none children
    | .classBody => []
    | _ =>
      if kind.classKind?.isSome then
        typeDecl source previous tree (typeBodyDecls source children)
      else codeDecls source none children

/-- What the body of a lambda declares, the body being the first node in that role. -/
def lambdaBodyDecls (source : List Char) (previous : Option Tree) : List Tree → List Decl
  | [] => []
  | tree :: rest =>
    if tree.label = some .body then codeDecl source previous tree
    else lambdaBodyDecls source (some tree) rest

end

/-- What a node at the top level declares. -/
def topLevelDecl (source : List Char) (previous : Option Tree) (tree : Tree) : List Decl :=
  match tree.kind with
  | .packageDeclaration => ((writtenName? source tree).map .package).toList
  | .importDeclaration =>
    ((writtenName? source tree).map fun path =>
      .imported
        { path
          isStatic := tree.hasToken source "static"
          onDemand := (tree.ofKind? .asterisk).isSome }).toList
  | _ => typeDecl source previous tree (typeBodyDecls source tree.children)

/-- What the nodes at the top level declare; `previous` is the node before them. -/
def topLevelDecls (source : List Char) (previous : Option Tree) : List Tree → List Decl
  | [] => []
  | tree :: rest => topLevelDecl source previous tree ++ topLevelDecls source (some tree) rest

/-- The declarations of the tree of a file. -/
def programDecls (source : List Char) (tree : Tree) : List Decl :=
  topLevelDecls source none tree.children

end ClassCatalog.Java
