import ClassCatalog.Java.Token

/-!
# Syntax trees of Java text

A node of a syntax tree has a kind, perhaps a label that tells its role for the node above it, its
place in the text, and its parts in order. Symbols, keywords and comments are nodes too, so that a
node spans all of its text and the node right before another one can be seen.
-/

namespace ClassCatalog.Java

/-- The kinds of nodes. -/
inductive Kind where
  | program
  | error
  | token
  | lineComment
  | blockComment
  | identifier
  | scopedIdentifier
  | asterisk
  | packageDeclaration
  | importDeclaration
  | moduleDeclaration
  | moduleBody
  | moduleDirective
  | classDeclaration
  | interfaceDeclaration
  | enumDeclaration
  | recordDeclaration
  | annotationTypeDeclaration
  | superclass
  | superInterfaces
  | extendsInterfaces
  | permits
  | typeList
  | typeParameters
  | typeParameter
  | typeBound
  | modifiers
  | annotationMarker
  | annotationUse
  | annotationArguments
  | elementValuePair
  | elementValueArray
  | classBody
  | interfaceBody
  | annotationTypeBody
  | enumBody
  | enumBodyDeclarations
  | enumConstant
  | fieldDeclaration
  | constantDeclaration
  | annotationElementDeclaration
  | methodDeclaration
  | constructorDeclaration
  | compactConstructorDeclaration
  | constructorBody
  | staticInitializer
  | block
  | formalParameters
  | formalParameter
  | spreadParameter
  | receiverParameter
  | inferredParameters
  | throws
  | variableDeclarator
  | arrayInitializer
  | typeIdentifier
  | scopedTypeIdentifier
  | genericType
  | arrayType
  | annotatedType
  | integralType
  | floatingPointType
  | booleanType
  | voidType
  | typeArguments
  | wildcard
  | dimensions
  | dimensionExpression
  | localVariableDeclaration
  | expressionStatement
  | labeledStatement
  | ifStatement
  | whileStatement
  | doStatement
  | forStatement
  | enhancedForStatement
  | assertStatement
  | breakStatement
  | continueStatement
  | returnStatement
  | throwStatement
  | yieldStatement
  | synchronizedStatement
  | tryStatement
  | resourceSpecification
  | resource
  | catchClause
  | catchParameter
  | catchType
  | finallyClause
  | switchExpression
  | switchBlock
  | switchRule
  | switchGroup
  | switchLabel
  | guard
  | typePattern
  | recordPattern
  | recordPatternBody
  | literal
  | thisExpression
  | superExpression
  | parenthesizedExpression
  | assignmentExpression
  | ternaryExpression
  | binaryExpression
  | instanceofExpression
  | unaryExpression
  | updateExpression
  | castExpression
  | lambdaExpression
  | methodInvocation
  | constructorInvocation
  | methodReference
  | fieldAccess
  | arrayAccess
  | classLiteral
  | templateExpression
  | objectCreation
  | arrayCreation
  | argumentList
deriving DecidableEq, Inhabited

namespace Kind

/-- Whether nodes of the kind are comments. -/
def isComment : Kind → Bool
  | lineComment => true
  | blockComment => true
  | _ => false

/-- Whether nodes of the kind carry meaning, unlike symbols, keywords and comments. -/
def isPart (kind : Kind) : Bool :=
  kind != token && !kind.isComment

/-- Whether nodes of the kind stand where a type is expected. -/
def isType : Kind → Bool
  | typeIdentifier => true
  | scopedTypeIdentifier => true
  | genericType => true
  | arrayType => true
  | integralType => true
  | floatingPointType => true
  | booleanType => true
  | voidType => true
  | annotatedType => true
  | _ => false

end Kind

/-- The roles of parts for the node above them. -/
inductive Label where
  | name
  | body
  | parameters
  | type
  | dimensions
  | element
  | superclass
  | typeParameters
deriving DecidableEq, Inhabited

/-- A syntax tree. -/
inductive Tree where
  | node (kind : Kind) (label : Option Label) (span : Span) (children : List Tree)
deriving Inhabited

namespace Tree

def kind : Tree → Kind
  | node kind _ _ _ => kind

def label : Tree → Option Label
  | node _ label _ _ => label

def span : Tree → Span
  | node _ _ span _ => span

def children : Tree → List Tree
  | node _ _ _ children => children

/-- The tree in another role. -/
def withLabel (label : Option Label) : Tree → Tree
  | node kind _ span children => node kind label span children

/-- A node above the given ones. -/
def above (kind : Kind) (children : List Tree) : Tree :=
  let start := (children.head?.map fun child => child.span.start).getD 0
  let stop := (children.getLast?.map fun child => child.span.stop).getD 0
  node kind none ⟨start, stop⟩ children

/-- The text of a tree. -/
def text (source : List Char) (tree : Tree) : String :=
  String.ofList (tree.span.text source)

/-- The text of a tree without any blank. -/
def compactText (source : List Char) (tree : Tree) : String :=
  String.ofList (Text.squeeze (tree.span.text source))

/-- Whether a tree carries meaning, unlike symbols, keywords and comments. -/
def isPart (tree : Tree) : Bool :=
  tree.kind.isPart

/-- Whether a tree stands for a type. -/
def isType (tree : Tree) : Bool :=
  tree.kind.isType

/-- The children that carry meaning. -/
def parts (tree : Tree) : List Tree :=
  tree.children.filter isPart

/-- The first child in a role. -/
def labelled? (label : Label) (tree : Tree) : Option Tree :=
  tree.children.find? fun child => child.label == some label

/-- The first child of a kind. -/
def ofKind? (kind : Kind) (tree : Tree) : Option Tree :=
  tree.children.find? fun child => child.kind == kind

/-- The text of the first child in a role. -/
def labelledText? (source : List Char) (label : Label) (tree : Tree) : Option String :=
  (tree.labelled? label).map (text source)

/-- Whether a keyword or symbol is among the children. -/
def hasToken (source : List Char) (spelling : String) (tree : Tree) : Bool :=
  tree.children.any fun child => child.kind == .token && child.text source == spelling

end Tree

end ClassCatalog.Java
