import ClassCatalog.Java.Pattern

/-!
# Rules of the Java grammar

The names of the rules that refer to one another, the tokens that are names, and the tests on the
tokens ahead that tell constructs apart.
-/

namespace ClassCatalog.Java

/-- The rules of the grammar. -/
inductive Rule where
  | type
  | plainType
  | simpleType
  | typeArguments
  | typeParameters
  | dimensions
  | annotationUse
  | elementValue
  | modifiers
  | expression
  | lambda
  /-- A conditional expression; where an arrow follows, it cannot end in a lambda. -/
  | ternary (lambdas : Bool)
  /-- Operands joined by operators that bind at least as tightly as a level says. -/
  | binary (level : Nat) (lambdas : Bool)
  | unary (lambdas : Bool)
  | primary
  | arguments
  | switchExpression
  | recordPattern
  | arrayInitializer
  | block
  | statement
  | fileDeclaration
  | typeDeclaration
  | formalParameters
  | classBody
  | member

namespace Grammar

/-- A name. -/
def identifier : Pattern Rule :=
  .leaf .identifier Token.isIdentifier

/-- A name that stands for a type. -/
def typeIdentifier : Pattern Rule :=
  .leaf .typeIdentifier Token.isIdentifier

/-- A dotted name. -/
def dottedName : Pattern Rule :=
  .growing identifier none [(.scopedIdentifier, .sequence [.spelled ".", identifier])]

/-- A declared name. -/
def declaredName : Pattern Rule :=
  .labelled .name identifier

/-- The parameter of a method may be called `this`, if it is no receiver. -/
def parameterName : Pattern Rule :=
  .labelled .name <| .leaf .identifier fun token => token.isIdentifier || token.isWord ["this"]

/-- Any number of items with commas between them. -/
def commaList (item : Pattern Rule) : Pattern Rule :=
  .optional (.separated "," item)

/-! ## Looking ahead -/

/-- The tokens from the first one that is no comment. -/
def skipComments (tokens : List Token) : List Token :=
  tokens.dropWhile Token.isComment

/-- Whether the next token has a spelling. -/
def nextIs (spelling : String) (tokens : List Token) : Bool :=
  match skipComments tokens with
  | [] => false
  | token :: _ => token.text == spelling

/-- The tokens behind the parenthesis that closes the given number of open ones. -/
def afterClosing : Nat → List Token → List Token
  | _, [] => []
  | depth, token :: rest =>
    if token.text = "(" then afterClosing (depth + 1) rest
    else if token.text = ")" then if depth ≤ 1 then rest else afterClosing (depth - 1) rest
    else afterClosing depth rest

/-- Whether a lambda starts here: a name or a parenthesis, and an arrow behind it. -/
def startsLambda (tokens : List Token) : Bool :=
  match skipComments tokens with
  | [] => false
  | token :: rest =>
    if token.isIdentifier then nextIs "->" rest
    else token.text == "(" && nextIs "->" (afterClosing 1 rest)

/-- The keywords of the primitive types. -/
def primitiveWords : List String :=
  ["boolean", "byte", "short", "char", "int", "long", "float", "double"]

/-- Whether a parenthesis with a primitive type behind it starts here. -/
def startsPrimitiveCast (tokens : List Token) : Bool :=
  match skipComments tokens with
  | token :: rest => token.text == "(" && (skipComments rest).head?.any (·.isWord primitiveWords)
  | [] => false

/-- Whether the operand of a cast to a class starts here; a sign would be an operator instead. -/
def startsOperand (tokens : List Token) : Bool :=
  match skipComments tokens with
  | [] => false
  | token :: _ =>
    (token.cls == .word && token.text != "instanceof") || token.cls == .literal ||
      ["(", "!", "~"].contains token.text

end Grammar

end ClassCatalog.Java
