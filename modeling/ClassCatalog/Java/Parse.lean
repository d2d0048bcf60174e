import ClassCatalog.Java.Grammar.Declarations

/-!
# Parsing Java text

The tree of a text is the match of the grammar's pattern for files. Where the text fits no rule, its
tokens stand in the tree as error nodes.
-/

namespace ClassCatalog.Java

/-- The pattern of a rule. -/
def Rule.pattern : Rule → Pattern Rule
  | type => Grammar.type
  | plainType => Grammar.plainType
  | simpleType => Grammar.simpleType
  | typeArguments => Grammar.typeArguments
  | typeParameters => Grammar.typeParameters
  | dimensions => Grammar.dimensions
  | annotationUse => Grammar.annotationUse
  | elementValue => Grammar.elementValue
  | modifiers => Grammar.modifiers
  | expression => Grammar.expression
  | lambda => Grammar.lambda
  | ternary lambdas => Grammar.ternary lambdas
  | binary level lambdas => Grammar.binary level lambdas
  | unary lambdas => Grammar.unary lambdas
  | primary => Grammar.primary
  | arguments => Grammar.arguments
  | switchExpression => Grammar.switchExpression
  | recordPattern => Grammar.recordPattern
  | arrayInitializer => Grammar.arrayInitializer
  | block => Grammar.block
  | statement => Grammar.statement
  | fileDeclaration => Grammar.fileDeclaration
  | typeDeclaration => Grammar.typeDeclaration
  | formalParameters => Grammar.formalParameters
  | classBody => Grammar.classBody
  | member => Grammar.member

/-- A bound on how deeply patterns nest while they match the given number of tokens. -/
def depthBound (tokens : Nat) : Nat :=
  512 * (tokens + 1)

/-- The tree of a text. -/
def parse (source : List Char) : Tree :=
  let tokens := scan source
  match Grammar.program.run Rule.pattern (depthBound tokens.length) tokens with
  | some (trees, rest) => .above .program (trees ++ (Pattern.splitComments rest).1)
  | none => .above .program []

mutual

/-- Whether some part of a tree fits no rule. -/
def Tree.hasError : Tree → Bool
  | .node kind _ _ children => kind == .error || anyHasError children

/-- Whether some part of some trees fits no rule. -/
def anyHasError : List Tree → Bool
  | [] => false
  | tree :: rest => tree.hasError || anyHasError rest

end

end ClassCatalog.Java
