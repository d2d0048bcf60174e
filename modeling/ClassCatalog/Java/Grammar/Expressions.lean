import ClassCatalog.Java.Grammar.Types

/-!
# Expressions

Operators bind by levels. A lambda reaches as far to the right as possible, and it is tried only
where a name or a closing parenthesis is followed by an arrow. In the labels of a `switch` the arrow
belongs to the label, so no lambda is tried there outside parentheses.
-/

namespace ClassCatalog.Java.Grammar

/-- The binary operators by level, the loosest first. -/
def operatorLevels : List (List (Pattern Rule)) :=
  [[.spelled "||"], [.spelled "&&"], [.spelled "|"], [.spelled "^"], [.spelled "&"],
    [.spelled "==", .spelled "!="],
    [.spelled "<=", .joined [">", "="], .spelled "<", .spelled ">"],
    [.spelled "<<", .joined [">", ">", ">"], .joined [">", ">"]],
    [.spelled "+", .spelled "-"],
    [.spelled "*", .spelled "/", .spelled "%"]]

/-- The level of comparisons, to which `instanceof` belongs. -/
def comparisonLevel : Nat := 6

/-- The assignment operators. -/
def assignmentOperator : Pattern Rule :=
  .choice
    [.anyOf ["=", "+=", "-=", "*=", "/=", "&=", "|=", "^=", "%=", "<<="],
      .joined [">", ">", "="], .joined [">", ">", ">", "="]]

/-- A lambda, if one starts here. -/
def lambdaAhead : Pattern Rule :=
  .ahead startsLambda (.rule .lambda)

/-- Any expression. -/
def expression : Pattern Rule :=
  .choice
    [lambdaAhead,
      .growing (.rule (.ternary true)) none
        [(.assignmentExpression, .sequence [assignmentOperator, .rule .expression])]]

/-- A lambda with a name, names or declared parameters. -/
def lambda : Pattern Rule :=
  .node .lambdaExpression <| .sequence
    [.labelled .parameters <| .choice
        [identifier,
          .node .inferredParameters (.sequence
            [.spelled "(", .separated "," identifier, .spelled ")"]),
          .rule .formalParameters],
      .spelled "->",
      .labelled .body (.choice [.rule .block, .rule .expression])]

/-- An operand that may be a lambda. -/
def operand (lambdas : Bool) (other : Rule) : Pattern Rule :=
  if lambdas then .choice [lambdaAhead, .rule other] else .rule other

/-- A conditional expression, or anything that binds more tightly. -/
def ternary (lambdas : Bool) : Pattern Rule :=
  .growing (.rule (.binary 0 lambdas)) none
    [(.ternaryExpression, .sequence
      [.spelled "?", .rule .expression, .spelled ":", operand lambdas (.ternary lambdas)])]

/-- A test for a type, which may bind names. -/
def instanceofTest : Pattern Rule :=
  .sequence
    [.spelled "instanceof", .optional (.spelled "final"),
      .choice [.rule .recordPattern, .sequence [.rule .type, .optional identifier]]]

/-- Operands joined by the operators of a level, or anything that binds more tightly. -/
def binary (level : Nat) (lambdas : Bool) : Pattern Rule :=
  let next : Pattern Rule :=
    if level + 1 < operatorLevels.length then .rule (.binary (level + 1) lambdas)
    else .rule (.unary lambdas)
  let step : Kind × Pattern Rule :=
    (.binaryExpression, .sequence [.choice (operatorLevels.getD level []), next])
  .growing next none
    (if level = comparisonLevel then [step, (.instanceofExpression, instanceofTest)] else [step])

/-- An operand with operators in front of it. -/
def unary (lambdas : Bool) : Pattern Rule :=
  .choice
    [.node .unaryExpression
        (.sequence [.anyOf ["+", "-", "!", "~"], .rule (.unary lambdas)]),
      .node .updateExpression (.sequence [.anyOf ["++", "--"], .rule (.unary lambdas)]),
      .ahead startsPrimitiveCast <| .node .castExpression <| .sequence
        [.spelled "(", .rule .type, .spelled ")", operand lambdas (.unary lambdas)],
      .node .castExpression <| .sequence
        [.spelled "(", .separated "&" (.rule .type), .spelled ")",
          .ahead startsOperand (operand lambdas (.unary lambdas))],
      .rule .primary]

/-- A literal. -/
def literal : Pattern Rule :=
  .leaf .literal fun token => token.cls == .literal || token.isWord ["true", "false", "null"]

/-- The word `this`. -/
def thisWord : Pattern Rule :=
  .leaf .thisExpression (·.isWord ["this"])

/-- The word `super`. -/
def superWord : Pattern Rule :=
  .leaf .superExpression (·.isWord ["super"])

/-- Type arguments, or nothing. -/
def typeArguments? : Pattern Rule :=
  .optional (.rule .typeArguments)

/-- What a method reference refers to. -/
def referredMethod : Pattern Rule :=
  .sequence [.spelled "::", typeArguments?, .choice [identifier, .spelled "new"]]

/-- A new object, perhaps of a class declared right there. -/
def newObject : Pattern Rule :=
  .sequence
    [.spelled "new", annotationUses, typeArguments?, annotationUses, .rule .simpleType,
      .rule .arguments, .optional (.rule .classBody)]

/-- A new array. -/
def newArray : Pattern Rule :=
  .sequence
    [.spelled "new", annotationUses, .rule .simpleType,
      .choice
        [.sequence
            [.some1 <| .node .dimensionExpression <| .sequence
                [annotationUses, .spelled "[", .rule .expression, .spelled "]"],
              .optional (.rule .dimensions)],
          .sequence [.rule .dimensions, .rule .arrayInitializer]]]

/-- An expression in parentheses. -/
def parenthesized : Pattern Rule :=
  .node .parenthesizedExpression (.sequence [.spelled "(", .rule .expression, .spelled ")"])

/-- What member accesses, calls and indices can be put behind. -/
def primaryBase : Pattern Rule :=
  .choice
    [literal,
      .node .classLiteral (.sequence [.rule .plainType, .spelled ".", .spelled "class"]),
      .node .methodReference (.sequence [.rule .type, referredMethod]),
      .node .arrayCreation newArray,
      .node .objectCreation newObject,
      parenthesized,
      .rule .switchExpression,
      .node .constructorInvocation (.sequence
        [typeArguments?, .choice [thisWord, superWord], .rule .arguments]),
      thisWord,
      superWord,
      .node .methodInvocation (.sequence [declaredName, .rule .arguments]),
      identifier]

/-- An operand with member accesses, calls and indices behind it. -/
def primary : Pattern Rule :=
  .growing primaryBase none
    [(.methodInvocation,
        .sequence [.spelled ".", typeArguments?, declaredName, .rule .arguments]),
      (.constructorInvocation,
        .sequence [.spelled ".", typeArguments?, superWord, .rule .arguments]),
      (.objectCreation, .sequence [.spelled ".", newObject]),
      (.fieldAccess,
        .sequence [.spelled ".", .choice [identifier, thisWord, superWord, .spelled "class"]]),
      (.templateExpression, .sequence [.spelled ".", literal]),
      (.arrayAccess, .sequence [.spelled "[", .rule .expression, .spelled "]"]),
      (.methodReference, referredMethod),
      (.updateExpression, .anyOf ["++", "--"])]

/-- The arguments of a call. -/
def arguments : Pattern Rule :=
  .node .argumentList <| .sequence
    [.spelled "(", commaList (.rule .expression), .spelled ")"]

/-- The items of an array. -/
def arrayInitializer : Pattern Rule :=
  .node .arrayInitializer <| .sequence
    [.spelled "\x7b", commaList (.choice [.rule .arrayInitializer, .rule .expression]),
      .optional (.spelled ","), .spelled "\x7d"]

end ClassCatalog.Java.Grammar
