import ClassCatalog.Java.Grammar.Expressions

/-!
# Statements
-/

namespace ClassCatalog.Java.Grammar

/-- A variable with its brackets and its value. -/
def variableDeclarator : Pattern Rule :=
  .node .variableDeclarator <| .sequence
    [declaredName, .optional (.labelled .dimensions (.rule .dimensions)),
      .optional (.sequence
        [.spelled "=", .choice [.rule .arrayInitializer, .rule .expression]])]

/-- Variables of one type. -/
def declarators : Pattern Rule :=
  .sequence
    [modifiers?, .labelled .type (.rule .plainType), .separated "," variableDeclarator,
      .spelled ";"]

/-- A name with its brackets. -/
def variableName : Pattern Rule :=
  .sequence [declaredName, .optional (.labelled .dimensions (.rule .dimensions))]

/-! ## Switches -/

/-- A type and the name it binds. -/
def typePattern : Pattern Rule :=
  .node .typePattern (.sequence [modifiers?, .rule .plainType, identifier])

/-- A record taken apart. -/
def recordPattern : Pattern Rule :=
  .node .recordPattern <| .sequence
    [.rule .simpleType,
      .node .recordPatternBody <| .sequence
        [.spelled "(", commaList (.choice [.rule .recordPattern, typePattern, identifier]),
          .spelled ")"]]

/-- Whether a case of a label ends here. -/
def endsLabelItem (tokens : List Token) : Bool :=
  ["->", ":", ",", "when"].any (nextIs · tokens)

/-- One of the cases of a label. -/
def labelItem : Pattern Rule :=
  .choice
    [.spelled "default",
      .sequence [.rule .recordPattern, .ahead endsLabelItem (.sequence [])],
      typePattern,
      .rule (.ternary false)]

/-- The label of a branch. -/
def switchLabel : Pattern Rule :=
  .node .switchLabel <| .choice
    [.sequence
        [.spelled "case", .separated "," labelItem,
          .optional <| .node .guard <| .sequence
            [.spelled "when", .rule (.ternary false)]],
      .spelled "default"]

/-- The statement `throw`. -/
def throwStatement : Pattern Rule :=
  .node .throwStatement (.sequence [.spelled "throw", .rule .expression, .spelled ";"])

/-- An expression as a statement. -/
def expressionStatement : Pattern Rule :=
  .node .expressionStatement (.sequence [.rule .expression, .spelled ";"])

/-- A branch behind an arrow. -/
def switchRule : Pattern Rule :=
  .node .switchRule <| .sequence
    [switchLabel, .spelled "->",
      .choice [.rule .block, throwStatement, expressionStatement]]

/-- Statements behind labels. -/
def switchGroup : Pattern Rule :=
  .node .switchGroup <| .sequence
    [.some1 (.sequence [switchLabel, .spelled ":"]), .many (.rule .statement)]

/-- A switch, as a statement or as an expression. -/
def switchExpression : Pattern Rule :=
  .node .switchExpression <| .sequence
    [.spelled "switch", parenthesized,
      .node .switchBlock <| .sequence
        [.spelled "\x7b", .many (.choice [switchRule, switchGroup]), .spelled "\x7d"]]

/-! ## Other statements -/

/-- Statements in braces. -/
def block : Pattern Rule :=
  .node .block (.sequence [.spelled "\x7b", .many (.rule .statement), .spelled "\x7d"])

/-- Variables inside a method. -/
def localVariables : Pattern Rule :=
  .node .localVariableDeclaration declarators

/-- The two forms of `for`. -/
def forStatement : Pattern Rule :=
  .choice
    [.node .enhancedForStatement <| .sequence
        [.spelled "for", .spelled "(", modifiers?, .rule .plainType, variableName, .spelled ":",
          .rule .expression, .spelled ")", .rule .statement],
      .node .forStatement <| .sequence
        [.spelled "for", .spelled "(",
          .choice
            [localVariables, .sequence [commaList (.rule .expression), .spelled ";"]],
          .optional (.rule .expression), .spelled ";", commaList (.rule .expression),
          .spelled ")", .rule .statement]]

/-- What `try` closes at its end. -/
def resourceSpecification : Pattern Rule :=
  .node .resourceSpecification <| .sequence
    [.spelled "(",
      .separated ";" <| .node .resource <| .choice
        [.sequence
            [modifiers?, .rule .plainType, variableName, .spelled "=", .rule .expression],
          .rule .primary],
      .optional (.spelled ";"), .spelled ")"]

/-- The statement `try`. -/
def tryStatement : Pattern Rule :=
  .node .tryStatement <| .sequence
    [.spelled "try", .optional resourceSpecification, .rule .block,
      .many <| .node .catchClause <| .sequence
        [.spelled "catch", .spelled "(",
          .node .catchParameter <| .sequence
            [modifiers?, .node .catchType (.separated "|" (.rule .plainType)), variableName],
          .spelled ")", .rule .block],
      .optional (.node .finallyClause (.sequence [.spelled "finally", .rule .block]))]

/-- Any statement. -/
def statement : Pattern Rule :=
  .choice
    [.rule .block,
      .spelled ";",
      .node .ifStatement <| .sequence
        [.spelled "if", parenthesized, .rule .statement,
          .optional (.sequence [.spelled "else", .rule .statement])],
      .node .whileStatement (.sequence [.spelled "while", parenthesized, .rule .statement]),
      .node .doStatement <| .sequence
        [.spelled "do", .rule .statement, .spelled "while", parenthesized, .spelled ";"],
      forStatement,
      tryStatement,
      .rule .switchExpression,
      .node .synchronizedStatement <| .sequence
        [.spelled "synchronized", parenthesized, .rule .block],
      .node .returnStatement <| .sequence
        [.spelled "return", .optional (.rule .expression), .spelled ";"],
      throwStatement,
      .node .breakStatement (.sequence [.spelled "break", .optional identifier, .spelled ";"]),
      .node .continueStatement (.sequence
        [.spelled "continue", .optional identifier, .spelled ";"]),
      .node .assertStatement <| .sequence
        [.spelled "assert", .rule .expression,
          .optional (.sequence [.spelled ":", .rule .expression]), .spelled ";"],
      .rule .fileDeclaration,
      .rule .typeDeclaration,
      .node .labeledStatement (.sequence [identifier, .spelled ":", .rule .statement]),
      .node .yieldStatement (.sequence [.spelled "yield", .rule .expression, .spelled ";"]),
      localVariables,
      expressionStatement]

end ClassCatalog.Java.Grammar
