import ClassCatalog.Java.Grammar.Statements

/-!
# Declarations
-/

namespace ClassCatalog.Java.Grammar

/-! ## Parameters -/

/-- A parameter with a name of its own, for one argument or for any number. -/
def parameter : Pattern Rule :=
  .choice
    [.node .spreadParameter <| .sequence
        [modifiers?, .rule .plainType, .spelled "...", annotationUses, variableDeclarator],
      .node .formalParameter <| .sequence
        [modifiers?, .labelled .type (.rule .plainType), parameterName,
          .optional (.labelled .dimensions (.rule .dimensions))]]

/-- The names of enclosing classes in front of `this`. -/
def qualifier : Pattern Rule :=
  .sequence [identifier, .spelled "."]

/-- The object a method is called on, written as a parameter. Behind an annotation it counts only
with the name of a class in front of `this`. -/
def receiverParameter : Pattern Rule :=
  .node .receiverParameter <| .choice
    [.sequence [.rule .plainType, .many qualifier, thisWord],
      .sequence
        [.some1 (.rule .annotationUse), .rule .plainType, .some1 qualifier, thisWord]]

/-- Parameters in parentheses. -/
def formalParameters : Pattern Rule :=
  .node .formalParameters <| .sequence
    [.spelled "(",
      .choice
        [.sequence [receiverParameter, .many (.sequence [.spelled ",", parameter])],
          commaList parameter],
      .spelled ")"]

/-! ## Members -/

/-- The exceptions of a method. -/
def throws? : Pattern Rule :=
  .optional (.node .throws (.sequence [.spelled "throws", .separated "," (.rule .type)]))

/-- Declared type variables, or nothing. -/
def typeParameters? : Pattern Rule :=
  .optional (.labelled .typeParameters (.rule .typeParameters))

/-- A method with or without a body. -/
def method : Pattern Rule :=
  .node .methodDeclaration <| .sequence
    [modifiers?, typeParameters?, annotationUses, .labelled .type (.rule .plainType),
      declaredName, .labelled .parameters (.rule .formalParameters),
      .optional (.labelled .dimensions (.rule .dimensions)), throws?,
      .choice [.labelled .body (.rule .block), .spelled ";"]]

/-- A constructor. -/
def constructor : Pattern Rule :=
  .node .constructorDeclaration <| .sequence
    [modifiers?, typeParameters?, declaredName,
      .labelled .parameters (.rule .formalParameters), throws?,
      .labelled .body <| .node .constructorBody <| .sequence
        [.spelled "\x7b", .many (.rule .statement), .spelled "\x7d"]]

/-- The constructor of a record without its parameters. -/
def compactConstructor : Pattern Rule :=
  .node .compactConstructorDeclaration <| .sequence
    [modifiers?, declaredName, .labelled .body (.rule .block)]

/-- A member of a class. -/
def member : Pattern Rule :=
  .choice
    [.spelled ";",
      .rule .block,
      .node .staticInitializer (.sequence [.spelled "static", .rule .block]),
      .rule .typeDeclaration,
      method,
      constructor,
      compactConstructor,
      .node .fieldDeclaration declarators]

/-- The members of a class. -/
def classBody : Pattern Rule :=
  .node .classBody (.sequence [.spelled "\x7b", .many (.rule .member), .spelled "\x7d"])

/-- The constants of an interface. -/
def constants : Pattern Rule :=
  .node .constantDeclaration declarators

/-- The members of an interface. -/
def interfaceBody : Pattern Rule :=
  .node .interfaceBody <| .sequence
    [.spelled "\x7b",
      .many (.choice [.spelled ";", .rule .typeDeclaration, method, constants]),
      .spelled "\x7d"]

/-- An element of an annotation type. -/
def annotationElement : Pattern Rule :=
  .node .annotationElementDeclaration <| .sequence
    [modifiers?, .labelled .type (.rule .plainType), declaredName, .spelled "(", .spelled ")",
      .optional (.labelled .dimensions (.rule .dimensions)),
      .optional (.sequence [.spelled "default", .rule .elementValue]), .spelled ";"]

/-- The members of an annotation type. -/
def annotationTypeBody : Pattern Rule :=
  .node .annotationTypeBody <| .sequence
    [.spelled "\x7b",
      .many (.choice [.spelled ";", .rule .typeDeclaration, annotationElement, constants]),
      .spelled "\x7d"]

/-- A constant of an enumeration. -/
def enumConstant : Pattern Rule :=
  .node .enumConstant <| .sequence
    [modifiers?, declaredName, .optional (.rule .arguments),
      .optional (.labelled .body (.rule .classBody))]

/-- The constants and members of an enumeration. -/
def enumBody : Pattern Rule :=
  .node .enumBody <| .sequence
    [.spelled "\x7b", commaList enumConstant, .optional (.spelled ","),
      .optional (.node .enumBodyDeclarations (.sequence [.spelled ";", .many (.rule .member)])),
      .spelled "\x7d"]

/-! ## Types -/

/-- Types with commas between them. -/
def typeList : Pattern Rule :=
  .node .typeList (.separated "," (.rule .type))

/-- The interfaces that a class implements, or nothing. -/
def superInterfaces? : Pattern Rule :=
  .optional (.node .superInterfaces (.sequence [.spelled "implements", typeList]))

/-- The subtypes that a sealed type permits, or nothing. -/
def permits? : Pattern Rule :=
  .optional (.node .permits (.sequence [.spelled "permits", typeList]))

/-- The declaration of a type of any kind. -/
def typeDeclaration : Pattern Rule :=
  .choice
    [.node .classDeclaration <| .sequence
        [modifiers?, .spelled "class", declaredName, typeParameters?,
          .optional <| .labelled .superclass <| .node .superclass <| .sequence
            [.spelled "extends", .rule .type],
          superInterfaces?, permits?, .labelled .body (.rule .classBody)],
      .node .interfaceDeclaration <| .sequence
        [modifiers?, .spelled "interface", declaredName, typeParameters?,
          .optional (.node .extendsInterfaces (.sequence [.spelled "extends", typeList])),
          permits?, .labelled .body interfaceBody],
      .node .enumDeclaration <| .sequence
        [modifiers?, .spelled "enum", declaredName, superInterfaces?,
          .labelled .body enumBody],
      .node .recordDeclaration <| .sequence
        [modifiers?, .spelled "record", declaredName, typeParameters?,
          .labelled .parameters (.rule .formalParameters), superInterfaces?,
          .labelled .body (.rule .classBody)],
      .node .annotationTypeDeclaration <| .sequence
        [modifiers?, .spelled "@interface", declaredName, .labelled .body annotationTypeBody]]

/-! ## Files -/

/-- The package of a file. -/
def packageDeclaration : Pattern Rule :=
  .node .packageDeclaration <| .sequence
    [annotationUses, .spelled "package", dottedName, .spelled ";"]

/-- An import of a type or of everything in a package. -/
def importDeclaration : Pattern Rule :=
  .node .importDeclaration <| .sequence
    [.spelled "import", .optional (.spelled "static"), dottedName,
      .optional (.sequence [.spelled ".", .leaf .asterisk fun token => token.text == "*"]),
      .spelled ";"]

/-- What a module needs and offers. -/
def moduleDirective : Pattern Rule :=
  .node .moduleDirective <| .choice
    [.sequence
        [.spelled "requires", .many (.anyOf ["transitive", "static"]), dottedName,
          .spelled ";"],
      .sequence
        [.anyOf ["exports", "opens"], dottedName,
          .optional (.sequence [.spelled "to", .separated "," dottedName]), .spelled ";"],
      .sequence [.spelled "uses", dottedName, .spelled ";"],
      .sequence
        [.spelled "provides", dottedName, .spelled "with", .separated "," dottedName,
          .spelled ";"]]

/-- A module. -/
def moduleDeclaration : Pattern Rule :=
  .node .moduleDeclaration <| .sequence
    [annotationUses, .optional (.spelled "open"), .spelled "module", dottedName,
      .node .moduleBody <| .sequence
        [.spelled "\x7b", .many moduleDirective, .spelled "\x7d"]]

/-- A declaration about the file as a whole. -/
def fileDeclaration : Pattern Rule :=
  .choice [packageDeclaration, importDeclaration, moduleDeclaration]

/-- The content of a file. What fits no rule becomes an error node, token by token. -/
def program : Pattern Rule :=
  .many <| .choice
    [.rule .fileDeclaration, .rule .typeDeclaration, method, .rule .statement,
      .leaf .error fun _ => true]

end ClassCatalog.Java.Grammar
