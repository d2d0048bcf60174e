import ClassCatalog.Java.Grammar.Rule

/-!
# Types, modifiers and annotations
-/

namespace ClassCatalog.Java.Grammar

/-- Any number of annotations. -/
def annotationUses : Pattern Rule :=
  .many (.rule .annotationUse)

/-- A type, perhaps behind annotations. -/
def type : Pattern Rule :=
  .choice
    [.node .annotatedType (.sequence [.some1 (.rule .annotationUse), .rule .plainType]),
      .rule .plainType]

/-- A type without annotations in front of it. -/
def plainType : Pattern Rule :=
  .growing (.rule .simpleType) (some .element)
    [(.arrayType, .labelled .dimensions (.rule .dimensions))]

/-- A type that is no array. -/
def simpleType : Pattern Rule :=
  .choice
    [.leaf .integralType (·.isWord ["byte", "short", "int", "long", "char"]),
      .leaf .floatingPointType (·.isWord ["float", "double"]),
      .leaf .booleanType (·.isWord ["boolean"]),
      .leaf .voidType (·.isWord ["void"]),
      .growing typeIdentifier none
        [(.genericType, .rule .typeArguments),
          (.scopedTypeIdentifier, .sequence [.spelled ".", annotationUses, typeIdentifier])]]

/-- The brackets of an array type. -/
def dimensions : Pattern Rule :=
  .node .dimensions (.some1 (.sequence [annotationUses, .spelled "[", .spelled "]"]))

/-- A type argument that is left open. -/
def wildcard : Pattern Rule :=
  .node .wildcard <| .sequence
    [annotationUses, .spelled "?",
      .optional (.sequence [.anyOf ["extends", "super"], .rule .type])]

/-- Type arguments, perhaps none. -/
def typeArguments : Pattern Rule :=
  .node .typeArguments <| .sequence
    [.spelled "<", commaList (.choice [wildcard, .rule .type]), .spelled ">"]

/-- Declared type variables with their bounds. -/
def typeParameters : Pattern Rule :=
  .node .typeParameters <| .sequence
    [.spelled "<",
      .separated "," <| .node .typeParameter <| .sequence
        [annotationUses, typeIdentifier,
          .optional <| .node .typeBound <| .sequence
            [.spelled "extends", .separated "&" (.rule .type)]],
      .spelled ">"]

/-- What an annotation says of one of its elements. -/
def elementValue : Pattern Rule :=
  .choice
    [.node .elementValueArray <| .sequence
        [.spelled "\x7b", commaList (.rule .elementValue), .optional (.spelled ","),
          .spelled "\x7d"],
      .rule .annotationUse,
      .rule .expression]

/-- An annotation with or without arguments. -/
def annotationUse : Pattern Rule :=
  .choice
    [.node .annotationUse <| .sequence
        [.spelled "@", .labelled .name dottedName,
          .node .annotationArguments <| .sequence
            [.spelled "(",
              .optional <| .choice
                [.separated "," <| .node .elementValuePair <| .sequence
                    [identifier, .spelled "=", .rule .elementValue],
                  .rule .elementValue],
              .spelled ")"]],
      .node .annotationMarker (.sequence [.spelled "@", .labelled .name dottedName])]

/-- Modifiers and annotations, in any order. -/
def modifiers : Pattern Rule :=
  .node .modifiers <| .some1 <| .choice
    [.rule .annotationUse,
      .anyOf
        ["public", "protected", "private", "abstract", "static", "final", "strictfp", "default",
          "synchronized", "native", "transient", "volatile", "sealed", "non-sealed"]]

/-- Modifiers, or nothing. -/
def modifiers? : Pattern Rule :=
  .optional (.rule .modifiers)

end ClassCatalog.Java.Grammar
