import ClassCatalog.Text.Blank
import ClassCatalog.Text.Dotted

/-!
# Types as written

A type in source text is a primitive type, a dotted name without its type arguments, an array of
such a type, or nothing at all where the compiler infers it.
-/

namespace ClassCatalog

open Text

/-- The primitive types. -/
inductive Primitive where
  | boolean
  | byte
  | short
  | char
  | int
  | long
  | float
  | double
deriving DecidableEq, Inhabited

namespace Primitive

/-- The keyword of a primitive type. -/
def keyword : Primitive → String
  | boolean => "boolean"
  | byte => "byte"
  | short => "short"
  | char => "char"
  | int => "int"
  | long => "long"
  | float => "float"
  | double => "double"

/-- The name of the class that boxes a primitive type. -/
def boxedName : Primitive → String
  | boolean => "java.lang.Boolean"
  | byte => "java.lang.Byte"
  | short => "java.lang.Short"
  | char => "java.lang.Character"
  | int => "java.lang.Integer"
  | long => "java.lang.Long"
  | float => "java.lang.Float"
  | double => "java.lang.Double"

/-- All primitive types. -/
def all : List Primitive :=
  [boolean, byte, short, char, int, long, float, double]

/-- The primitive type of a keyword. -/
def ofKeyword? (keyword : String) : Option Primitive :=
  all.find? fun p => p.keyword == keyword

end Primitive

/-- A dotted name, segment by segment. -/
structure TypeName where
  segments : List String
deriving DecidableEq, Inhabited

namespace TypeName

/-- Reads a dotted name; blanks around segments and empty segments are dropped. -/
def parse (text : String) : TypeName :=
  ⟨((splitDots text.toList).map trim).filterMap fun piece =>
    if piece.isEmpty then none else some (String.ofList piece)⟩

/-- Whether the name is a single segment. -/
def isSimple (name : TypeName) : Bool :=
  name.segments.length == 1

/-- The segments with dots between them. -/
def dotted (name : TypeName) : String :=
  ".".intercalate name.segments

end TypeName

/-- A type as it is written at a parameter. -/
inductive TypeExpr where
  /-- No type is written, or the word `var`. -/
  | inferred
  | primitive (type : Primitive)
  | named (name : TypeName)
  | array (element : TypeExpr) (dimensions : Nat)
deriving DecidableEq, Inhabited

namespace TypeExpr

/-- Whether no type is written. -/
def isInferred : TypeExpr → Bool
  | inferred => true
  | _ => false

/-- The type in source form. -/
def render : TypeExpr → String
  | inferred => "var"
  | primitive p => p.keyword
  | named name => name.dotted
  | array element dimensions => element.render ++ String.join (List.replicate dimensions "[]")

/-- An array of an element type; dimensions of an element that is an array itself add up. -/
def arrayOf : TypeExpr → Nat → TypeExpr
  | array element inner, dimensions => array element (inner + dimensions)
  | element, dimensions => array element dimensions

end TypeExpr

end ClassCatalog
