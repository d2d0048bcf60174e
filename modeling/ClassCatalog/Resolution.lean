import ClassCatalog.Scope

/-!
# Resolved types

What a written type denotes, the ways in which finding that out fails, and the questions that the
extraction of documentation asks.
-/

namespace ClassCatalog

/-- The type that every class has as an ancestor. -/
def rootType : String := "java.lang.Object"

/-- Why a type cannot be resolved. -/
inductive ResolveError where
  | unknownType (name : String)
  | missingDeclaration (name : String)
  | notAReferenceType (name : String)
  | cyclicInheritance (name : String)
  | inferredType
deriving DecidableEq, Inhabited

namespace ResolveError

/-- The failure in words. -/
def message : ResolveError → String
  | unknownType name => "cannot resolve type `" ++ name ++ "`"
  | missingDeclaration name =>
    "declaration of `" ++ name ++ "` is not available on the lookup path"
  | notAReferenceType name => "`" ++ name ++ "` is not a reference type"
  | cyclicInheritance name => "cyclic inheritance involving `" ++ name ++ "`"
  | inferredType => "type is inferred and cannot be resolved from source"

end ResolveError

/-- What a written type denotes. -/
inductive ResolvedType where
  | primitive (type : Primitive)
  | reference (name : String)
  | array (element : ResolvedType)
  | typeVariable (name : String)
deriving DecidableEq, Inhabited

namespace ResolvedType

/-- The name of a class or interface. -/
def reference? : ResolvedType → Option String
  | reference name => some name
  | _ => none

/-- The type in words. -/
def render : ResolvedType → String
  | primitive p => p.keyword
  | reference name => name
  | array element => element.render ++ "[]"
  | typeVariable name => "typevar " ++ name

/-- An array with a number of dimensions. -/
def arrayOf (element : ResolvedType) : Nat → ResolvedType
  | 0 => element
  | n + 1 => array (arrayOf element n)

end ResolvedType

/-- The questions about types that documentation needs answered. -/
structure Resolver where
  /-- What a written type denotes at a place. -/
  resolve : TypeExpr → Scope → Except ResolveError ResolvedType
  /-- All supertypes of a type, direct and inherited. -/
  ancestors : String → Except ResolveError (List String)

end ClassCatalog
