import ClassCatalog.TypeExpr

/-!
# Declarations

A source unit is one Java file reduced to the declarations that documentation needs: packages,
imports, types, methods, parameters and supertype clauses, nested as in the source.
-/

namespace ClassCatalog

/-- The kinds of declared types. -/
inductive ClassKind where
  | plain
  | interface
  | enum
  | record
  | annotationType
deriving DecidableEq, Inhabited

namespace ClassKind

/-- The superclass a type has without naming it. -/
def implicitSuperclass? : ClassKind → Option String
  | plain => some "java.lang.Object"
  | enum => some "java.lang.Enum"
  | record => some "java.lang.Record"
  | interface => none
  | annotationType => none

end ClassKind

/-- An import; `path` is the dotted name without a trailing `.*`. -/
structure Import where
  path : String
  isStatic : Bool := false
  onDemand : Bool := false
deriving DecidableEq, Inhabited

/-- The keyword in front of a supertype. -/
inductive Clause where
  | extends
  | implements
deriving DecidableEq, Inhabited

/-- One supertype of a type, as written. -/
structure Supertype where
  clause : Clause
  name : TypeName
deriving DecidableEq, Inhabited

/-- A parameter of a method or of a lambda. -/
structure Parameter where
  name : String
  type : TypeExpr
deriving DecidableEq, Inhabited

/-- What a type declaration says apart from its members; `doc` is the raw comment. -/
structure ClassHead where
  name : String
  kind : ClassKind := .plain
  doc : Option String := none
  typeParameters : List String := []
deriving DecidableEq, Inhabited

/-- What a method declaration says apart from its members. -/
structure MethodHead where
  name : String
  doc : Option String := none
  modifiers : List String := []
  typeParameters : List String := []
deriving DecidableEq, Inhabited

/-- A declaration with everything declared inside it, in source order. -/
inductive Decl where
  | package (name : String)
  | imported (entry : Import)
  | type (head : ClassHead) (members : List Decl)
  | method (head : MethodHead) (members : List Decl)
  | parameter (parameter : Parameter)
  | supertype (supertype : Supertype)
deriving Inhabited

namespace Decl

def package? : Decl → Option String
  | package name => some name
  | _ => none

def import? : Decl → Option Import
  | imported entry => some entry
  | _ => none

def typeHead? : Decl → Option ClassHead
  | type head _ => some head
  | _ => none

def supertype? : Decl → Option Supertype
  | supertype s => some s
  | _ => none

end Decl

/-- One file, under its path below the source root. -/
structure SourceUnit where
  path : String
  decls : List Decl
deriving Inhabited

namespace SourceUnit

/-- The first package the unit declares. -/
def package? (unit : SourceUnit) : Option String :=
  unit.decls.findSome? Decl.package?

/-- The imports of the unit, in order. -/
def imports (unit : SourceUnit) : List Import :=
  unit.decls.filterMap Decl.import?

/-- The names of the types declared at the top level. -/
def typeNames (unit : SourceUnit) : List String :=
  (unit.decls.filterMap Decl.typeHead?).map ClassHead.name

end SourceUnit

end ClassCatalog
