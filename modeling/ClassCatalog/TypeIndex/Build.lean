import ClassCatalog.TypeIndex.Ancestors
import ClassCatalog.TypeIndex.Lookup
import ClassCatalog.TypeIndex.Standard

/-!
# Building the index

The index holds the standard library, the types described in the configuration and the types that
the source units declare, later ones in place of earlier ones of the same name. The supertypes of
declared types are looked up in the index itself. Since a type may be visible only as an inherited
member, the failures are looked up again as long as their number shrinks.
-/

namespace ClassCatalog

open Text

/-- A type described in the configuration, outside the sources. -/
structure KnownType where
  name : String
  superclass : Option String := none
  interfaces : List String := []
  interface : Bool := false
deriving DecidableEq, Inhabited

/-- A declared type with what it takes to look its supertypes up. -/
structure DeclaredType where
  /-- The full name. -/
  name : String
  kind : ClassKind
  supertypes : List Supertype
  /-- The names visible at the supertypes. -/
  scope : Scope
deriving Inhabited

namespace DeclaredType

/-- The full name of a type declared at a place: inside the innermost enclosing type or else in the
package. -/
def fullName (scope : Scope) (name : String) : String :=
  match scope.enclosing.getLast? with
  | some outer => member outer name
  | none => qualify scope.package name

/-- The scope inside a type declared at a place. -/
def innerScope (scope : Scope) (head : ClassHead) : Scope :=
  { scope with
    enclosing := scope.enclosing ++ [fullName scope head.name]
    typeVariables := scope.typeVariables ++ head.typeParameters }

mutual

/-- The types that a declaration declares, inner ones first. -/
def ofDecl (scope : Scope) : Decl → List DeclaredType
  | .type head members =>
    ofMembers (innerScope scope head) members ++
      [{ name := fullName scope head.name
         kind := head.kind
         supertypes := members.filterMap Decl.supertype?
         scope := { scope with typeVariables := scope.typeVariables ++ head.typeParameters } }]
  | _ => []

/-- The types declared by the members of a type, the local types of its methods included. -/
def ofMembers (scope : Scope) : List Decl → List DeclaredType
  | [] => []
  | .type head members :: rest => ofDecl scope (.type head members) ++ ofMembers scope rest
  | .method head members :: rest =>
    ofLocals { scope with typeVariables := scope.typeVariables ++ head.typeParameters } members ++
      ofMembers scope rest
  | _ :: rest => ofMembers scope rest

/-- The types declared right inside a method. -/
def ofLocals (scope : Scope) : List Decl → List DeclaredType
  | [] => []
  | .type head members :: rest => ofDecl scope (.type head members) ++ ofLocals scope rest
  | _ :: rest => ofLocals scope rest

end

/-- The scope at the top level of a unit. -/
def unitScope (unit : SourceUnit) : Scope :=
  { package := unit.package?, imports := ImportTable.ofList unit.imports }

/-- The types that a unit declares. -/
def ofUnit (unit : SourceUnit) : List DeclaredType :=
  unit.decls.flatMap (ofDecl (unitScope unit))

/-- The types that some units declare. -/
def ofUnits (units : List SourceUnit) : List DeclaredType :=
  units.flatMap ofUnit

end DeclaredType

namespace TypeIndex

/-- Enters a type described in the configuration. -/
def insertKnown (index : TypeIndex) (type : KnownType) : TypeIndex :=
  index.insertResolved type.name (if type.interface then .interface else .plain) type.superclass
    type.interfaces

/-- The direct supertypes of a declared type, looked up in the index. The superclass of its kind
comes first unless the type is a class that names another one. -/
def directSupertypes (index : TypeIndex) (type : DeclaredType) :
    List (Except ResolveError String) :=
  let namesSuperclass := type.kind == .plain && type.supertypes.any (·.clause == .extends)
  let implicit := if namesSuperclass then none else type.kind.implicitSuperclass?
  implicit.toList.map .ok ++ type.supertypes.map fun s => index.lookupReference s.name type.scope

/-- Whether some direct supertype of a declared type cannot be looked up. -/
def isUnsettled (index : TypeIndex) (type : DeclaredType) : Bool :=
  (index.directSupertypes type).any fun supertype => !supertype.isOk

/-- The types with a direct supertype that cannot be looked up. -/
def unsettled (index : TypeIndex) (types : List DeclaredType) : List DeclaredType :=
  types.filter index.isUnsettled

theorem length_unsettled_le (index : TypeIndex) (types : List DeclaredType) :
    (index.unsettled types).length ≤ types.length :=
  List.length_filter_le _ _

/-- Enters the direct supertypes of some types, all looked up in the index as it is. -/
def pass (index : TypeIndex) (types : List DeclaredType) : TypeIndex :=
  (types.map fun type => (type.name, index.directSupertypes type)).foldl
    (fun result found => result.setSupertypes found.1 found.2) index

/-- Enters the direct supertypes of some types, and again those of the types with failures as long
as each pass leaves fewer of them. -/
def settle (index : TypeIndex) (types : List DeclaredType) : TypeIndex :=
  let remaining := index.unsettled types
  if _h : remaining = [] ∨ remaining.length = types.length then index.pass types
  else (index.pass types).settle remaining
termination_by types.length
decreasing_by
  exact Nat.lt_of_le_of_ne (index.length_unsettled_le types) (not_or.1 _h).2

/-- The index of the types that are known before any supertype of a declared type is looked up. -/
def seed (types : List DeclaredType) (known : List KnownType) : TypeIndex :=
  types.foldl (fun index type => index.insert type.name ⟨type.kind, []⟩)
    (known.foldl insertKnown standard)

/-- The index of some units and of the types described in the configuration. -/
def build (units : List SourceUnit) (known : List KnownType) : TypeIndex :=
  let types := DeclaredType.ofUnits units
  (seed types known).settle types

/-- The index as the one who answers questions about types. -/
def resolver (index : TypeIndex) : Resolver where
  resolve := index.resolve
  ancestors := index.ancestors

end TypeIndex

end ClassCatalog
