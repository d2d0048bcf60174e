import ClassCatalog.TypeIndex.Basic

/-!
# Looking names up

A simple name is searched in the enclosing types from the inside out, then among the imports, in the
package, in the packages imported as a whole and in `java.lang`. The other segments of a name are
member types, which a type declares itself or inherits.
-/

namespace ClassCatalog.TypeIndex

open Text

/-- The types met by a depth-first walk from the types in a queue, leaving out those already seen.
A type comes before its supertypes, and these come in the order of its declaration. -/
def depthFirst (index : TypeIndex) (queue seen : List String) : List String :=
  match queue with
  | [] => []
  | name :: rest =>
    if name ∈ seen then index.depthFirst rest seen
    else name :: index.depthFirst (index.supertypes name ++ rest) (name :: seen)
termination_by ((index.unvisited seen).length, queue.length)
decreasing_by
  · exact Prod.Lex.right _ (by simp)
  · rename_i new
    by_cases known : name ∈ index.names
    · exact Prod.Lex.left _ _ (length_unvisited_cons_lt known new)
    · rw [supertypes_eq_nil known, List.nil_append]
      have fewer := index.length_unvisited_le_of_subset (List.subset_cons_self name seen)
      rcases Nat.lt_or_eq_of_le fewer with h | h
      · exact Prod.Lex.left _ _ h
      · rw [h]
        exact Prod.Lex.right _ (by simp)

/-- A member type of a type, its own or else the first one that a depth-first walk over its
supertypes finds. -/
def memberType? (index : TypeIndex) (owner simple : String) : Option String :=
  (index.depthFirst [owner] []).findSome? fun type =>
    if index.contains (member type simple) then some (member type simple) else none

/-- Follows segments from a type to member types. -/
def memberPath? (index : TypeIndex) (base : String) : List String → Option String
  | [] => some base
  | segment :: rest => (index.memberType? base segment).bind fun type =>
    index.memberPath? type rest

/-- A name below a base. Nothing is known of the members of a base outside the index, so there the
segments are taken as they are. -/
def below (index : TypeIndex) (base : String) (rest : List String) (full : TypeName) :
    Except ResolveError String :=
  if index.contains base then
    match index.memberPath? base rest with
    | some type => .ok type
    | none => .error (.unknownType full.dotted)
  else .ok (rest.foldl member base)

/-- A simple name in one enclosing type: its members, then the type itself. -/
def inEnclosing? (index : TypeIndex) (simple enclosing : String) : Option String :=
  match index.memberType? enclosing simple with
  | some type => some type
  | none => if lastSegment enclosing = simple then some enclosing else none

/-- The first of some names that is known. -/
def firstKnown? (index : TypeIndex) (candidates : List String) : Option String :=
  candidates.find? index.contains

/-- What a simple name stands for at a place. A name imported by itself needs no declaration. -/
def lookupSimple? (index : TypeIndex) (simple : String) (scope : Scope) : Option String :=
  (scope.enclosing.reverse.findSome? (index.inEnclosing? simple)).or <|
    (scope.imports.single? simple).or <|
      index.firstKnown? <|
        qualify scope.package simple :: scope.imports.onDemand.map (member · simple) ++
          [member "java.lang" simple]

/-- A full name: the fewest leading segments that make up a known type, then member types. -/
def lookupQualified (index : TypeIndex) (full : TypeName) (taken : List String) :
    List String → Except ResolveError String
  | [] => .error (.unknownType full.dotted)
  | segment :: rest =>
    let base := ".".intercalate (taken ++ [segment])
    if index.contains base then index.below base rest full
    else index.lookupQualified full (taken ++ [segment]) rest

/-- What a name stands for at a place. -/
def lookup (index : TypeIndex) (name : TypeName) (scope : Scope) :
    Except ResolveError ResolvedType :=
  match name.segments with
  | [] => .error (.unknownType name.dotted)
  | first :: rest =>
    if rest.isEmpty && scope.typeVariables.contains first then .ok (.typeVariable first)
    else
      ResolvedType.reference <$>
        match index.lookupSimple? first scope with
        | some base => index.below base rest name
        | none => index.lookupQualified name [] name.segments

/-- The class or interface that a name stands for at a place. -/
def lookupReference (index : TypeIndex) (name : TypeName) (scope : Scope) :
    Except ResolveError String :=
  match index.lookup name scope with
  | .ok (.reference type) => .ok type
  | .ok _ => .error (.notAReferenceType name.dotted)
  | .error e => .error e

/-- What a written type denotes at a place. -/
def resolve (index : TypeIndex) : TypeExpr → Scope → Except ResolveError ResolvedType
  | .inferred, _ => .error .inferredType
  | .primitive p, _ => .ok (.primitive p)
  | .named name, scope => index.lookup name scope
  | .array element dimensions, scope =>
    (index.resolve element scope).map fun type => type.arrayOf dimensions

end ClassCatalog.TypeIndex
