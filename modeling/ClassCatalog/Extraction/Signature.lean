import ClassCatalog.ClassDoc
import ClassCatalog.DocComment
import ClassCatalog.Resolution

/-!
# Signatures

What the document says of a method before its parameters, of the type of a parameter, and of a
declared supertype.
-/

namespace ClassCatalog

/-- The description in a raw documentation comment. -/
def descriptionOf (raw : Option String) : Option String :=
  raw.bind fun text => (DocComment.parse text).description?

/-- A method as its declaration states it, without parameters. -/
def MethodDoc.ofHead (head : MethodHead) : MethodDoc :=
  let comment := head.doc.map DocComment.parse
  { name := head.name
    description := comment.bind DocComment.description?
    type := comment.bind (·.tagContent? DocComment.typeTag)
    modifiers := head.modifiers }

/-- The name under which a parameter type is documented: the boxing class of a primitive type, the
full name of a class, and a remark on anything else. -/
def ResolvedType.documentedName : ResolvedType → String
  | .primitive p => p.boxedName
  | .reference name => name
  | other => "unknown: " ++ other.render

namespace Resolver

/-- The documented type of a parameter; none if no type is written. -/
def parameterType (resolver : Resolver) (type : TypeExpr) (scope : Scope) :
    Except ResolveError (Option String) :=
  if type.isInferred then .ok none
  else (resolver.resolve type scope).map fun resolved => some resolved.documentedName

/-- A declared supertype followed by its ancestors. The root type is left out, and repetitions
stay. -/
def ancestorChain (resolver : Resolver) (supertype : TypeName) (scope : Scope) :
    Except ResolveError (List String) :=
  match resolver.resolve (.named supertype) scope with
  | .error e => .error e
  | .ok resolved =>
    match resolved.reference? with
    | none => .error (.notAReferenceType supertype.dotted)
    | some name =>
      (resolver.ancestors name).map fun ancestors =>
        (name :: ancestors).filter (· ≠ rootType)

end Resolver

end ClassCatalog
