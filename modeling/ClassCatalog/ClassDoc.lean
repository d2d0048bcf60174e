import ClassCatalog.Text.Dotted

/-!
# Class documents

What is documented of a class: its name among the enclosing classes, the description, the ancestors
and the methods with their parameters.
-/

namespace ClassCatalog

/-- What is documented of a parameter; a parameter without a written type has none. -/
structure ParameterDoc where
  name : String
  type : Option String := none
deriving DecidableEq, Inhabited

/-- What is documented of a method; `type` is what its documentation comment states. -/
structure MethodDoc where
  name : String
  description : Option String := none
  type : Option String := none
  modifiers : List String := []
  parameters : List ParameterDoc := []
deriving DecidableEq, Inhabited

/-- What is documented of a class. -/
structure ClassDoc where
  /-- The names of the enclosing classes and of the class itself, with dots between them. -/
  name : String
  description : Option String := none
  /-- Each declared supertype, followed by its ancestors; the root type is left out. -/
  ancestors : List String := []
  methods : List MethodDoc := []
deriving DecidableEq, Inhabited

/-- The method with one more parameter. -/
def MethodDoc.addParameter (method : MethodDoc) (parameter : ParameterDoc) : MethodDoc :=
  { method with parameters := method.parameters ++ [parameter] }

namespace ClassDoc

/-- The name of the class without the enclosing classes. -/
def simpleName (doc : ClassDoc) : String :=
  Text.lastSegment doc.name

/-- The class with one more method. -/
def addMethod (doc : ClassDoc) (method : MethodDoc) : ClassDoc :=
  { doc with methods := doc.methods ++ [method] }

/-- The class with more ancestors. -/
def addAncestors (doc : ClassDoc) (names : List String) : ClassDoc :=
  { doc with ancestors := doc.ancestors ++ names }

/-- The class with one more parameter at one of its methods. -/
def addParameter (doc : ClassDoc) (method : Nat) (parameter : ParameterDoc) : ClassDoc :=
  { doc with methods := doc.methods.modify method (·.addParameter parameter) }

/-- Whether some ancestor is among the given names. -/
def extendsAny (doc : ClassDoc) (names : List String) : Bool :=
  names.any doc.ancestors.contains

end ClassDoc

end ClassCatalog
