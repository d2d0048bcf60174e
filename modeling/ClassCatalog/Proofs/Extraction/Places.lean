import ClassCatalog.Extraction
import Mathlib.Data.List.Forall2

/-!
# Places and class sites

A reading of declaration trees without any state.  A `Place` says what stands around and before a
position of a unit; `Place.innerScope` and `Place.outerScope` are the names visible there.  The
members of a class, flattened through methods but not into other classes, are its `Item`s, each
with the scope of its place.  A `ClassSite` is a class of the unit with its items, and
`ClassSite.Documents` says which document belongs to it.  `SourceUnit.classSites` lists the sites
of a unit in post-order, and `SourceUnit.dropped` the warnings about what belongs to no site.
-/

namespace ClassCatalog

open Text

/-! ## Places -/

/-- A class with the classes around it: their simple names from the outside in, its own, and the
package in force where it begins. -/
structure ClassPath where
  package : Option String
  outer : List String
  simple : String
deriving DecidableEq

namespace ClassPath

/-- The simple names down to the class. -/
def names (path : ClassPath) : List String := path.outer ++ [path.simple]

/-- The name of the class among the classes around it. -/
def name (path : ClassPath) : String := ".".intercalate path.names

/-- The name of the class with its package. -/
def fullName (path : ClassPath) : String := qualify path.package path.name

end ClassPath

mutual

/-- The packages and imports met in a declaration, in pre-order.  A method is looked into only
inside a class. -/
def Decl.header (inside : Bool) : Decl → List Decl
  | .package name => [.package name]
  | .imported entry => [.imported entry]
  | .type _ members => Decl.headerAll true members
  | .method _ members => if inside then Decl.headerAll inside members else []
  | .parameter _ => []
  | .supertype _ => []

/-- The packages and imports met in some declarations, in pre-order. -/
def Decl.headerAll (inside : Bool) : List Decl → List Decl
  | [] => []
  | decl :: rest => Decl.header inside decl ++ Decl.headerAll inside rest

end

/-- A position in a unit. -/
structure Place where
  /-- The packages and imports met before, in order. -/
  header : List Decl := []
  /-- The classes around the position, the innermost first. -/
  classes : List ClassPath := []
  /-- The type parameters of the classes and methods around the position, the outermost first. -/
  typeVariables : List String := []

namespace Place

/-- The package named last. -/
def package? (place : Place) : Option String :=
  (place.header.filterMap Decl.package?).getLast?

/-- The imports met so far. -/
def imports (place : Place) : ImportTable :=
  ImportTable.ofList (place.header.filterMap Decl.import?)

/-- Whether the position is inside a class. -/
def isInside (place : Place) : Bool := !place.classes.isEmpty

/-- The names visible inside the innermost class. -/
def innerScope (place : Place) : Scope :=
  { package := place.package?
    imports := place.imports
    enclosing := (place.classes.map ClassPath.fullName).reverse
    typeVariables := place.typeVariables }

/-- The names visible at the supertypes of the innermost class. -/
def outerScope (place : Place) : Scope :=
  { place.innerScope with enclosing := (place.classes.tail.map ClassPath.fullName).reverse }

/-- The path of a class that begins at a position. -/
def classPath (place : Place) (name : String) : ClassPath :=
  { package := place.package?
    outer := place.classes.head?.elim [] ClassPath.names
    simple := name }

theorem name_classPath (place : Place) (name : String) :
    (place.classPath name).name = qualify (place.classes.head?.map ClassPath.name) name := by
  cases h : place.classes with
  | nil => simp [classPath, ClassPath.name, ClassPath.names, h, qualify]
  | cons path rest =>
    have nested : path.names ≠ [] := by simp [ClassPath.names]
    rw [ClassPath.name, ClassPath.names]
    simp only [classPath, h, List.head?_cons, Option.elim_some, Option.map_some, qualify, member]
    rw [String.intercalate_append_of_ne_nil nested (by simp), String.intercalate_singleton]
    rfl

/-- The first position in a class. -/
def inClass (place : Place) (head : ClassHead) : Place :=
  { place with
    classes := place.classPath head.name :: place.classes
    typeVariables := place.typeVariables ++ head.typeParameters }

/-- The first position in a method. -/
def inMethod (place : Place) (head : MethodHead) : Place :=
  { place with typeVariables := place.typeVariables ++ head.typeParameters }

/-- The position behind a declaration. -/
def after (place : Place) (decl : Decl) : Place :=
  { place with header := place.header ++ decl.header place.isInside }

/-- The position behind some declarations. -/
def afterAll (place : Place) (decls : List Decl) : Place :=
  { place with header := place.header ++ Decl.headerAll place.isInside decls }

@[simp]
theorem afterAll_nil (place : Place) : place.afterAll [] = place := by
  simp [afterAll, Decl.headerAll]

theorem afterAll_cons (place : Place) (decl : Decl) (rest : List Decl) :
    place.afterAll (decl :: rest) = (place.after decl).afterAll rest := by
  simp [afterAll, after, Decl.headerAll, isInside]

end Place

/-! ## Items -/

/-- A member of a class, or of a method in it, that is not a class. -/
inductive Item where
  | method (head : MethodHead)
  | parameter (parameter : Parameter) (scope : Scope)
  | supertype (supertype : Supertype) (scope : Scope)

namespace Item

def isMethod : Item → Bool
  | method _ => true
  | _ => false

def parameter? : Item → Option (Parameter × Scope)
  | parameter p scope => some (p, scope)
  | _ => none

def supertype? : Item → Option (Supertype × Scope)
  | supertype s scope => some (s, scope)
  | _ => none

mutual

/-- The items of a declaration at a position, in pre-order. -/
def ofDecl (place : Place) : Decl → List Item
  | .method head members => method head :: ofDecls (place.inMethod head) members
  | .parameter p => [parameter p place.innerScope]
  | .supertype s => [supertype s place.outerScope]
  | .type _ _ => []
  | .package _ => []
  | .imported _ => []

/-- The items of declarations that follow each other. -/
def ofDecls (place : Place) : List Decl → List Item
  | [] => []
  | decl :: rest => ofDecl place decl ++ ofDecls (place.after decl) rest

end

/-- The parameters in front of the first method. -/
def leading (items : List Item) : List (Parameter × Scope) :=
  (items.takeWhile (!·.isMethod)).filterMap parameter?

@[simp]
theorem leading_nil : leading [] = [] := rfl

@[simp]
theorem leading_method (head : MethodHead) (rest : List Item) :
    leading (method head :: rest) = [] := rfl

@[simp]
theorem leading_parameter (p : Parameter) (scope : Scope) (rest : List Item) :
    leading (parameter p scope :: rest) = (p, scope) :: leading rest := rfl

@[simp]
theorem leading_supertype (s : Supertype) (scope : Scope) (rest : List Item) :
    leading (supertype s scope :: rest) = leading rest := rfl

/-- The methods, each with the parameters between it and the next method. -/
def methods : List Item → List (MethodHead × List (Parameter × Scope))
  | [] => []
  | method head :: rest => (head, leading rest) :: methods rest
  | _ :: rest => methods rest

/-- The supertype clauses. -/
def clauses (items : List Item) : List (Supertype × Scope) :=
  items.filterMap supertype?

theorem clauses_append (first second : List Item) :
    clauses (first ++ second) = clauses first ++ clauses second :=
  List.filterMap_append

end Item

/-! ## Class sites -/

/-- A class of a unit with the items among its members. -/
structure ClassSite where
  path : ClassPath
  doc : Option String
  items : List Item

namespace ClassSite

mutual

/-- The classes in a declaration at a position, in post-order.  A method is looked into only inside
a class. -/
def ofDecl (place : Place) : Decl → List ClassSite
  | .type head members =>
    ofDecls (place.inClass head) members ++
      [⟨place.classPath head.name, head.doc, Item.ofDecls (place.inClass head) members⟩]
  | .method head members => if place.isInside then ofDecls (place.inMethod head) members else []
  | .package _ => []
  | .imported _ => []
  | .parameter _ => []
  | .supertype _ => []

/-- The classes in declarations that follow each other, in post-order. -/
def ofDecls (place : Place) : List Decl → List ClassSite
  | [] => []
  | decl :: rest => ofDecl place decl ++ ofDecls (place.after decl) rest

end

/-- The document of a parameter: its type is looked up in the scope of its place. -/
def DocumentsParameter (resolver : Resolver) (site : Parameter × Scope) (doc : ParameterDoc) :
    Prop :=
  doc.name = site.1.name ∧ resolver.parameterType site.1.type site.2 = .ok doc.type

/-- The document of a method with its parameters. -/
def DocumentsMethod (resolver : Resolver) (site : MethodHead × List (Parameter × Scope))
    (doc : MethodDoc) : Prop :=
  ∃ parameters, List.Forall₂ (DocumentsParameter resolver) site.2 parameters ∧
    doc = { MethodDoc.ofHead site.1 with parameters }

/-- The ancestors that a supertype clause adds. -/
def Contributes (resolver : Resolver) (clause : Supertype × Scope) (chain : List String) : Prop :=
  resolver.ancestorChain clause.1.name clause.2 = .ok chain

/-- The document of a class. -/
structure Documents (resolver : Resolver) (site : ClassSite) (doc : ClassDoc) : Prop where
  name : doc.name = site.path.name
  description : doc.description = descriptionOf site.doc
  methods : List.Forall₂ (DocumentsMethod resolver) (Item.methods site.items) doc.methods
  ancestors : ∃ chains, List.Forall₂ (Contributes resolver) (Item.clauses site.items) chains ∧
    doc.ancestors = chains.flatten

end ClassSite

/-! ## What belongs to no class or method -/

mutual

/-- The warnings about a declaration at a position; `follows` says whether a method of the
innermost class stands before it. -/
def Decl.dropped (place : Place) (follows : Bool) : Decl → List Warning
  | .type head members => Decl.droppedAll (place.inClass head) false members
  | .method head members =>
    if place.isInside then Decl.droppedAll (place.inMethod head) true members
    else [.methodOutsideClass head.name]
  | .parameter p =>
    match place.classes with
    | [] => [.parameterOutsideClass p.name]
    | path :: _ => if follows then [] else [.parameterWithoutMethod path.name p.name]
  | .supertype s => if place.isInside then [] else [.supertypeOutsideClass s.name.dotted]
  | .package _ => []
  | .imported _ => []

/-- The warnings about declarations that follow each other. -/
def Decl.droppedAll (place : Place) (follows : Bool) : List Decl → List Warning
  | [] => []
  | decl :: rest =>
    Decl.dropped place follows decl ++
      Decl.droppedAll (place.after decl)
        (follows || (Item.ofDecl place decl).any Item.isMethod) rest

end

namespace SourceUnit

/-- The classes of a unit, in post-order. -/
def classSites (unit : SourceUnit) : List ClassSite :=
  ClassSite.ofDecls {} unit.decls

/-- The warnings about a unit. -/
def dropped (unit : SourceUnit) : List Warning :=
  Decl.droppedAll {} false unit.decls

end SourceUnit

end ClassCatalog
