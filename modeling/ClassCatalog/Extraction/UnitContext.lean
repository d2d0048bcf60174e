import ClassCatalog.Extraction.ClassStack
import ClassCatalog.Scope

/-!
# The context of a walk

What the declarations walked through so far make visible: the package, the imports, the open classes
and the type variables.
-/

namespace ClassCatalog

/-- What is visible at the current place of a unit. -/
structure UnitContext where
  package : Option String := none
  imports : ImportTable := {}
  classes : ClassStack := {}
  typeVariables : List String := []
deriving Inhabited

namespace UnitContext

/-- Names the package, also for the classes that are opened from now on. -/
def setPackage (context : UnitContext) (package : String) : UnitContext :=
  { context with package := some package, classes := context.classes.setPackage package }

/-- Records an import. -/
def addImport (context : UnitContext) (entry : Import) : UnitContext :=
  { context with imports := context.imports.add entry }

/-- Changes the open classes. -/
def modifyClasses (context : UnitContext) (f : ClassStack → ClassStack) : UnitContext :=
  { context with classes := f context.classes }

/-- Makes type variables visible. -/
def pushTypeVariables (context : UnitContext) (names : List String) : UnitContext :=
  { context with typeVariables := context.typeVariables ++ names }

/-- Leaves only as many type variables as there were at some earlier time. -/
def popTypeVariables (context : UnitContext) (mark : Nat) : UnitContext :=
  { context with typeVariables := context.typeVariables.take mark }

/-- The names visible inside the innermost open class. -/
def innerScope (context : UnitContext) : Scope :=
  { package := context.package
    imports := context.imports
    enclosing := context.classes.enclosingNames
    typeVariables := context.typeVariables }

/-- The names visible at the supertypes of the innermost open class. -/
def outerScope (context : UnitContext) : Scope :=
  { package := context.package
    imports := context.imports
    enclosing := context.classes.outerNames
    typeVariables := context.typeVariables }

end UnitContext

end ClassCatalog
