import ClassCatalog.Extraction.Signature
import ClassCatalog.Extraction.UnitContext
import ClassCatalog.Warning

/-!
# The walk through declarations

One walk through the declarations of a unit documents its classes. Methods, parameters and
supertypes belong to the innermost open class, and a parameter belongs to the method of that class
that came last. A type that cannot be resolved stops the walk, but every class that was opened is
closed again.
-/

namespace ClassCatalog

/-- The state of a walk. -/
structure Walk where
  context : UnitContext := {}
  warnings : List Warning := []
deriving Inhabited

namespace Walk

/-- Changes the context. -/
def modifyContext (walk : Walk) (f : UnitContext → UnitContext) : Walk :=
  { walk with context := f walk.context }

/-- Changes the open classes. -/
def modifyClasses (walk : Walk) (f : ClassStack → ClassStack) : Walk :=
  walk.modifyContext (·.modifyClasses f)

/-- Records a warning. -/
def warn (walk : Walk) (warning : Warning) : Walk :=
  { walk with warnings := walk.warnings ++ [warning] }

/-- Adds a parameter to the current method. -/
def visitParameter (resolver : Resolver) (parameter : Parameter) (walk : Walk) :
    Except ResolveError Unit × Walk :=
  match walk.context.classes.current? with
  | none => (.ok (), walk.warn (.parameterOutsideClass parameter.name))
  | some frame =>
    match frame.currentMethod with
    | none => (.ok (), walk.warn (.parameterWithoutMethod frame.doc.name parameter.name))
    | some method =>
      match resolver.parameterType parameter.type walk.context.innerScope with
      | .error e => (.error e, walk)
      | .ok type =>
        (.ok (), walk.modifyClasses
          (·.modifyCurrent (·.addParameter method { name := parameter.name, type })))

/-- Adds a supertype with its ancestors to the innermost open class. -/
def visitSupertype (resolver : Resolver) (supertype : Supertype) (walk : Walk) :
    Except ResolveError Unit × Walk :=
  match walk.context.classes.current? with
  | none => (.ok (), walk.warn (.supertypeOutsideClass supertype.name.dotted))
  | some _ =>
    match resolver.ancestorChain supertype.name walk.context.outerScope with
    | .error e => (.error e, walk)
    | .ok chain => (.ok (), walk.modifyClasses (·.modifyCurrent (·.addAncestors chain)))

/-- Opens a class with its type parameters. -/
def enterClass (head : ClassHead) (walk : Walk) : Walk :=
  walk.modifyContext fun context =>
    (context.modifyClasses (·.enter head.name (descriptionOf head.doc))).pushTypeVariables
      head.typeParameters

/-- Closes the innermost open class, leaving as many type variables as there were before it. -/
def exitClass (mark : Nat) (walk : Walk) : Walk :=
  walk.modifyContext fun context =>
    (context.popTypeVariables mark).modifyClasses ClassStack.exit

/-- Adds a method to the innermost open class and makes its type parameters visible. -/
def enterMethod (head : MethodHead) (walk : Walk) : Walk :=
  walk.modifyContext fun context =>
    (context.modifyClasses (·.modifyCurrent (·.addMethod (.ofHead head)))).pushTypeVariables
      head.typeParameters

/-- Leaves a method. -/
def exitMethod (mark : Nat) (walk : Walk) : Walk :=
  walk.modifyContext (·.popTypeVariables mark)

mutual

/-- Visits a declaration and everything in it. -/
def visit (resolver : Resolver) : Decl → Walk → Except ResolveError Unit × Walk
  | .package name, walk => (.ok (), walk.modifyContext (·.setPackage name))
  | .imported entry, walk => (.ok (), walk.modifyContext (·.addImport entry))
  | .type head members, walk =>
    let mark := walk.context.typeVariables.length
    let (result, walk) := visitAll resolver members (walk.enterClass head)
    (result, walk.exitClass mark)
  | .method head members, walk =>
    match walk.context.classes.current? with
    | none => (.ok (), walk.warn (.methodOutsideClass head.name))
    | some _ =>
      let mark := walk.context.typeVariables.length
      let (result, walk) := visitAll resolver members (walk.enterMethod head)
      (result, walk.exitMethod mark)
  | .parameter parameter, walk => walk.visitParameter resolver parameter
  | .supertype supertype, walk => walk.visitSupertype resolver supertype

/-- Visits declarations one after the other, up to the first failure. -/
def visitAll (resolver : Resolver) : List Decl → Walk → Except ResolveError Unit × Walk
  | [], walk => (.ok (), walk)
  | decl :: rest, walk =>
    match visit resolver decl walk with
    | (.ok (), walk) => visitAll resolver rest walk
    | (.error e, walk) => (.error e, walk)

end

end Walk

end ClassCatalog
