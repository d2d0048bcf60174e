import ClassCatalog.ClassDoc

/-!
# The stack of open classes

While declarations are walked through, the classes around the current place are open, the innermost
on top. A class that is left becomes a finished document.
-/

namespace ClassCatalog

open Text

/-- An open class. -/
structure Frame where
  doc : ClassDoc
  /-- The name with the package in front. -/
  fullName : String
  /-- The position of the method that was added last. -/
  currentMethod : Option Nat := none
deriving DecidableEq, Inhabited

namespace Frame

/-- Adds a method, which becomes the current one. -/
def addMethod (frame : Frame) (method : MethodDoc) : Frame :=
  { frame with
    doc := frame.doc.addMethod method
    currentMethod := some frame.doc.methods.length }

/-- Adds ancestors. -/
def addAncestors (frame : Frame) (names : List String) : Frame :=
  { frame with doc := frame.doc.addAncestors names }

/-- Adds a parameter to one of the methods. -/
def addParameter (frame : Frame) (method : Nat) (parameter : ParameterDoc) : Frame :=
  { frame with doc := frame.doc.addParameter method parameter }

end Frame

/-- The open classes, the innermost first, and the finished ones in the order they were left. -/
structure ClassStack where
  package : Option String := none
  frames : List Frame := []
  finished : List ClassDoc := []
deriving DecidableEq, Inhabited

namespace ClassStack

/-- Opens a class inside the innermost open one. -/
def enter (stack : ClassStack) (simple : String) (description : Option String) : ClassStack :=
  let name := qualify (stack.frames.head?.map (·.doc.name)) simple
  { stack with
    frames := { doc := { name, description }, fullName := qualify stack.package name } ::
      stack.frames }

/-- Finishes the innermost open class, if there is one. -/
def exit (stack : ClassStack) : ClassStack :=
  match stack.frames with
  | [] => stack
  | frame :: outer => { stack with frames := outer, finished := stack.finished ++ [frame.doc] }

/-- Names the package of the classes that are opened from now on. -/
def setPackage (stack : ClassStack) (package : String) : ClassStack :=
  { stack with package := some package }

/-- The innermost open class. -/
def current? (stack : ClassStack) : Option Frame :=
  stack.frames.head?

/-- Changes the innermost open class, if there is one. -/
def modifyCurrent (stack : ClassStack) (f : Frame → Frame) : ClassStack :=
  match stack.frames with
  | [] => stack
  | frame :: outer => { stack with frames := f frame :: outer }

/-- The number of open classes. -/
def depth (stack : ClassStack) : Nat :=
  stack.frames.length

/-- The full names of all open classes, the outermost first. -/
def enclosingNames (stack : ClassStack) : List String :=
  (stack.frames.map Frame.fullName).reverse

/-- The full names of the classes around the innermost open one, the outermost first. -/
def outerNames (stack : ClassStack) : List String :=
  (stack.frames.tail.map Frame.fullName).reverse

end ClassStack

end ClassCatalog
