import ClassCatalog.Extraction.Walk
import ClassCatalog.Selection

/-!
# Extraction

The documents of all classes of a unit, and the selected ones of several units.
-/

namespace ClassCatalog

/-- A type in a unit could not be resolved. -/
structure UnitFailure where
  path : String
  cause : ResolveError
deriving DecidableEq, Inhabited

/-- What came out of a unit; the warnings are there even if the unit failed. -/
structure UnitOutcome where
  result : Except UnitFailure (List ClassDoc)
  warnings : List Warning

/-- Ends a walk: classes that are still open are lost, with a warning. -/
def Walk.finish (walk : Walk) : Walk :=
  if walk.context.classes.depth = 0 then walk
  else walk.warn (.openClasses walk.context.classes.depth)

/-- Documents the classes of a unit, in the order in which they end. -/
def extractUnit (resolver : Resolver) (unit : SourceUnit) : UnitOutcome :=
  match Walk.visitAll resolver unit.decls {} with
  | (.error cause, walk) => ⟨.error ⟨unit.path, cause⟩, walk.warnings⟩
  | (.ok (), walk) => ⟨.ok walk.finish.context.classes.finished, walk.finish.warnings⟩

/-- What came out of several units. -/
structure Extraction where
  /-- The selected classes. -/
  classes : List ClassDoc := []
  /-- The number of units. -/
  units : Nat := 0
  /-- The number of classes before the selection. -/
  seen : Nat := 0
deriving DecidableEq, Inhabited

namespace Extraction

/-- Adds the classes of one more unit. -/
def add (extraction : Extraction) (selection : Selection) (docs : List ClassDoc) : Extraction :=
  { classes := extraction.classes ++ selection.apply docs
    units := extraction.units + 1
    seen := extraction.seen + docs.length }

/-- Documents units one after the other, up to the first failure. -/
def extend (resolver : Resolver) (selection : Selection) :
    List SourceUnit → Extraction → Except UnitFailure Extraction
  | [], extraction => .ok extraction
  | unit :: rest, extraction =>
    match (extractUnit resolver unit).result with
    | .error failure => .error failure
    | .ok docs => extend resolver selection rest (extraction.add selection docs)

end Extraction

/-- Documents the selected classes of several units. -/
def extractUnits (resolver : Resolver) (selection : Selection) (units : List SourceUnit) :
    Except UnitFailure Extraction :=
  Extraction.extend resolver selection units {}

end ClassCatalog
