import ClassCatalog.Decl
import ClassCatalog.Table

/-!
# Scopes

The names visible at a place of a source unit: its package, its imports, the enclosing types and the
type variables.
-/

namespace ClassCatalog

open Text

/-- The imports that can name types. -/
structure ImportTable where
  /-- Full names under the simple names they are imported as. -/
  singles : Table String := {}
  /-- Packages and types imported as a whole, each once, in order. -/
  onDemand : List String := []
deriving Inhabited

namespace ImportTable

/-- Records an import. Static imports name no types, and of two imports under one simple name the
later one counts. -/
def add (imports : ImportTable) (entry : Import) : ImportTable :=
  if entry.isStatic then imports
  else if entry.onDemand then
    if entry.path ∈ imports.onDemand then imports
    else { imports with onDemand := imports.onDemand ++ [entry.path] }
  else { imports with singles := imports.singles.insert (lastSegment entry.path) entry.path }

/-- The table of a list of imports. -/
def ofList (entries : List Import) : ImportTable :=
  entries.foldl add {}

/-- The full name imported under a simple name. -/
def single? (imports : ImportTable) (simple : String) : Option String :=
  imports.singles.get? simple

end ImportTable

/-- The names visible at a place of a source unit. -/
structure Scope where
  package : Option String := none
  imports : ImportTable := {}
  /-- Full names of the enclosing types, the outermost first. -/
  enclosing : List String := []
  typeVariables : List String := []
deriving Inhabited

end ClassCatalog
