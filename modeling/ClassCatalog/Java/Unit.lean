import ClassCatalog.Java.Declarations
import ClassCatalog.Java.Parse
import ClassCatalog.Warning

/-!
# Source units of Java text
-/

namespace ClassCatalog.SourceUnit

/-- The unit of a file's text. Text that fits no rule is left out, with a warning. -/
def ofText (path text : String) : SourceUnit × List Warning :=
  let source := text.toList
  let tree := Java.parse source
  ({ path, decls := Java.programDecls source tree },
    if tree.hasError then [.syntaxErrors path] else [])

end ClassCatalog.SourceUnit
