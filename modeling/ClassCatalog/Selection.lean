import ClassCatalog.ClassDoc

/-!
# Selection

Only classes with an interesting ancestor are documented.
-/

namespace ClassCatalog

/-- The types whose subtypes are documented, each once. -/
structure Selection where
  types : List String
deriving DecidableEq, Inhabited

namespace Selection

/-- The selection of some type names; repetitions do not count. -/
def ofList (names : List String) : Selection :=
  ⟨names.foldl (fun types name => if name ∈ types then types else types ++ [name]) []⟩

/-- Whether a class has an interesting ancestor. -/
def isInteresting (selection : Selection) (doc : ClassDoc) : Bool :=
  doc.extendsAny selection.types

/-- The interesting ones among some classes. -/
def apply (selection : Selection) (docs : List ClassDoc) : List ClassDoc :=
  docs.filter selection.isInteresting

end Selection

end ClassCatalog
