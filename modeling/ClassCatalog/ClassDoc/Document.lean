import ClassCatalog.ClassDoc
import ClassCatalog.Json.Printer
import ClassCatalog.Json.Reader

/-!
# The document

The document is a JSON array of class documents. A description or a type that is missing has no
field. When a document is read, only names are required, and fields that mean nothing here are
skipped. A record may also be written as an array of its fields in order.
-/

namespace ClassCatalog

namespace Json

/-- The value of a field, if there is one; fails if the field stands there twice. -/
def field? (fields : List (String × Json)) (key : String) : Option (Option Json) :=
  match fields.filter fun field => field.1 == key with
  | [] => some none
  | [(_, value)] => some (some value)
  | _ => none

/-- The fields of a record with the given field names. In an array the last ones may be missing. -/
def fieldsOf? (names : List String) : Json → Option (List (String × Json))
  | object fields => some fields
  | array items => if items.length ≤ names.length then some (names.zip items) else none
  | _ => none

/-- The text of a field that must be there. -/
def requiredString? (fields : List (String × Json)) (key : String) : Option String :=
  match field? fields key with
  | some (some (string value)) => some value
  | _ => none

/-- The text of a field that may be missing or null. -/
def optionalString? (fields : List (String × Json)) (key : String) : Option (Option String) :=
  match field? fields key with
  | some none => some none
  | some (some null) => some none
  | some (some (string value)) => some (some value)
  | _ => none

/-- The items of a field, none if it is missing. -/
def list? {α : Type} (decode? : Json → Option α) (fields : List (String × Json)) (key : String) :
    Option (List α) :=
  match field? fields key with
  | some none => some []
  | some (some (array items)) => items.mapM decode?
  | _ => none

/-- A field that is left out if there is nothing to say. -/
def optionalField (key : String) : Option String → List (String × Json)
  | some value => [(key, string value)]
  | none => []

end Json

open Json

namespace ParameterDoc

/-- A parameter as a JSON object. -/
def toJson (doc : ParameterDoc) : Json :=
  .object (("name", .string doc.name) :: optionalField "type" doc.type)

/-- Reads a parameter. -/
def ofJson? (json : Json) : Option ParameterDoc := do
  let fields ← json.fieldsOf? ["name", "type"]
  return { name := ← requiredString? fields "name", type := ← optionalString? fields "type" }

end ParameterDoc

namespace MethodDoc

/-- A method as a JSON object. -/
def toJson (doc : MethodDoc) : Json :=
  .object <|
    ("name", .string doc.name) :: optionalField "documentation" doc.description ++
      optionalField "type" doc.type ++
      [("modifiers", Json.ofStrings doc.modifiers),
        ("parameters", .array (doc.parameters.map ParameterDoc.toJson))]

/-- Reads a method. -/
def ofJson? (json : Json) : Option MethodDoc := do
  let fields ← json.fieldsOf? ["name", "documentation", "type", "modifiers", "parameters"]
  return {
    name := ← requiredString? fields "name"
    description := ← optionalString? fields "documentation"
    type := ← optionalString? fields "type"
    modifiers := ← list? string? fields "modifiers"
    parameters := ← list? ParameterDoc.ofJson? fields "parameters" }

end MethodDoc

namespace ClassDoc

/-- A class as a JSON object. -/
def toJson (doc : ClassDoc) : Json :=
  .object <|
    ("name", .string doc.name) :: optionalField "classJavaDoc" doc.description ++
      [("extendedClasses", Json.ofStrings doc.ancestors),
        ("methods", .array (doc.methods.map MethodDoc.toJson))]

/-- Reads a class. -/
def ofJson? (json : Json) : Option ClassDoc := do
  let fields ← json.fieldsOf? ["name", "classJavaDoc", "extendedClasses", "methods"]
  return {
    name := ← requiredString? fields "name"
    description := ← optionalString? fields "classJavaDoc"
    ancestors := ← list? string? fields "extendedClasses"
    methods := ← list? MethodDoc.ofJson? fields "methods" }

/-- Reads a list of classes. -/
def listOfJson? : Json → Option (List ClassDoc)
  | .array items => items.mapM ofJson?
  | _ => none

/-- The document of some classes. -/
def document (layout : Layout) (docs : List ClassDoc) : String :=
  Json.render layout (.array (docs.map toJson))

/-- The classes of a document. -/
def ofDocument? (text : String) : Option (List ClassDoc) :=
  (Json.parse? text).bind listOfJson?

end ClassDoc

end ClassCatalog
