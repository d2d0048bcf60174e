import ClassCatalog.ClassDoc.Document
import ClassCatalog.Config

/-!
# Reading settings

Settings and types outside the sources are records: every field has a known name, and a field that
means nothing here is a fault. A record may also be written as an array of its fields in order.
-/

namespace ClassCatalog

open Json

/-- The fields of a record with the given field names. -/
def Json.record? (names : List String) : Json → Option (List (String × Json))
  | .object fields => if fields.all fun field => names.contains field.1 then some fields else none
  | .array items => some (names.zip items)
  | _ => none

/-- A field with a default value. -/
def Json.fieldOr? {α : Type} (decode? : Json → Option α) (default : α)
    (fields : List (String × Json)) (key : String) : Option α :=
  match field? fields key with
  | some none => some default
  | some (some value) => decode? value
  | none => none

/-- Reads a type outside the sources; only the name is required. -/
def KnownType.ofJson? (json : Json) : Option KnownType := do
  let fields ← json.record? ["name", "superclass", "interfaces", "interface"]
  return {
    name := ← requiredString? fields "name"
    superclass := ← optionalString? fields "superclass"
    interfaces := ← list? string? fields "interfaces"
    interface := ← fieldOr? bool? false fields "interface" }

/-- Reads a list of types outside the sources. -/
def KnownType.listOfJson? (json : Json) : Option (List KnownType) :=
  json.items?.bind (·.mapM KnownType.ofJson?)

namespace Config

/-- Reads the settings of logging. -/
def logLevelOfJson? (default : String) (json : Json) : Option String := do
  let fields ← json.record? ["level"]
  fieldOr? string? default fields "level"

/-- Reads settings; whatever is missing has its default. -/
def ofJson? (json : Json) : Option Config := do
  let default : Config := {}
  let fields ← json.record? ["interesting_base_types", "output", "known_types", "logging"]
  return {
    interestingTypes :=
      ← fieldOr? strings? default.interestingTypes fields "interesting_base_types"
    output := ← fieldOr? string? default.output fields "output"
    knownTypes := ← fieldOr? KnownType.listOfJson? default.knownTypes fields "known_types"
    logLevel := ← fieldOr? (logLevelOfJson? default.logLevel) default.logLevel fields "logging" }

end Config

end ClassCatalog
