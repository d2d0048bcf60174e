/-!
# JSON values

A number keeps its spelling, and an object keeps its fields in the order in which they are written.
-/

namespace ClassCatalog

/-- A JSON value. -/
inductive Json where
  | null
  | bool (value : Bool)
  | number (literal : String)
  | string (value : String)
  | array (items : List Json)
  | object (fields : List (String × Json))
deriving Inhabited

namespace Json

/-- The text of a string. -/
def string? : Json → Option String
  | string value => some value
  | _ => none

/-- The truth value of a boolean. -/
def bool? : Json → Option Bool
  | bool value => some value
  | _ => none

/-- The items of an array. -/
def items? : Json → Option (List Json)
  | array items => some items
  | _ => none

/-- The texts of an array of strings. -/
def strings? (json : Json) : Option (List String) :=
  json.items?.bind (·.mapM string?)

/-- A string, or nothing in place of a missing one. -/
def ofOption : Option String → Json
  | some value => string value
  | none => null

/-- An array of strings. -/
def ofStrings (values : List String) : Json :=
  array (values.map string)

/-- A natural number. -/
def ofNat (n : Nat) : Json :=
  number (toString n)

end Json

end ClassCatalog
