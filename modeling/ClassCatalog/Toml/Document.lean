import ClassCatalog.Json

/-!
# TOML documents

A TOML document is a tree of tables that its lines fill step by step. What a line may still change
depends on how a table came to be: a table is opened by one header only, and keys with dots extend
only tables that such keys made.
-/

namespace ClassCatalog.Toml

/-- How a table came to be. -/
inductive Origin where
  /-- Opened by a header. -/
  | header
  /-- On the way to a table that a header opened. -/
  | implied
  /-- Made by a key with dots. -/
  | dotted
deriving DecidableEq, Inhabited

/-- What stands under a key. -/
inductive Item where
  | value (json : Json)
  | table (origin : Origin) (fields : List (String × Item))
  | tables (items : List (List (String × Item)))
deriving Inhabited

/-- The keys of a table with what stands under them, in order. -/
abbrev Fields := List (String × Item)

mutual

/-- The value of an item. -/
def Item.toJson : Item → Json
  | .value json => json
  | .table _ fields => .object (fieldsToJson fields)
  | .tables items => .array (tablesToJson items)

/-- The values of the fields of a table. -/
def fieldsToJson : List (String × Item) → List (String × Json)
  | [] => []
  | (key, item) :: rest => (key, item.toJson) :: fieldsToJson rest

/-- The values of some tables. -/
def tablesToJson : List (List (String × Item)) → List Json
  | [] => []
  | fields :: rest => .object (fieldsToJson fields) :: tablesToJson rest

end

namespace Fields

/-- Changes what stands under a key, which keeps its place. -/
def update (key : String) (change : Option Item → Option Item) : Fields → Option Fields
  | [] => (change none).map fun item => [(key, item)]
  | (name, item) :: rest =>
    if name = key then (change (some item)).map fun item => (name, item) :: rest
    else (update key change rest).map ((name, item) :: ·)

/-- Puts an item under a key that must be new, below the tables that the dotted part before the key
names. -/
def assign (item : Item) (key : String) : List String → Fields → Option Fields
  | [], fields => update key (fun old => if old.isSome then none else some item) fields
  | step :: path, fields =>
    fields.update step fun
      | none => (assign item key path []).map (.table .dotted)
      | some (.table .dotted inner) => (assign item key path inner).map (.table .dotted)
      | some _ => none

/-- Changes the table that a path of a header leads to. Under a list of tables the path goes on in
the last of them. -/
def within (change : Fields → Option Fields) : List String → Fields → Option Fields
  | [], fields => change fields
  | step :: path, fields =>
    fields.update step fun
      | none => (within change path []).map (.table .implied)
      | some (.table origin inner) => (within change path inner).map (.table origin)
      | some (.tables items) =>
        match items.getLast? with
        | some last => (within change path last).map fun last => .tables (items.dropLast ++ [last])
        | none => none
      | some (.value _) => none

/-- Opens the table of a header. -/
def openTable (key : String) : List String → Fields → Option Fields :=
  within <| update key fun
    | none => some (.table .header [])
    | some (.table .implied inner) => some (.table .header inner)
    | some _ => none

/-- Adds an empty table to the list of tables of a header. -/
def appendTable (key : String) : List String → Fields → Option Fields :=
  within <| update key fun
    | none => some (.tables [[]])
    | some (.tables items) => some (.tables (items ++ [[]]))
    | some _ => none

end Fields

/-- The part of a document that was read, and the header above the next line. -/
structure Document where
  fields : Fields := []
  header : List String := []
deriving Inhabited

/-- A key: the steps before its last one, and that one. -/
structure Key where
  path : List String
  last : String
deriving Inhabited

/-- All the steps of a key. -/
def Key.steps (key : Key) : List String :=
  key.path ++ [key.last]

namespace Document

/-- The document after a line that assigns a value. -/
def assign (document : Document) (key : Key) (value : Json) : Option Document :=
  (document.fields.within (Fields.assign (.value value) key.last key.path) document.header).map
    fun fields => { document with fields }

/-- The document after the header of a table. -/
def openTable (document : Document) (key : Key) : Option Document :=
  (document.fields.openTable key.last key.path).map fun fields => ⟨fields, key.steps⟩

/-- The document after the header of one more table of a list. -/
def appendTable (document : Document) (key : Key) : Option Document :=
  (document.fields.appendTable key.last key.path).map fun fields => ⟨fields, key.steps⟩

/-- The value of a document. -/
def toJson (document : Document) : Json :=
  .object (fieldsToJson document.fields)

end Document

end ClassCatalog.Toml
