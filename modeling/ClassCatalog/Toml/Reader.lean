import ClassCatalog.Toml.Document
import ClassCatalog.Toml.Text

/-!
# Reading TOML

A document is read line by line; a value may span lines. Every step consumes a part of the text, so
the number of characters bounds the depth of the recursion. Numbers and dates keep their spelling.
-/

namespace ClassCatalog.Toml

/-- The text without blanks at its start. -/
def skipSpaces (text : List Char) : List Char :=
  text.dropWhile isSpace

/-- The rest of a line behind a comment sign, up to the line end. -/
def skipComment (text : List Char) : List Char :=
  text.dropWhile isPlain

/-- Reads the rest of a line, which has nothing but a comment. -/
def readLineEnd (text : List Char) : Option (List Char) :=
  let rest :=
    match skipSpaces text with
    | '#' :: rest => skipComment rest
    | rest => rest
  match rest with
  | [] => some []
  | '\n' :: rest => some rest
  | _ => none

/-! ## Keys -/

/-- Whether a character may stand in a key without quotes. -/
def isKeyChar (c : Char) : Bool :=
  c.isAlphanum || c = '_' || c = '-'

/-- Reads one step of a key. -/
def readStep (text : List Char) : Option (String × List Char) :=
  match text with
  | '"' :: rest => (readQuoted rest).map packed
  | '\'' :: rest => (readLiteral rest).map packed
  | text =>
    let step := text.takeWhile isKeyChar
    if step.isEmpty then none else some (packed (step, text.dropWhile isKeyChar))

/-- Reads a key and the blanks behind it; `path` holds the steps that were read. -/
def readKey : Nat → List String → List Char → Option (Key × List Char)
  | 0, _, _ => none
  | fuel + 1, path, text =>
    match readStep text with
    | none => none
    | some (step, rest) =>
      match skipSpaces rest with
      | '.' :: rest => readKey fuel (path ++ [step]) (skipSpaces rest)
      | rest => some (⟨path, step⟩, rest)

/-! ## Values -/

/-- Whether a character may stand in a value without quotes. -/
def isBareChar (c : Char) : Bool :=
  isKeyChar c || c = '+' || c = '.' || c = ':'

/-- Reads a value without quotes. -/
def readBare (text : List Char) : Option (Json × List Char) :=
  let bare := String.ofList (text.takeWhile isBareChar)
  let rest := text.dropWhile isBareChar
  if bare = "true" then some (.bool true, rest)
  else if bare = "false" then some (.bool false, rest)
  else if bare.toList.any Char.isDigit || bare.endsWith "inf" || bare.endsWith "nan" then
    some (.number bare, rest)
  else none

/-- Skips blanks, line ends and comments between the items of an array. -/
def skipLines : Nat → List Char → List Char
  | 0, text => text
  | fuel + 1, text =>
    match text.dropWhile isSpaceOrEnd with
    | '#' :: rest => skipLines fuel (skipComment rest)
    | rest => rest

mutual

/-- Reads a value. -/
def readValue : Nat → List Char → Option (Json × List Char)
  | 0, _ => none
  | fuel + 1, text =>
    match text with
    | '[' :: rest =>
      match skipLines fuel rest with
      | ']' :: rest => some (.array [], rest)
      | rest => (readItems fuel [] rest).map fun (items, rest) => (.array items, rest)
    | '\x7b' :: rest =>
      match skipSpaces rest with
      | '\x7d' :: rest => some (.object [], rest)
      | rest => (readFields fuel [] rest).map fun (fields, rest) =>
        (.object (fieldsToJson fields), rest)
    | '"' :: _ => (readString text).map fun (value, rest) => (.string value, rest)
    | '\'' :: _ => (readString text).map fun (value, rest) => (.string value, rest)
    | _ => readBare text

/-- Reads the items of an array up to its end; a comma may stand behind the last one. -/
def readItems : Nat → List Json → List Char → Option (List Json × List Char)
  | 0, _, _ => none
  | fuel + 1, taken, text =>
    match readValue fuel text with
    | none => none
    | some (item, rest) =>
      match skipLines fuel rest with
      | ']' :: rest => some (taken ++ [item], rest)
      | ',' :: rest =>
        match skipLines fuel rest with
        | ']' :: rest => some (taken ++ [item], rest)
        | rest => readItems fuel (taken ++ [item]) rest
      | _ => none

/-- Reads the fields of a table on one line up to its end. -/
def readFields : Nat → Fields → List Char → Option (Fields × List Char)
  | 0, _, _ => none
  | fuel + 1, taken, text =>
    match readKey fuel [] text with
    | some (key, '=' :: rest) =>
      match readValue fuel (skipSpaces rest) with
      | none => none
      | some (value, rest) =>
        match taken.assign (.value value) key.last key.path, skipSpaces rest with
        | some fields, '\x7d' :: rest => some (fields, rest)
        | some fields, ',' :: rest => readFields fuel fields (skipSpaces rest)
        | _, _ => none
    | _ => none

end

/-! ## Lines -/

/-- Reads the lines of a document. -/
def readLines : Nat → Document → List Char → Option Document
  | 0, _, _ => none
  | fuel + 1, document, text =>
    match skipSpaces text with
    | [] => some document
    | '\n' :: rest => readLines fuel document rest
    | '#' :: rest => (readLineEnd ('#' :: rest)).bind (readLines fuel document)
    | '[' :: '[' :: rest =>
      match readKey fuel [] (skipSpaces rest) with
      | some (key, ']' :: ']' :: rest) => do
        readLines fuel (← document.appendTable key) (← readLineEnd rest)
      | _ => none
    | '[' :: rest =>
      match readKey fuel [] (skipSpaces rest) with
      | some (key, ']' :: rest) => do
        readLines fuel (← document.openTable key) (← readLineEnd rest)
      | _ => none
    | text =>
      match readKey fuel [] text with
      | some (key, '=' :: rest) => do
        let (value, rest) ← readValue fuel (skipSpaces rest)
        readLines fuel (← document.assign key value) (← readLineEnd rest)
      | _ => none

/-- The text without the mark that may stand before it. -/
def withoutMark : List Char → List Char
  | '\ufeff' :: rest => rest
  | text => text

/-- The value of a document. -/
def parse? (text : String) : Option Json := do
  let text ← joinLineEnds (withoutMark text.toList)
  let document ← readLines (text.length + 1) {} text
  return document.toJson

end ClassCatalog.Toml
