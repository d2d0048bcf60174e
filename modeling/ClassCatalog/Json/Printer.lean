import ClassCatalog.Json

/-!
# Writing JSON

Two layouts: on one line without any blank, and over several lines, indented by two spaces a level.
-/

namespace ClassCatalog

/-- How JSON is laid out. -/
inductive Layout where
  | pretty
  | compact
deriving DecidableEq, Inhabited

namespace Json

/-- A character as it stands in a string: quotes, backslashes and control characters below the space
are escaped. -/
def escape (c : Char) : List Char :=
  if c = '"' then ['\\', '"']
  else if c = '\\' then ['\\', '\\']
  else if c = '\n' then ['\\', 'n']
  else if c = '\r' then ['\\', 'r']
  else if c = '\t' then ['\\', 't']
  else if c = '\x08' then ['\\', 'b']
  else if c = '\x0c' then ['\\', 'f']
  else if c.toNat < 0x20 then
    ['\\', 'u', '0', '0', Nat.digitChar (c.toNat / 16), Nat.digitChar (c.toNat % 16)]
  else [c]

/-- A text in quotes. -/
def quote (text : String) : List Char :=
  '"' :: (text.toList.flatMap escape ++ ['"'])

mutual

/-- A value on one line. -/
def compact : Json → List Char
  | null => ['n', 'u', 'l', 'l']
  | bool true => ['t', 'r', 'u', 'e']
  | bool false => ['f', 'a', 'l', 's', 'e']
  | number literal => literal.toList
  | string value => quote value
  | array items => '[' :: (compactItems items ++ [']'])
  | object fields => '\x7b' :: (compactFields fields ++ ['\x7d'])

/-- Items with commas between them. -/
def compactItems : List Json → List Char
  | [] => []
  | [item] => item.compact
  | item :: rest => item.compact ++ ',' :: compactItems rest

/-- Fields with commas between them. -/
def compactFields : List (String × Json) → List Char
  | [] => []
  | [(key, value)] => quote key ++ ':' :: value.compact
  | (key, value) :: rest => quote key ++ ':' :: (value.compact ++ ',' :: compactFields rest)

end

/-- A new line at a level of indentation. -/
def newline (level : Nat) : List Char :=
  '\n' :: List.replicate (2 * level) ' '

mutual

/-- A value over several lines, starting at a level of indentation. -/
def pretty (level : Nat) : Json → List Char
  | array [] => ['[', ']']
  | array (item :: rest) =>
    '[' :: (prettyItems (level + 1) (item :: rest) ++ newline level ++ [']'])
  | object [] => ['\x7b', '\x7d']
  | object (field :: rest) =>
    '\x7b' :: (prettyFields (level + 1) (field :: rest) ++ newline level ++ ['\x7d'])
  | null => ['n', 'u', 'l', 'l']
  | bool true => ['t', 'r', 'u', 'e']
  | bool false => ['f', 'a', 'l', 's', 'e']
  | number literal => literal.toList
  | string value => quote value

/-- Items on lines of their own, with commas between them. -/
def prettyItems (level : Nat) : List Json → List Char
  | [] => []
  | [item] => newline level ++ item.pretty level
  | item :: rest => newline level ++ item.pretty level ++ ',' :: prettyItems level rest

/-- Fields on lines of their own, with commas between them. -/
def prettyFields (level : Nat) : List (String × Json) → List Char
  | [] => []
  | [(key, value)] => newline level ++ quote key ++ ':' :: ' ' :: value.pretty level
  | (key, value) :: rest =>
    newline level ++ quote key ++
      ':' :: ' ' :: (value.pretty level ++ ',' :: prettyFields level rest)

end

/-- The text of a value. -/
def render (layout : Layout) (json : Json) : String :=
  String.ofList <|
    match layout with
    | .pretty => json.pretty 0
    | .compact => json.compact

end Json

end ClassCatalog
