import ClassCatalog.Json

/-!
# Reading JSON

Reading follows the grammar of JSON. Each step consumes a part of the text, so the number of
characters bounds the depth of the recursion.
-/

namespace ClassCatalog.Json

/-- The blanks of JSON. -/
def isSpace (c : Char) : Bool :=
  c = ' ' || c = '\n' || c = '\r' || c = '\t'

/-- The text without blanks at its start. -/
def skipSpaces (text : List Char) : List Char :=
  text.dropWhile isSpace

/-- The value of a hexadecimal digit. -/
def hexDigit? (c : Char) : Option Nat :=
  if '0' ≤ c ∧ c ≤ '9' then some (c.toNat - 48)
  else if 'a' ≤ c ∧ c ≤ 'f' then some (c.toNat - 87)
  else if 'A' ≤ c ∧ c ≤ 'F' then some (c.toNat - 55)
  else none

/-- The number that four hexadecimal digits write. -/
def hexUnit? (a b c d : Char) : Option Nat := do
  let a ← hexDigit? a
  let b ← hexDigit? b
  let c ← hexDigit? c
  let d ← hexDigit? d
  return ((a * 16 + b) * 16 + c) * 16 + d

/-- The character that one letter behind a backslash stands for. -/
def unescape? : Char → Option Char
  | '"' => some '"'
  | '\\' => some '\\'
  | '/' => some '/'
  | 'b' => some '\x08'
  | 'f' => some '\x0c'
  | 'n' => some '\n'
  | 'r' => some '\r'
  | 't' => some '\t'
  | _ => none

/-- Whether a number is the first half of a pair that writes one character. -/
def isHighHalf (n : Nat) : Bool :=
  0xD800 ≤ n && n < 0xDC00

/-- Whether a number is the second half of a pair that writes one character. -/
def isLowHalf (n : Nat) : Bool :=
  0xDC00 ≤ n && n < 0xE000

/-- The character that a pair of halves writes. -/
def ofHalves (high low : Nat) : Char :=
  Char.ofNat (0x10000 + (high - 0xD800) * 0x400 + (low - 0xDC00))

/-- Reads a string from behind its opening quote. What was read is in `taken`, the last character
first, and `half` is a first half that waits for its second one. -/
def readString (taken : List Char) (half : Option Nat) :
    List Char → Option (List Char × List Char)
  | [] => none
  | '\\' :: 'u' :: a :: b :: c :: d :: rest =>
    match hexUnit? a b c d, half with
    | none, _ => none
    | some unit, some high =>
      if isLowHalf unit then readString (ofHalves high unit :: taken) none rest else none
    | some unit, none =>
      if isHighHalf unit then readString taken (some unit) rest
      else if isLowHalf unit then none
      else readString (Char.ofNat unit :: taken) none rest
  | '"' :: rest => if half.isSome then none else some (taken.reverse, rest)
  | '\\' :: c :: rest =>
    match unescape? c, half with
    | some c, none => readString (c :: taken) none rest
    | _, _ => none
  | c :: rest =>
    if half.isSome || c.toNat < 0x20 then none else readString (c :: taken) none rest

/-- Whether a character may stand in a number. -/
def isNumberChar (c : Char) : Bool :=
  c.isDigit || c = '-' || c = '+' || c = '.' || c = 'e' || c = 'E'

/-- Whether a text is one digit or more. -/
def isDigits (text : List Char) : Bool :=
  !text.isEmpty && text.all Char.isDigit

/-- Whether a text is empty or an exponent. -/
def isExponent : List Char → Bool
  | [] => true
  | c :: rest =>
    (c = 'e' || c = 'E') &&
      match rest with
      | '+' :: digits => isDigits digits
      | '-' :: digits => isDigits digits
      | digits => isDigits digits

/-- Whether a text is what may follow the whole part of a number. -/
def isFraction : List Char → Bool
  | '.' :: rest =>
    isDigits (rest.takeWhile Char.isDigit) && isExponent (rest.dropWhile Char.isDigit)
  | rest => isExponent rest

/-- Whether a text is a number without a sign. -/
def isMagnitude : List Char → Bool
  | '0' :: rest => isFraction rest
  | text =>
    isDigits (text.takeWhile Char.isDigit) && isFraction (text.dropWhile Char.isDigit)

/-- Whether a text is a number. -/
def isNumber : List Char → Bool
  | '-' :: rest => isMagnitude rest
  | text => isMagnitude text

/-- Reads a number. -/
def readNumber (text : List Char) : Option (Json × List Char) :=
  let literal := text.takeWhile isNumberChar
  if isNumber literal then some (number (String.ofList literal), text.dropWhile isNumberChar)
  else none

mutual

/-- Reads a value that starts right at the text. -/
def readValue : Nat → List Char → Option (Json × List Char)
  | 0, _ => none
  | fuel + 1, text =>
    match text with
    | 'n' :: 'u' :: 'l' :: 'l' :: rest => some (null, rest)
    | 't' :: 'r' :: 'u' :: 'e' :: rest => some (bool true, rest)
    | 'f' :: 'a' :: 'l' :: 's' :: 'e' :: rest => some (bool false, rest)
    | '"' :: rest => (readString [] none rest).map fun (value, rest) =>
      (string (String.ofList value), rest)
    | '[' :: rest =>
      match skipSpaces rest with
      | ']' :: rest => some (array [], rest)
      | rest => (readItems fuel rest []).map fun (items, rest) => (array items, rest)
    | '\x7b' :: rest =>
      match skipSpaces rest with
      | '\x7d' :: rest => some (object [], rest)
      | rest => (readFields fuel rest []).map fun (fields, rest) => (object fields, rest)
    | text => readNumber text

/-- Reads the items of an array up to its end; `taken` holds those read, the last first. -/
def readItems : Nat → List Char → List Json → Option (List Json × List Char)
  | 0, _, _ => none
  | fuel + 1, text, taken =>
    match readValue fuel text with
    | none => none
    | some (item, rest) =>
      match skipSpaces rest with
      | ',' :: rest => readItems fuel (skipSpaces rest) (item :: taken)
      | ']' :: rest => some ((item :: taken).reverse, rest)
      | _ => none

/-- Reads the fields of an object up to its end; `taken` holds those read, the last first. -/
def readFields : Nat → List Char → List (String × Json) →
    Option (List (String × Json) × List Char)
  | 0, _, _ => none
  | fuel + 1, text, taken =>
    match text with
    | '"' :: rest =>
      match readString [] none rest with
      | none => none
      | some (key, rest) =>
        match skipSpaces rest with
        | ':' :: rest =>
          match readValue fuel (skipSpaces rest) with
          | none => none
          | some (value, rest) =>
            match skipSpaces rest with
            | ',' :: rest => readFields fuel (skipSpaces rest) ((String.ofList key, value) :: taken)
            | '\x7d' :: rest => some (((String.ofList key, value) :: taken).reverse, rest)
            | _ => none
        | _ => none
    | _ => none

end

/-- The value that a text writes. -/
def parse? (text : String) : Option Json :=
  match readValue (text.length + 1) (skipSpaces text.toList) with
  | some (json, rest) => if (skipSpaces rest).isEmpty then some json else none
  | none => none

end ClassCatalog.Json
