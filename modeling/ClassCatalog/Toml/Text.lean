import ClassCatalog.Json.Reader

/-!
# Strings of TOML

A string stands between quotes or apostrophes, or between three of them if it spans lines. Between
apostrophes there are no escapes. Lines end with a line feed here: `joinLineEnds` runs first.
-/

namespace ClassCatalog.Toml

/-- Makes each line end one line feed; a carriage return on its own is a fault. -/
def joinLineEnds : List Char → Option (List Char)
  | [] => some []
  | '\r' :: '\n' :: rest => (joinLineEnds rest).map ('\n' :: ·)
  | c :: rest => if c = '\r' then none else (joinLineEnds rest).map (c :: ·)

/-- The blanks inside a line. -/
def isSpace (c : Char) : Bool :=
  c = ' ' || c = '\t'

/-- Whether a character may stand in a line as it is. -/
def isPlain (c : Char) : Bool :=
  c = '\t' || (0x20 ≤ c.toNat && c.toNat ≠ 0x7F)

/-- The character that one letter behind a backslash stands for. -/
def unescape? : Char → Option Char
  | '"' => some '"'
  | '\\' => some '\\'
  | 'b' => some '\x08'
  | 'f' => some '\x0c'
  | 'n' => some '\n'
  | 'r' => some '\r'
  | 't' => some '\t'
  | _ => none

/-- The character with a number, if there is one. -/
def charOf? (n : Nat) : Option Char :=
  if n.isValidChar then some (Char.ofNat n) else none

/-- The character whose number four hexadecimal digits write. -/
def shortEscape? (a b c d : Char) : Option Char :=
  (Json.hexUnit? a b c d).bind charOf?

/-- The character whose number eight hexadecimal digits write. -/
def longEscape? (a b c d e f g h : Char) : Option Char := do
  charOf? ((← Json.hexUnit? a b c d) * 0x10000 + (← Json.hexUnit? e f g h))

/-- Reads on behind a character, if there is one. -/
def andThen (c : Option Char) (read : Option (List Char × List Char)) :
    Option (List Char × List Char) :=
  match c, read with
  | some c, some (text, rest) => some (c :: text, rest)
  | _, _ => none

/-- Reads a string on one line from behind its opening quote. -/
def readQuoted : List Char → Option (List Char × List Char)
  | [] => none
  | '"' :: rest => some ([], rest)
  | '\\' :: 'u' :: a :: b :: c :: d :: rest => andThen (shortEscape? a b c d) (readQuoted rest)
  | '\\' :: 'U' :: a :: b :: c :: d :: e :: f :: g :: h :: rest =>
    andThen (longEscape? a b c d e f g h) (readQuoted rest)
  | '\\' :: c :: rest => andThen (unescape? c) (readQuoted rest)
  | c :: rest => if isPlain c then andThen (some c) (readQuoted rest) else none

/-- Reads a string on one line from behind its opening apostrophe. -/
def readLiteral : List Char → Option (List Char × List Char)
  | [] => none
  | '\'' :: rest => some ([], rest)
  | c :: rest => if isPlain c then andThen (some c) (readLiteral rest) else none

/-- Whether a text is the rest of a line that has blanks only. -/
def isLineEnd (text : List Char) : Bool :=
  (text.dropWhile isSpace).head? = some '\n'

/-- Whether a character is a blank or ends a line. -/
def isSpaceOrEnd (c : Char) : Bool :=
  isSpace c || c = '\n'

/-- Reads a string over several lines from behind its opening quotes. A backslash at the end of a
line leaves out everything up to the next character that is no blank. Up to two quotes may stand
right before the closing ones. -/
def readQuotedLines : List Char → Option (List Char × List Char)
  | [] => none
  | '"' :: '"' :: '"' :: '"' :: '"' :: rest => some (['"', '"'], rest)
  | '"' :: '"' :: '"' :: '"' :: rest => some (['"'], rest)
  | '"' :: '"' :: '"' :: rest => some ([], rest)
  | '\\' :: 'u' :: a :: b :: c :: d :: rest =>
    andThen (shortEscape? a b c d) (readQuotedLines rest)
  | '\\' :: 'U' :: a :: b :: c :: d :: e :: f :: g :: h :: rest =>
    andThen (longEscape? a b c d e f g h) (readQuotedLines rest)
  | '\\' :: c :: rest =>
    if isLineEnd (c :: rest) then readQuotedLines (rest.dropWhile isSpaceOrEnd)
    else andThen (unescape? c) (readQuotedLines rest)
  | c :: rest =>
    if isPlain c || c = '\n' then andThen (some c) (readQuotedLines rest) else none
termination_by text => text.length
decreasing_by
  all_goals simp only [List.length_cons]
  all_goals first | omega | skip
  have := (List.dropWhile_sublist isSpaceOrEnd (l := rest)).length_le
  omega

/-- Reads a string over several lines from behind its opening apostrophes. -/
def readLiteralLines : List Char → Option (List Char × List Char)
  | [] => none
  | '\'' :: '\'' :: '\'' :: '\'' :: '\'' :: rest => some (['\'', '\''], rest)
  | '\'' :: '\'' :: '\'' :: '\'' :: rest => some (['\''], rest)
  | '\'' :: '\'' :: '\'' :: rest => some ([], rest)
  | c :: rest =>
    if isPlain c || c = '\n' then andThen (some c) (readLiteralLines rest) else none

/-- The text of a string over several lines: a line end right behind the opening marks is not part
of it. -/
def withoutFirstEnd : List Char → List Char
  | '\n' :: rest => rest
  | text => text

/-- The characters that were read as a text. -/
def packed (read : List Char × List Char) : String × List Char :=
  (String.ofList read.1, read.2)

/-- Reads a string of any form. -/
def readString : List Char → Option (String × List Char)
  | '"' :: '"' :: '"' :: rest => (readQuotedLines (withoutFirstEnd rest)).map packed
  | '"' :: rest => (readQuoted rest).map packed
  | '\'' :: '\'' :: '\'' :: rest => (readLiteralLines (withoutFirstEnd rest)).map packed
  | '\'' :: rest => (readLiteral rest).map packed
  | _ => none

end ClassCatalog.Toml
