import ClassCatalog.Text.Blank

/-!
# Tokens of Java text

The text is cut into words, literals, symbols and comments; blanks only separate them. Every token
knows its place, the positions of its first character and of the one behind its last. A `>` is
always a symbol of its own, since it may close type arguments; longer symbols that start with it are
put together where they are expected.
-/

namespace ClassCatalog.Java

open Text

/-- A part of a text: from `start` up to but not including `stop`, in characters. -/
structure Span where
  start : Nat
  stop : Nat
deriving DecidableEq, Inhabited

/-- The text of a part. -/
def Span.text (span : Span) (source : List Char) : List Char :=
  (source.drop span.start).take (span.stop - span.start)

/-- The classes of tokens. -/
inductive TokenClass where
  | word
  | literal
  | symbol
  | lineComment
  | blockComment
deriving DecidableEq, Inhabited

/-- A token with its text and its place. -/
structure Token where
  cls : TokenClass
  text : String
  span : Span
deriving DecidableEq, Inhabited

namespace Token

/-- Whether the token is a comment. -/
def isComment (token : Token) : Bool :=
  token.cls == .lineComment || token.cls == .blockComment

/-- The words that cannot be names. -/
def reservedWords : List String :=
  ["abstract", "assert", "boolean", "break", "byte", "case", "catch", "char", "class", "const",
    "continue", "default", "do", "double", "else", "enum", "extends", "final", "finally", "float",
    "for", "goto", "if", "implements", "import", "instanceof", "int", "interface", "long", "native",
    "new", "package", "private", "protected", "public", "return", "short", "static", "strictfp",
    "super", "switch", "synchronized", "this", "throw", "throws", "transient", "try", "void",
    "volatile", "while", "true", "false", "null"]

/-- Whether the token is a name. Words that are keywords only in some places are names too. -/
def isIdentifier (token : Token) : Bool :=
  token.cls == .word && !reservedWords.contains token.text

/-- Whether the token is one of the given words. -/
def isWord (words : List String) (token : Token) : Bool :=
  token.cls == .word && words.contains token.text

end Token

/-! ## Lexemes -/

/-- Whether a character can start a name. Beyond ASCII every character that is not blank counts. -/
def isNameStart (c : Char) : Bool :=
  c.isAlpha || c = '_' || c = '$' || (0x80 ≤ c.toNat && !isBlank c && c.toNat != 0xFEFF)

/-- Whether a character can go on in a name. -/
def isNamePart (c : Char) : Bool :=
  isNameStart c || c.isDigit

/-- The number of characters up to the end of a block comment. -/
def blockCommentLength : List Char → Nat
  | [] => 0
  | '*' :: '/' :: _ => 2
  | _ :: rest => 1 + blockCommentLength rest

/-- The number of characters up to a closing quote, where a backslash protects the next character.
-/
def quotedLength (quote : Char) : List Char → Nat
  | [] => 0
  | '\\' :: _ :: rest => 2 + quotedLength quote rest
  | c :: rest => if c = quote then 1 else 1 + quotedLength quote rest

/-- The number of characters up to the closing quotes of a text block. -/
def textBlockLength : List Char → Nat
  | [] => 0
  | '"' :: '"' :: '"' :: _ => 3
  | '\\' :: _ :: rest => 2 + textBlockLength rest
  | _ :: rest => 1 + textBlockLength rest

/-- The number of characters with which a number goes on behind the character `last`. A sign belongs
to it only behind the letter of an exponent. -/
def numberLength (hex : Bool) (last : Char) : List Char → Nat
  | [] => 0
  | c :: rest =>
    let exponent :=
      if hex then last = 'p' || last = 'P' else last = 'e' || last = 'E'
    if isNamePart c || c = '.' || (exponent && (c = '+' || c = '-')) then
      1 + numberLength hex c rest
    else 0

/-- The symbols of more than one character, longer ones before their beginnings. -/
def longSymbols : List (List Char) :=
  ["...", "<<=", "->", "::", "++", "--", "&&", "||", "==", "!=", "<=", "+=", "-=", "*=", "/=", "&=",
    "|=", "^=", "%=", "<<", "@interface"].map String.toList

/-- The class of the token that starts with `c`, none for a blank, and the number of characters
with which it goes on. -/
def lexeme (c : Char) (rest : List Char) : Option TokenClass × Nat :=
  if isBlank c || c.toNat = 0xFEFF then (none, 0)
  else if c = '/' && rest.head? = some '/' then
    (some .lineComment, (rest.takeWhile (· ≠ '\n')).length)
  else if c = '/' && rest.head? = some '*' then
    (some .blockComment, 1 + blockCommentLength (rest.drop 1))
  else if ['"', '"', '"'].isPrefixOf (c :: rest) then
    (some .literal, 2 + textBlockLength (rest.drop 2))
  else if c = '"' || c = '\'' then (some .literal, quotedLength c rest)
  else if c.isDigit || (c = '.' && rest.head?.any Char.isDigit) then
    (some .literal,
      numberLength (c = '0' && (rest.head? = some 'x' || rest.head? = some 'X')) c rest)
  else if isNameStart c then
    let length := (rest.takeWhile isNamePart).length
    if c = 'n' && "on-sealed".toList.isPrefixOf rest && !(rest.drop 9).head?.any isNamePart then
      (some .symbol, 9)
    else (some .word, length)
  else
    match longSymbols.find? (·.isPrefixOf (c :: rest)) with
    | some symbol => (some .symbol, symbol.length - 1)
    | none => (some .symbol, 0)

/-- The tokens of a text that starts at a position. -/
def scanFrom (position : Nat) : List Char → List Token
  | [] => []
  | c :: rest =>
    let (cls?, length) := lexeme c rest
    let span : Span := ⟨position, position + 1 + length⟩
    let more := scanFrom span.stop (rest.drop length)
    match cls? with
    | some cls => ⟨cls, String.ofList (c :: rest.take length), span⟩ :: more
    | none => more
termination_by text => text.length
decreasing_by
  simp only [List.length_cons, List.length_drop]
  omega

/-- The tokens of a text. -/
def scan (source : List Char) : List Token :=
  scanFrom 0 source

end ClassCatalog.Java
