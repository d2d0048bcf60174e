import ClassCatalog.Text.Blank
import ClassCatalog.Text.Lines

/-!
# Documentation comments

A documentation comment holds a description and block tags. Its lines may carry a decoration, a `*`
behind blanks, which is not part of the text. A line whose first character after blanks is `@` opens
a block tag, which runs up to the next such line; everything before the first one is the
description.
-/

namespace ClassCatalog

open Text

/-- A block tag: `@name` and the text behind it. -/
structure BlockTag where
  name : String
  content : String
deriving DecidableEq, Inhabited

/-- What a documentation comment says. The text is empty if there is no description. -/
structure DocComment where
  text : String
  tags : List BlockTag
deriving DecidableEq, Inhabited

namespace DocComment

/-- Whether the text of a comment opens a documentation comment, `/**/` being an empty plain one. -/
def isDocComment (raw : String) : Bool :=
  let text := trim raw.toList
  ['/', '*', '*'].isPrefixOf text && text != ['/', '*', '*', '/']

/-- What stands between the comment marks, each of which may be missing. -/
def body (raw : List Char) : List Char :=
  let text := trim raw
  if text = ['/', '*', '*', '/'] then []
  else
    let opened := (['/', '*', '*'].isPrefixOf? text).getD text
    (['*', '/'].isSuffixOf? opened).getD opened

/-- The text without one space or tab at its start. -/
def dropMargin : List Char → List Char
  | ' ' :: rest => rest
  | '\t' :: rest => rest
  | text => text

/-- A line without its decoration: blanks, a `*`, and one space or tab. -/
def undecorated (line : List Char) : List Char :=
  match trimStart line with
  | '*' :: rest => dropMargin rest
  | _ => line

/-- A line without its decoration, and empty if only blanks are left of it. -/
def cleanLine (line : List Char) : List Char :=
  let text := undecorated line
  if text.all isBlank then [] else text

/-- The lines without the empty ones at both ends. -/
def dropOuterEmpty (ls : List (List Char)) : List (List Char) :=
  ((ls.dropWhile List.isEmpty).reverse.dropWhile List.isEmpty).reverse

/-- The lines of a comment's body. The first one usually stands behind the opening mark and a
space, so it loses one more. -/
def cleanLines (text : List Char) : List (List Char) :=
  dropOuterEmpty <|
    match (lines text).map cleanLine with
    | [] => []
    | first :: rest => dropMargin first :: rest

/-- Whether a line opens a block tag. -/
def isTagLine (line : List Char) : Bool :=
  (trimStart line).head? == some '@'

/-- Lines grouped into blocks: each tag line opens one, and so does the very first line. -/
def blocks : List (List Char) → List (List (List Char))
  | [] => []
  | line :: rest =>
    match rest, blocks rest with
    | next :: _, block :: more =>
      if isTagLine next then [line] :: block :: more else (line :: block) :: more
    | _, _ => [[line]]

/-- The tag a block writes; none if no name follows the `@`. -/
def tagOfBlock? (block : List (List Char)) : Option BlockTag :=
  match trim (unlines block) with
  | '@' :: rest =>
    let name := rest.takeWhile fun c => !isBlank c
    if name.isEmpty then none
    else some ⟨String.ofList name, String.ofList (trim (rest.dropWhile fun c => !isBlank c))⟩
  | _ => none

/-- Reads the text of a comment. -/
def parse (raw : String) : DocComment :=
  let ls := cleanLines (body raw.toList)
  { text := String.ofList (trimEnd (unlines (ls.takeWhile fun line => !isTagLine line)))
    tags := (blocks (ls.dropWhile fun line => !isTagLine line)).filterMap tagOfBlock? }

/-- The text before the first block tag, if there is any. -/
def description? (doc : DocComment) : Option String :=
  if doc.text.isEmpty then none else some doc.text

/-- The first block tag of a name. -/
def firstTag? (doc : DocComment) (name : String) : Option BlockTag :=
  doc.tags.find? fun tag => tag.name == name

/-- What the first block tag of a name says, if it says anything. -/
def tagContent? (doc : DocComment) (name : String) : Option String :=
  ((doc.firstTag? name).map BlockTag.content).filter fun content => !content.isEmpty

/-- The tag that states the documented type of a method. -/
def typeTag : String := "type"

end DocComment

end ClassCatalog
