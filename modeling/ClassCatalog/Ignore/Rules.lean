import ClassCatalog.Ignore.Glob
import ClassCatalog.Text.Blank

/-!
# Ignore rules

A folder can hold ignore files, which say which entries below it are left out. Of the rules of one
file the last one that matches counts, and the file in the deepest folder counts first.
-/

namespace ClassCatalog.Ignore

/-- One line of an ignore file. -/
structure Rule where
  glob : Glob
  /-- Whether what matches is kept, not ignored. -/
  keeps : Bool := false
  /-- Whether only folders can match. -/
  foldersOnly : Bool := false
deriving Inhabited

/-- What rules say of an entry. -/
inductive Verdict where
  | undecided
  | ignored
  | kept
deriving DecidableEq, Inhabited

/-- The verdict, or another one if it is undecided. -/
def Verdict.or : Verdict → Verdict → Verdict
  | .undecided, other => other
  | verdict, _ => verdict

/-! ## Lines -/

/-- The line without blanks at its end, unless the last of them is escaped. -/
def trimLine (line : List Char) : List Char :=
  if ['\\', ' '].isSuffixOf line then line else Text.trimEnd line

/-- The line without its sign of negation, and whether it had one. -/
def splitNegation : List Char → Bool × List Char
  | '!' :: rest => (true, rest)
  | line => (false, line)

/-- The line without the slash at its start, and whether it had one. -/
def splitAnchor : List Char → Bool × List Char
  | '/' :: rest => (true, rest)
  | line => (false, line)

/-- The line without the slash at its end, and whether it had one. A backslash before that slash
goes with it. -/
def splitFolderMark (line : List Char) : Bool × List Char :=
  match line.reverse with
  | '/' :: '\\' :: rest => (true, rest.reverse)
  | '/' :: rest => (true, rest.reverse)
  | _ => (false, line)

/-- The glob of a line: a line without a slash holds in every folder, and two stars at the end do
not match the folder itself. -/
def globText (anchored : Bool) (line : List Char) : List Char :=
  let text :=
    if !anchored && !line.contains '/' && line != ['*', '*'] then '*' :: '*' :: '/' :: line
    else line
  if ['/', '*', '*'].isSuffixOf text then text ++ ['/', '*'] else text

/-- The rule of a line whose negation is known. -/
def Rule.ofPattern? (keeps anchored : Bool) (line : List Char) : Option Rule :=
  let (foldersOnly, line) := splitFolderMark line
  (Glob.parse? (globText anchored line)).map fun glob => { glob, keeps, foldersOnly }

/-- The rule of a line; comments, blank lines and globs with a fault have none. -/
def Rule.ofLine? (line : List Char) : Option Rule :=
  match trimLine line with
  | [] => none
  | '#' :: _ => none
  | '\\' :: '!' :: rest => Rule.ofPattern? false false ('!' :: rest)
  | '\\' :: '#' :: rest => Rule.ofPattern? false false ('#' :: rest)
  | line =>
    let (keeps, line) := splitNegation line
    let (anchored, line) := splitAnchor line
    Rule.ofPattern? keeps anchored line

/-! ## Files -/

/-- The bytes of the lines of a file. -/
def byteLines : List UInt8 → List (List UInt8)
  | [] => []
  | b :: rest =>
    if b = 10 then [] :: byteLines rest
    else
      match byteLines rest with
      | [] => [[b]]
      | line :: more => (b :: line) :: more

/-- The lines of a file up to the first one that is no text. -/
def textLines : List (List UInt8) → List (List Char)
  | [] => []
  | line :: rest =>
    match String.fromUTF8? ⟨line.toArray⟩ with
    | some text => text.toList :: textLines rest
    | none => []

/-- The lines of a file without the marks that may stand before them. -/
def withoutMarks : List (List Char) → List (List Char)
  | [] => []
  | line :: rest => line.dropWhile (· == '\ufeff') :: rest

/-- The rules of an ignore file. -/
def rulesOf (content : ByteArray) : List Rule :=
  (withoutMarks (textLines (byteLines content.toList))).filterMap fun line =>
    Rule.ofLine? (if line.getLast? = some '\r' then line.dropLast else line)

/-! ## Verdicts -/

/-- Whether a rule matches an entry at a path below the folder of its file. -/
def Rule.isMatch (rule : Rule) (path : List UInt8) (isFolder : Bool) : Bool :=
  (!rule.foldersOnly || isFolder) && rule.glob.isMatch path

/-- What the rules of a file say of an entry. -/
def verdict (rules : List Rule) (path : List UInt8) (isFolder : Bool) : Verdict :=
  match rules.reverse.find? (·.isMatch path isFolder) with
  | some rule => if rule.keeps then .kept else .ignored
  | none => .undecided

/-- The rules of the ignore files in one folder, and the names from that folder to where an entry
stands. -/
structure Layer where
  /-- The rules of the file that counts more. -/
  primary : List Rule
  secondary : List Rule
  names : List String
deriving Inhabited

/-- The layer for the entries of a folder below. -/
def Layer.enter (name : String) (layer : Layer) : Layer :=
  { layer with names := layer.names ++ [name] }

/-- The path of an entry below the folder of a layer. -/
def Layer.pathOf (layer : Layer) (name : String) : List UInt8 :=
  ("/".intercalate (layer.names ++ [name])).toUTF8.toList

/-- What the first layer with a say says of an entry, by one of its two files. -/
def firstVerdict (rulesIn : Layer → List Rule) (name : String) (isFolder : Bool) :
    List Layer → Verdict
  | [] => .undecided
  | layer :: rest =>
    (verdict (rulesIn layer) (layer.pathOf name) isFolder).or
      (firstVerdict rulesIn name isFolder rest)

/-- What the files of all layers say of an entry, the deepest layer being the first. The file that
counts more in any layer counts before the other file in all layers. -/
def verdictOf (layers : List Layer) (name : String) (isFolder : Bool) : Verdict :=
  (firstVerdict Layer.primary name isFolder layers).or
    (firstVerdict Layer.secondary name isFolder layers)

/-- Whether a name is hidden. -/
def isHidden (name : String) : Bool :=
  name.toList.head? = some '.'

/-- Whether an entry is left out: it is ignored, or it is hidden and no rule keeps it. -/
def leavesOut (layers : List Layer) (name : String) (isFolder : Bool) : Bool :=
  match verdictOf layers name isFolder with
  | .ignored => true
  | .kept => false
  | .undecided => isHidden name

end ClassCatalog.Ignore
