/-!
# Globs

A glob is a pattern for paths below a folder. It is matched byte by byte: a question mark stands for
one byte, a star for any number of them, and neither for a slash. Two stars between slashes stand
for any number of folders.
-/

namespace ClassCatalog

/-- A piece of a glob. -/
inductive Glob.Piece where
  | byte (value : UInt8)
  /-- One byte that is no slash. -/
  | any
  /-- Bytes that are no slashes. -/
  | run
  /-- One byte in, or not in, some ranges. -/
  | range (negated : Bool) (ranges : List (UInt8 × UInt8))
  /-- The folders before a path. -/
  | foldersBefore
  /-- A slash, perhaps with folders behind it. -/
  | foldersBetween
  /-- A slash and everything behind it. -/
  | everythingBelow
  /-- One of several globs. -/
  | choice (branches : List (List Piece))
deriving Inhabited

/-- A glob as its pieces in order. -/
abbrev Glob := List Glob.Piece

namespace Glob

/-- The byte between the names of a path. -/
def slash : UInt8 := 47

/-! ## Matching -/

/-- What may be left of a path behind some bytes that are no slashes. -/
def afterRun : List UInt8 → List (List UInt8)
  | [] => [[]]
  | b :: rest => (b :: rest) :: if b = slash then [] else afterRun rest

/-- What is left of a path behind each of its slashes. -/
def afterSlashes : List UInt8 → List (List UInt8)
  | [] => []
  | b :: rest => if b = slash then rest :: afterSlashes rest else afterSlashes rest

/-- The ends of a path. -/
def ends : List UInt8 → List (List UInt8)
  | [] => [[]]
  | b :: rest => (b :: rest) :: ends rest

/-- Whether a byte is in one of some ranges. -/
def inRanges (ranges : List (UInt8 × UInt8)) (b : UInt8) : Bool :=
  ranges.any fun range => range.1 ≤ b && b ≤ range.2

/-- What is left of a path behind its first byte if that fulfils a condition. -/
def afterOne (accepts : UInt8 → Bool) : List UInt8 → List (List UInt8)
  | [] => []
  | b :: rest => if accepts b then [rest] else []

mutual

/-- What may be left of a path behind a piece. -/
def Piece.rests : Piece → List UInt8 → List (List UInt8)
  | .byte value, path => afterOne (· == value) path
  | .any, path => afterOne (· != slash) path
  | .run, path => afterRun path
  | .range negated ranges, path => afterOne (fun b => inRanges ranges b != negated) path
  | .foldersBefore, path => path :: afterSlashes path
  | .foldersBetween, path =>
    match path with
    | [] => []
    | b :: rest => if b = slash then rest :: afterSlashes rest else []
  | .everythingBelow, path =>
    match path with
    | [] => []
    | b :: rest => if b = slash then ends rest else []
  | .choice branches, path =>
    if branches.all List.isEmpty then [path] else choiceRests branches path

/-- What may be left of a path behind pieces in order. -/
def rests : List Piece → List UInt8 → List (List UInt8)
  | [], path => [path]
  | piece :: more, path => (piece.rests path).flatMap (rests more)

/-- What may be left of a path behind one of several globs; empty ones do not count. -/
def choiceRests : List (List Piece) → List UInt8 → List (List UInt8)
  | [], _ => []
  | branch :: more, path =>
    (if branch.isEmpty then [] else rests branch path) ++ choiceRests more path

end

/-- Whether a glob matches a whole path. Two stars on their own match everything. -/
def isMatch (glob : Glob) (path : List UInt8) : Bool :=
  match glob with
  | [.foldersBefore] => true
  | pieces => (rests pieces path).any List.isEmpty

/-! ## Reading -/

/-- The bytes of a character. -/
def charBytes (c : Char) : List UInt8 :=
  c.toString.toUTF8.toList

/-- The pieces that match a character. -/
def literal (c : Char) : List Piece :=
  (charBytes c).map .byte

/-- The byte ranges of a range of characters: of a character with several bytes each stands on its
own. -/
def byteRanges (first last : Char) : List (UInt8 × UInt8) :=
  let single (b : UInt8) := (b, b)
  if first = last then (charBytes first).map single
  else
    (charBytes first).dropLast.map single ++
      [((charBytes first).getLast?.getD 0, (charBytes last).headD 0)] ++
      (charBytes last).tail.map single

/-- What is known of a bracket that is being read. -/
structure Bracket where
  ranges : List (Char × Char) := []
  /-- Whether a hyphen was read that may go on to the end of a range. -/
  hyphen : Bool := false

/-- A reading that may turn out to be none, or to be wrong. -/
inductive BracketResult where
  | closed (ranges : List (Char × Char)) (rest : List Char)
  | unclosed
  | invalid

/-- Reads the inside of a bracket from behind its first character. -/
def readBracket (bracket : Bracket) : List Char → BracketResult
  | [] => .unclosed
  | ']' :: rest =>
    .closed (if bracket.hyphen then bracket.ranges ++ [('-', '-')] else bracket.ranges) rest
  | c :: rest =>
    if bracket.hyphen then
      match bracket.ranges.getLast? with
      | some (first, _) =>
        if c < first then .invalid
        else readBracket { ranges := bracket.ranges.dropLast ++ [(first, c)] } rest
      | none => .invalid
    else if c = '-' then readBracket { bracket with hyphen := true } rest
    else readBracket { ranges := bracket.ranges ++ [(c, c)] } rest

/-- Reads a bracket from behind its sign of negation. Its first character stands for itself. -/
def readRanges : List Char → BracketResult
  | [] => .unclosed
  | c :: rest => readBracket { ranges := [(c, c)] } rest

/-- A choice that is being read: the pieces before it, and its finished branches. -/
structure OpenChoice where
  before : List Piece
  branches : List (List Piece)

/-- The state of reading a glob. -/
structure Draft where
  /-- The pieces of the branch that is being read. -/
  pieces : List Piece := []
  /-- The choices around it, the innermost first. -/
  choices : List OpenChoice := []
  previous : Option Char := none
  /-- Whether a bracket was found that is not closed, so that brackets stand for themselves. -/
  unclosed : Bool := false

namespace Draft

/-- Adds pieces. -/
def add (draft : Draft) (previous : Char) (pieces : List Piece) : Draft :=
  { draft with pieces := draft.pieces ++ pieces, previous := some previous }

/-- Adds folders in place of the slash before them. -/
def addFolders (draft : Draft) (previous : Char) (piece : Piece) : Draft :=
  let piece :=
    match draft.pieces.getLast? with
    | some .foldersBefore => .foldersBefore
    | some .everythingBelow => .everythingBelow
    | _ => piece
  { draft with pieces := draft.pieces.dropLast ++ [piece], previous := some previous }

/-- Starts a choice. -/
def openChoice (draft : Draft) : Draft :=
  { draft with
    pieces := []
    choices := ⟨draft.pieces, []⟩ :: draft.choices
    previous := some '\x7b' }

/-- Goes on to the next branch of a choice, if there is one around. -/
def nextBranch? (draft : Draft) : Option Draft :=
  match draft.choices with
  | [] => none
  | choice :: outer =>
    some {
      draft with
      pieces := []
      choices := { choice with branches := choice.branches ++ [draft.pieces] } :: outer
      previous := some ',' }

/-- Ends a choice, if there is one around. -/
def closeChoice? (draft : Draft) : Option Draft :=
  match draft.choices with
  | [] => none
  | choice :: outer =>
    some {
      draft with
      pieces := choice.before ++ [.choice (choice.branches ++ [draft.pieces])]
      choices := outer
      previous := some '\x7d' }

end Draft

/-- Reads the rest of a glob. The number bounds how many steps this takes. -/
def read : Nat → Draft → List Char → Option Glob
  | 0, _, _ => none
  | _ + 1, draft, [] => if draft.choices.isEmpty then some draft.pieces else none
  | fuel + 1, draft, c :: rest =>
    match c, rest with
    | '?', rest => read fuel (draft.add '?' [.any]) rest
    | '*', '*' :: rest =>
      if draft.pieces.isEmpty then
        match rest with
        | [] => read fuel (draft.add '*' [.foldersBefore]) []
        | '/' :: rest => read fuel (draft.add '/' [.foldersBefore]) rest
        | rest => read fuel (draft.add '*' [.run]) rest
      else if draft.previous = some '/' then
        match rest with
        | [] => read fuel (draft.addFolders '*' .everythingBelow) []
        | '/' :: rest => read fuel (draft.addFolders '/' .foldersBetween) rest
        | c :: rest =>
          if !draft.choices.isEmpty && (c = ',' || c = '\x7d') then
            read fuel (draft.addFolders '*' .everythingBelow) (c :: rest)
          else read fuel (draft.add '*' [.run]) (c :: rest)
      else read fuel (draft.add '*' [.run]) rest
    | '*', rest => read fuel (draft.add '*' [.run]) rest
    | '[', rest =>
      if draft.unclosed then read fuel (draft.add '[' (literal '[')) rest
      else
        let (negated, inside) :=
          match rest with
          | '!' :: inside => (true, inside)
          | '^' :: inside => (true, inside)
          | inside => (false, inside)
        match readRanges inside with
        | .closed ranges rest =>
          let ranges := ranges.flatMap fun range => byteRanges range.1 range.2
          read fuel (draft.add ']' [.range negated ranges]) rest
        | .unclosed => read fuel { draft.add '[' (literal '[') with unclosed := true } rest
        | .invalid => none
    | '\x7b', rest => read fuel draft.openChoice rest
    | '\x7d', rest => (draft.closeChoice?).bind fun draft => read fuel draft rest
    | ',', rest => read fuel ((draft.nextBranch?).getD (draft.add ',' (literal ','))) rest
    | '\\', c :: rest => read fuel (draft.add c (literal c)) rest
    | '\\', [] => none
    | c, rest => read fuel (draft.add c (literal c)) rest

/-- The glob that a text writes. -/
def parse? (text : List Char) : Option Glob :=
  read (text.length + 1) {} text

end Glob

end ClassCatalog
