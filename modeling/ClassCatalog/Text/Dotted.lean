/-!
# Dotted names

Names built from segments with dots between them.
-/

namespace ClassCatalog.Text

/-- The pieces of a text between the dots; a text without dots is one piece. -/
def splitDots : List Char → List (List Char)
  | [] => [[]]
  | '.' :: rest => [] :: splitDots rest
  | c :: rest =>
    match splitDots rest with
    | [] => [[c]]
    | piece :: more => (c :: piece) :: more

/-- What follows the last dot of a name, or the whole name if it has none. -/
def lastSegment (name : String) : String :=
  String.ofList (name.toList.reverse.takeWhile (· ≠ '.')).reverse

/-- A name inside an outer one. -/
def member (outer simple : String) : String :=
  outer ++ "." ++ simple

/-- A name inside a package, if there is one. -/
def qualify (package? : Option String) (name : String) : String :=
  match package? with
  | some package => member package name
  | none => name

end ClassCatalog.Text
