/-!
# Lines

Cutting a text into lines. A line ends at a line feed, and a carriage return right before that line
feed belongs to the ending. The last line needs no ending, and an ending at the very end of the text
opens no further line.
-/

namespace ClassCatalog.Text

/-- The lines of a text, without their endings. -/
def lines : List Char → List (List Char)
  | [] => []
  | '\n' :: rest => [] :: lines rest
  | '\r' :: '\n' :: rest => [] :: lines rest
  | c :: rest =>
    match lines rest with
    | [] => [[c]]
    | line :: more => (c :: line) :: more

/-- Lines put below one another. -/
def unlines (ls : List (List Char)) : List Char :=
  List.intercalate ['\n'] ls

@[simp]
theorem lines_nil : lines [] = [] := by
  simp [lines]

@[simp]
theorem unlines_nil : unlines [] = [] := rfl

end ClassCatalog.Text
