/-!
# Paths

A path is written as steps with slashes between them. Empty steps, and single dots that do not start
the path, mean nothing.
-/

namespace ClassCatalog

/-- A path by its steps as they are written. -/
structure Path where
  steps : List String
deriving DecidableEq, Inhabited

namespace Path

/-- The path that a text writes. -/
def ofText (text : String) : Path :=
  ⟨text.splitOn "/"⟩

/-- The path as text. -/
def text (path : Path) : String :=
  "/".intercalate path.steps

/-- The path without any step. -/
def empty : Path :=
  ⟨[""]⟩

/-- Whether a path is without any step. -/
def isEmpty (path : Path) : Bool :=
  path.steps.isEmpty || path == empty

/-- Whether a step means nothing where it is not the first one. -/
def isIdle (step : String) : Bool :=
  step == "" || step == "."

/-- What a step means. -/
inductive Part where
  | top
  | here
  | up
  | name (name : String)
deriving DecidableEq, Inhabited

/-- The part that a step is where it is not the first one. -/
def part? (step : String) : Option Part :=
  if isIdle step then none
  else if step = ".." then some .up
  else some (.name step)

/-- The parts of a path. -/
def parts (path : Path) : List Part :=
  match path.steps with
  | [""] => []
  | "" :: rest => .top :: rest.filterMap part?
  | "." :: rest => .here :: rest.filterMap part?
  | rest => rest.filterMap part?

/-- The steps without those at the end that mean nothing; the first step stays. -/
def dropIdle : List String → List String
  | [] => []
  | first :: rest => first :: (rest.reverse.dropWhile isIdle).reverse

/-- The path above, if there is one. -/
def parent? (path : Path) : Option Path :=
  match dropIdle path.steps with
  | [] => none
  | [""] => none
  | [_] => some empty
  | steps =>
    match dropIdle steps.dropLast with
    | [""] => some ⟨["", ""]⟩
    | above => some ⟨above⟩

/-- The name at the end of a path, if it ends in one. -/
def name? (path : Path) : Option String :=
  match path.parts.getLast? with
  | some (.name name) => some name
  | _ => none

/-- The path with one more step. -/
def join (path : Path) (step : String) : Path :=
  if path.steps.getLast? = some "" then ⟨path.steps.dropLast ++ [step]⟩
  else ⟨path.steps ++ [step]⟩

/-- The path with another name at its end; if it has none there, the name goes behind it. -/
def withName (path : Path) (name : String) : Path :=
  if path.name?.isSome then (path.parent?.getD empty).join name else path.join name

/-- The path of what has the given names below a path. -/
def below (path : Path) (names : List String) : Path :=
  names.foldl join path

end Path

/-- The end of a name behind its last dot. A dot at the start of a name does not count. -/
def nameExtension? (name : String) : Option String :=
  let reversed := name.toList.reverse
  match reversed.dropWhile (· != '.') with
  | [] => none
  | [_] => none
  | _ => if name = ".." then none else some (String.ofList (reversed.takeWhile (· != '.')).reverse)

end ClassCatalog
