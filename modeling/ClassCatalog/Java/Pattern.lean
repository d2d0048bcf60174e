import ClassCatalog.Java.Tree

/-!
# Patterns of tokens

A grammar is written as patterns over tokens. Matching a pattern consumes tokens from the front and
yields syntax trees; of several options the first that matches counts. Comments are no part of any
pattern: those in front of a matched token become nodes before it, at the innermost node that has
been entered by then.
-/

namespace ClassCatalog.Java

/-- A pattern over tokens; `ρ` names the rules of a grammar. -/
inductive Pattern (ρ : Type) where
  /-- A keyword or symbol. -/
  | spelled (spelling : String)
  /-- A symbol made up of several tokens without anything between them. -/
  | joined (spellings : List String)
  /-- A token that becomes a node of a kind. -/
  | leaf (kind : Kind) (accepts : Token → Bool)
  /-- Patterns one after the other. -/
  | sequence (items : List (Pattern ρ))
  /-- The first of some patterns that matches. -/
  | choice (options : List (Pattern ρ))
  /-- A pattern as often as it matches. -/
  | many (item : Pattern ρ)
  /-- A pattern, or nothing. -/
  | optional (item : Pattern ρ)
  /-- A node of a kind around a pattern. -/
  | node (kind : Kind) (body : Pattern ρ)
  /-- A pattern whose node has a role. -/
  | labelled (label : Label) (body : Pattern ρ)
  /-- A node that grows to the right: each step puts a node of its kind around what is there, which
  gets the role, and what the step matches. -/
  | growing (base : Pattern ρ) (role : Option Label) (steps : List (Kind × Pattern ρ))
  /-- A pattern that is tried only if the tokens ahead pass a test. -/
  | ahead (test : List Token → Bool) (body : Pattern ρ)
  /-- The pattern of a rule. -/
  | rule (name : ρ)

namespace Pattern

variable {ρ : Type}

/-- One or more of a pattern. -/
def some1 (item : Pattern ρ) : Pattern ρ :=
  sequence [item, many item]

/-- One or more of a pattern, with a symbol between them. -/
def separated (separator : String) (item : Pattern ρ) : Pattern ρ :=
  sequence [item, many (sequence [spelled separator, item])]

/-- Any one of some keywords or symbols. -/
def anyOf (spellings : List String) : Pattern ρ :=
  choice (spellings.map spelled)

/-! ## Matching -/

/-- The comment nodes in front of the tokens, and the tokens behind them. -/
def splitComments : List Token → List Tree × List Token
  | [] => ([], [])
  | token :: rest =>
    if token.isComment then
      let kind := if token.cls == .lineComment then .lineComment else .blockComment
      let (comments, rest) := splitComments rest
      (.node kind none token.span [] :: comments, rest)
    else ([], token :: rest)

/-- The tokens behind some spellings that follow one another without anything between them, and the
position behind the last; `position` is where the first has to start. -/
def takeJoined (position : Nat) : List String → List Token → Option (Nat × List Token)
  | [], tokens => some (position, tokens)
  | spelling :: more, token :: rest =>
    if token.text = spelling && token.span.start = position then
      takeJoined token.span.stop more rest
    else none
  | _ :: _, [] => none

/-- Gives a role to the nodes that are not comments. -/
def setLabel (label : Label) (trees : List Tree) : List Tree :=
  trees.map fun tree => if tree.kind.isComment then tree else tree.withLabel (some label)

/-- What matching yields: the nodes, and the tokens that are left. -/
abbrev Match := Option (List Tree × List Token)

mutual

/-- Matches a pattern at the front of the tokens. -/
def run (rules : ρ → Pattern ρ) : Nat → Pattern ρ → List Token → Match
  | 0, _, _ => none
  | fuel + 1, pattern, tokens =>
    match pattern with
    | spelled spelling =>
      match splitComments tokens with
      | (comments, token :: rest) =>
        if token.text = spelling then
          some (comments ++ [.node .token none token.span []], rest)
        else none
      | _ => none
    | joined spellings =>
      match splitComments tokens with
      | (comments, token :: rest) =>
        (takeJoined token.span.start spellings (token :: rest)).map fun (stop, rest) =>
          (comments ++ [.node .token none ⟨token.span.start, stop⟩ []], rest)
      | _ => none
    | leaf kind accepts =>
      match splitComments tokens with
      | (comments, token :: rest) =>
        if accepts token then some (comments ++ [.node kind none token.span []], rest) else none
      | _ => none
    | sequence items => runAll rules fuel items tokens
    | choice options => runFirst rules fuel options tokens
    | many item =>
      match run rules fuel item tokens with
      | none => some ([], tokens)
      | some (trees, rest) =>
        (run rules fuel (many item) rest).map fun (more, rest) => (trees ++ more, rest)
    | optional item =>
      match run rules fuel item tokens with
      | none => some ([], tokens)
      | some result => some result
    | node kind body =>
      let (comments, tokens) := splitComments tokens
      (run rules fuel body tokens).map fun (children, rest) =>
        (comments ++ [Tree.above kind children], rest)
    | labelled label body =>
      (run rules fuel body tokens).map fun (trees, rest) => (setLabel label trees, rest)
    | growing base role steps =>
      let (comments, tokens) := splitComments tokens
      match run rules fuel base tokens with
      | some ([tree], rest) =>
        (grow rules fuel role steps tree rest).map fun (tree, rest) => (comments ++ [tree], rest)
      | _ => none
    | ahead test body => if test tokens then run rules fuel body tokens else none
    | rule name => run rules fuel (rules name) tokens

/-- Matches patterns one after the other. -/
def runAll (rules : ρ → Pattern ρ) : Nat → List (Pattern ρ) → List Token → Match
  | 0, _, _ => none
  | _ + 1, [], tokens => some ([], tokens)
  | fuel + 1, item :: items, tokens =>
    match run rules fuel item tokens with
    | none => none
    | some (trees, rest) =>
      (runAll rules fuel items rest).map fun (more, rest) => (trees ++ more, rest)

/-- Matches the first of some patterns that matches. -/
def runFirst (rules : ρ → Pattern ρ) : Nat → List (Pattern ρ) → List Token → Match
  | 0, _, _ => none
  | _ + 1, [], _ => none
  | fuel + 1, option :: options, tokens =>
    match run rules fuel option tokens with
    | some result => some result
    | none => runFirst rules fuel options tokens

/-- Lets a node grow as long as a step matches. -/
def grow (rules : ρ → Pattern ρ) : Nat → Option Label → List (Kind × Pattern ρ) → Tree →
    List Token → Option (Tree × List Token)
  | 0, _, _, _, _ => none
  | fuel + 1, role, steps, tree, tokens =>
    match growOnce rules fuel role steps tree tokens with
    | none => some (tree, tokens)
    | some (tree, rest) => grow rules fuel role steps tree rest

/-- Lets a node grow by the first step that matches. -/
def growOnce (rules : ρ → Pattern ρ) : Nat → Option Label → List (Kind × Pattern ρ) → Tree →
    List Token → Option (Tree × List Token)
  | 0, _, _, _, _ => none
  | _ + 1, _, [], _, _ => none
  | fuel + 1, role, (kind, step) :: steps, tree, tokens =>
    match run rules fuel step tokens with
    | some (trees, rest) => some (Tree.above kind (tree.withLabel role :: trees), rest)
    | none => growOnce rules fuel role steps tree tokens

end

end Pattern

end ClassCatalog.Java
