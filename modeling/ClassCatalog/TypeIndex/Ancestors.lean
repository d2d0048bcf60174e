import ClassCatalog.TypeIndex.Basic

/-!
# Ancestors

All supertypes of a type, direct and inherited. Each direct supertype is followed by its own
ancestors, of which those already listed are left out. The walk fails where a type on the way is not
known, has a supertype that could not be resolved, or inherits from itself.
-/

namespace ClassCatalog.TypeIndex

/-- The names with those of a second list appended that are not yet there. -/
def addNew (names : List String) : List String → List String
  | [] => names
  | name :: rest => addNew (if name ∈ names then names else names ++ [name]) rest

mutual

/-- The ancestors of a type that is reached along a path of subtypes. -/
def ancestorsAlong (index : TypeIndex) (path : List String) (name : String) :
    Except ResolveError (List String) :=
  if _new : name ∈ path then .error (.cyclicInheritance name)
  else
    match _found : index.info? name with
    | none => .error (.missingDeclaration name)
    | some entry => index.ancestorsThrough (name :: path) entry.supertypes []
termination_by ((index.unvisited path).length, 0)
decreasing_by
  exact Prod.Lex.left _ _ (length_unvisited_cons_lt (mem_names_of_info? _found) _new)

/-- Some ancestors, and behind them direct supertypes with their own ancestors. -/
def ancestorsThrough (index : TypeIndex) (path : List String) :
    List (Except ResolveError String) → List String → Except ResolveError (List String)
  | [], listed => .ok listed
  | .error e :: _, _ => .error e
  | .ok supertype :: rest, listed =>
    match index.ancestorsAlong path supertype with
    | .error e => .error e
    | .ok inherited => index.ancestorsThrough path rest (addNew (listed ++ [supertype]) inherited)
termination_by supertypes => ((index.unvisited path).length, supertypes.length + 1)
decreasing_by
  · exact Prod.Lex.right _ (by simp)
  · exact Prod.Lex.right _ (by simp)

end

/-- All supertypes of a type, direct and inherited. -/
def ancestors (index : TypeIndex) (name : String) : Except ResolveError (List String) :=
  index.ancestorsAlong [] name

end ClassCatalog.TypeIndex
