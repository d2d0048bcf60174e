/-!
# Warnings

What is left out of the documentation without stopping it.
-/

namespace ClassCatalog

/-- Something that does not fit into the documentation. -/
inductive Warning where
  | syntaxErrors (path : String)
  | methodOutsideClass (method : String)
  | parameterOutsideClass (parameter : String)
  | parameterWithoutMethod (className parameter : String)
  | supertypeOutsideClass (supertype : String)
  | openClasses (depth : Nat)
deriving DecidableEq, Inhabited

namespace Warning

/-- The warning in words, with what it is about behind it. -/
def message : Warning → String
  | syntaxErrors path => "syntax errors in source, extracting what parsed path=" ++ path
  | methodOutsideClass method => "method outside of any class, dropped method=" ++ method
  | parameterOutsideClass parameter =>
    "parameter outside of any class, dropped parameter=" ++ parameter
  | parameterWithoutMethod className parameter =>
    "parameter with no current method, dropped class=" ++ className ++ " parameter=" ++ parameter
  | supertypeOutsideClass supertype =>
    "supertype clause outside of any class, dropped supertype=" ++ supertype
  | openClasses depth => "class stack not empty at end of unit depth=" ++ toString depth

end Warning

end ClassCatalog
