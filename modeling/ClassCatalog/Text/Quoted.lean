import ClassCatalog.Text.Hidden

/-!
# Quoted texts

A text in quotes as messages show it: quotes, backslashes and the usual controls are escaped by a
backslash, and hidden characters are written by their code points.
-/

namespace ClassCatalog.Text

/-- A character as it stands between quotes in a message. -/
def shown (c : Char) : List Char :=
  if c = '\x00' then ['\\', '0']
  else if c = '\t' then ['\\', 't']
  else if c = '\n' then ['\\', 'n']
  else if c = '\r' then ['\\', 'r']
  else if c = '"' then ['\\', '"']
  else if c = '\\' then ['\\', '\\']
  else if isHidden c then ['\\', 'u', '\x7b'] ++ Nat.toDigits 16 c.toNat ++ ['\x7d']
  else [c]

/-- A text in quotes. -/
def quoted (text : String) : String :=
  String.ofList ('"' :: (text.toList.flatMap shown ++ ['"']))

end ClassCatalog.Text
