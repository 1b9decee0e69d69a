import TrafficGraph.Text.Hidden

/-!
# Quoted texts in messages

A message that repeats a text in quotation marks writes it so that it can be told
apart from any other: quotation marks, backslashes and the common control
characters are escaped by a letter, and what is not seen on its own by its code
point in hexadecimal.
-/

namespace TrafficGraph

namespace Text

/-- A character inside quotation marks. -/
def quotedChar (c : Char) : List Char :=
  if c = '\x00' then ['\\', '0']
  else if c = '\t' then ['\\', 't']
  else if c = '\r' then ['\\', 'r']
  else if c = '\n' then ['\\', 'n']
  else if c = '"' then ['\\', '"']
  else if c = '\\' then ['\\', '\\']
  else if isHidden c then ['\\', 'u', '\x7b'] ++ Nat.toDigits 16 c.toNat ++ ['\x7d']
  else [c]

/-- A text in quotation marks. -/
def inQuotes (s : String) : String :=
  String.ofList ('"' :: (s.toList.flatMap quotedChar ++ ['"']))

end Text

end TrafficGraph
