import TrafficGraph.Json.Value

/-!
# The text of JSON values

Two layouts of the same text. The compact one has no blanks; the indented one
puts every item and member on a line of its own, two blanks deeper than what it
belongs to, and writes an empty array or object as two brackets.

In a string, the quotation mark, the backslash and the control characters below
U+0020 are escaped – five of them by a letter, the others by four hexadecimal
digits – and every other character stands for itself.

* `TrafficGraph.Json.compact` and `TrafficGraph.Json.indented` are the two
  layouts, written as lists of characters by `chars` and `lines`.
-/

namespace TrafficGraph

namespace Json

/-- A character inside a string. -/
def escape (c : Char) : List Char :=
  if c = '"' then ['\\', '"']
  else if c = '\\' then ['\\', '\\']
  else if c = '\x08' then ['\\', 'b']
  else if c = '\x0c' then ['\\', 'f']
  else if c = '\n' then ['\\', 'n']
  else if c = '\r' then ['\\', 'r']
  else if c = '\t' then ['\\', 't']
  else if c.toNat < 0x20 then
    ['\\', 'u', '0', '0', Nat.digitChar (c.toNat / 16), Nat.digitChar (c.toNat % 16)]
  else [c]

/-- A text as a JSON string, with its quotation marks. -/
def quoted (s : String) : List Char := '"' :: (s.toList.flatMap escape ++ ['"'])

/-- The text of a value that has no parts. -/
def scalar : Json → List Char
  | null => "null".toList
  | boolean true => "true".toList
  | boolean false => "false".toList
  | integer n => if n < 0 then '-' :: Nat.toDigits 10 n.natAbs else Nat.toDigits 10 n.natAbs
  | fraction x => x.text.toList
  | string s => quoted s
  | array _ => []
  | object _ => []

/-! ### Without blanks -/

mutual

/-- The compact text of a value. -/
def chars : Json → List Char
  | array items => '[' :: (charsOfItems items ++ [']'])
  | object members => '\x7b' :: (charsOfMembers members ++ ['\x7d'])
  | v => scalar v

/-- The items of an array with commas between them. -/
def charsOfItems : List Json → List Char
  | [] => []
  | [v] => chars v
  | v :: rest => chars v ++ ',' :: charsOfItems rest

/-- The members of an object with commas between them. -/
def charsOfMembers : List (String × Json) → List Char
  | [] => []
  | [(name, v)] => quoted name ++ ':' :: chars v
  | (name, v) :: rest => quoted name ++ ':' :: (chars v ++ ',' :: charsOfMembers rest)

end

/-- **The compact text of a value.** -/
def compact (v : Json) : String := String.ofList (chars v)

/-! ### With indentation -/

/-- The beginning of a line at the given depth. -/
def newline (depth : Nat) : List Char := '\n' :: List.replicate (2 * depth) ' '

mutual

/-- The indented text of a value whose parts are at the given depth. -/
def lines (depth : Nat) : Json → List Char
  | array [] => ['[', ']']
  | array (v :: rest) => '[' :: (linesOfItems depth (v :: rest) ++ newline (depth - 1) ++ [']'])
  | object [] => ['\x7b', '\x7d']
  | object (m :: rest) =>
    '\x7b' :: (linesOfMembers depth (m :: rest) ++ newline (depth - 1) ++ ['\x7d'])
  | v => scalar v

/-- The items of an array, each on a line of its own. -/
def linesOfItems (depth : Nat) : List Json → List Char
  | [] => []
  | [v] => newline depth ++ lines (depth + 1) v
  | v :: rest => newline depth ++ (lines (depth + 1) v ++ ',' :: linesOfItems depth rest)

/-- The members of an object, each on a line of its own. -/
def linesOfMembers (depth : Nat) : List (String × Json) → List Char
  | [] => []
  | [(name, v)] => newline depth ++ (quoted name ++ ':' :: ' ' :: lines (depth + 1) v)
  | (name, v) :: rest =>
    newline depth ++
      (quoted name ++ ':' :: ' ' :: (lines (depth + 1) v ++ ',' :: linesOfMembers depth rest))

end

/-- **The indented text of a value.** -/
def indented (v : Json) : String := String.ofList (lines 1 v)

end Json

end TrafficGraph
