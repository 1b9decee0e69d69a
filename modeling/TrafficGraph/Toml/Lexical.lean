/-!
# Blanks, strings and keys of TOML

The lexical part of a TOML document. Every reader takes the characters that are
left, and gives what it read together with the characters after it, or nothing.

* Lines end in a line feed, alone or after a carriage return; blanks are spaces
  and tabs, and a comment runs from a number sign to the end of its line.
* Strings are basic or literal, each on one line or on several
  (`basic`, `basicLines`, `literal`, `literalLines`). A string on several lines
  ends in three quotation marks, of which up to two more belong to the string.
* A key is a sequence of at most 79 names with dots between them.
-/

namespace TrafficGraph

namespace Toml

/-- A reader of one part of a document. -/
abbrev Reader (α : Type) : Type := List Char → Option (α × List Char)

/-! ### Blanks and lines -/

/-- Spaces and tabs. -/
def isSpace (c : Char) : Bool := c == ' ' || c == '\t'

/-- What follows the blanks of a line. -/
def skipSpaces (cs : List Char) : List Char := cs.dropWhile isSpace

/-- What follows the end of a line. -/
def newline? : List Char → Option (List Char)
  | '\n' :: r => some r
  | '\r' :: '\n' :: r => some r
  | _ => none

/-- The characters of a comment: all but the control characters, the tab being
none of these. -/
def isCommentChar (c : Char) : Bool :=
  c == '\t' || (0x20 ≤ c.toNat && c.toNat ≤ 0x7E) || 0x80 ≤ c.toNat

/-- What follows a comment, if there is one. -/
def skipComment : List Char → List Char
  | '#' :: r => r.dropWhile isCommentChar
  | cs => cs

/-- The rest of a line holds at most blanks and a comment; what follows the line. -/
def endOfLine? (cs : List Char) : Option (List Char) :=
  match skipComment (skipSpaces cs) with
  | [] => some []
  | r => newline? r

/-- What follows blanks, ends of lines and comments. The flag says that a comment
is being skipped. -/
def skipLines : Bool → List Char → List Char
  | _, '\n' :: r => skipLines false r
  | _, '\r' :: '\n' :: r => skipLines false r
  | true, c :: r => if isCommentChar c then skipLines true r else c :: r
  | false, '#' :: r => skipLines true r
  | false, c :: r => if isSpace c then skipLines false r else c :: r
  | _, [] => []

/-! ### Escapes -/

/-- The value of a hexadecimal digit. -/
def hexDigit? (c : Char) : Option Nat :=
  if c.isDigit then some (c.toNat - '0'.toNat)
  else if 'a' ≤ c && c ≤ 'f' then some (c.toNat - 'a'.toNat + 10)
  else if 'A' ≤ c && c ≤ 'F' then some (c.toNat - 'A'.toNat + 10)
  else none

/-- The character whose code point is written in hexadecimal digits. Surrogates
and numbers beyond the last code point are no characters. -/
def scalar? (digits : List Char) : Option Char := do
  let ds ← digits.mapM hexDigit?
  let n := ds.foldl (fun n d => 16 * n + d) 0
  if n.isValidChar then some (Char.ofNat n) else none

/-- The character that a letter after a backslash stands for. -/
def letter? : Char → Option Char
  | 'b' => some '\x08'
  | 'f' => some '\x0c'
  | 'n' => some '\n'
  | 'r' => some '\r'
  | 't' => some '\t'
  | '\\' => some '\\'
  | '"' => some '"'
  | _ => none

/-! ### Strings -/

/-- The characters that stand for themselves in a basic string. -/
def isBasicChar (c : Char) : Bool := isCommentChar c && c != '"' && c != '\\'

/-- The characters that stand for themselves in a literal string. -/
def isLiteralChar (c : Char) : Bool := isCommentChar c && c != '\''

/-- One more character in front of what was read. -/
def before (c : Char) (r : Option (List Char × List Char)) : Option (List Char × List Char) :=
  r.map fun p => (c :: p.1, p.2)

/-- A basic string on one line, after its opening quotation mark. -/
def basic : Reader (List Char)
  | [] => none
  | '"' :: r => some ([], r)
  | '\\' :: 'u' :: a :: b :: c :: d :: r =>
    (scalar? [a, b, c, d]).bind fun x => before x (basic r)
  | '\\' :: 'U' :: a :: b :: c :: d :: e :: f :: g :: h :: r =>
    (scalar? [a, b, c, d, e, f, g, h]).bind fun x => before x (basic r)
  | '\\' :: c :: r => (letter? c).bind fun x => before x (basic r)
  | c :: r => if isBasicChar c then before c (basic r) else none

/-- A basic string on several lines, after its opening. A backslash at the end of
a line takes away everything up to the next character that is not blank; the flag
says that this is under way. -/
def basicLines : Bool → Reader (List Char)
  | _, [] => none
  | _, '"' :: '"' :: '"' :: '"' :: '"' :: r => some (['"', '"'], r)
  | _, '"' :: '"' :: '"' :: '"' :: r => some (['"'], r)
  | _, '"' :: '"' :: '"' :: r => some ([], r)
  | _, '"' :: r => before '"' (basicLines false r)
  | skipping, '\n' :: r =>
    if skipping then basicLines true r else before '\n' (basicLines false r)
  | skipping, '\r' :: '\n' :: r =>
    if skipping then basicLines true r else before '\n' (basicLines false r)
  | _, '\\' :: 'u' :: a :: b :: c :: d :: r =>
    (scalar? [a, b, c, d]).bind fun x => before x (basicLines false r)
  | _, '\\' :: 'U' :: a :: b :: c :: d :: e :: f :: g :: h :: r =>
    (scalar? [a, b, c, d, e, f, g, h]).bind fun x => before x (basicLines false r)
  | _, '\\' :: c :: r =>
    match letter? c with
    | some x => before x (basicLines false r)
    | none =>
      if (newline? (skipSpaces (c :: r))).isSome then basicLines true (c :: r) else none
  | skipping, c :: r =>
    if skipping && isSpace c then basicLines true r
    else if isBasicChar c then before c (basicLines false r)
    else none

/-- A literal string on one line, after its opening apostrophe. -/
def literal : Reader (List Char)
  | [] => none
  | '\'' :: r => some ([], r)
  | c :: r => if isLiteralChar c then before c (literal r) else none

/-- A literal string on several lines, after its opening. -/
def literalLines : Reader (List Char)
  | [] => none
  | '\'' :: '\'' :: '\'' :: '\'' :: '\'' :: r => some (['\'', '\''], r)
  | '\'' :: '\'' :: '\'' :: '\'' :: r => some (['\''], r)
  | '\'' :: '\'' :: '\'' :: r => some ([], r)
  | '\'' :: r => before '\'' (literalLines r)
  | '\n' :: r => before '\n' (literalLines r)
  | '\r' :: '\n' :: r => before '\n' (literalLines r)
  | c :: r => if isLiteralChar c then before c (literalLines r) else none

/-- The end of a line right after the opening of a string is not part of it. -/
def dropNewline (cs : List Char) : List Char := (newline? cs).getD cs

/-- The characters of a string in any of its four forms. -/
def quotedChars? : Reader (List Char)
  | '"' :: '"' :: '"' :: r => basicLines false (dropNewline r)
  | '"' :: r => basic r
  | '\'' :: '\'' :: '\'' :: r => literalLines (dropNewline r)
  | '\'' :: r => literal r
  | _ => none

/-- A string in any of its four forms. -/
def quoted? (cs : List Char) : Option (String × List Char) :=
  (quotedChars? cs).map fun p => (String.ofList p.1, p.2)

/-! ### Keys -/

/-- The characters of a name without quotation marks. -/
def isBareChar (c : Char) : Bool := c.isAlphanum || c == '_' || c == '-'

/-- One name of a key. -/
def name? (cs : List Char) : Option (String × List Char) :=
  match cs with
  | '"' :: r => (basic r).map fun p => (String.ofList p.1, p.2)
  | '\'' :: r => (literal r).map fun p => (String.ofList p.1, p.2)
  | _ =>
    match cs.takeWhile isBareChar with
    | [] => none
    | bare => some (String.ofList bare, cs.dropWhile isBareChar)

/-- At most the given number of names with dots between them, and the blanks
around each; the last name is kept apart from the ones before it. -/
def names? : Nat → List Char → Option ((List String × String) × List Char)
  | 0, _ => none
  | n + 1, cs => do
    let (name, r) ← name? (skipSpaces cs)
    match skipSpaces r with
    | '.' :: r =>
      let ((path, last), r) ← names? n r
      some ((name :: path, last), r)
    | r => some (([], name), r)

/-- **A key**: the names that lead to a place, and the name at that place. -/
def key? : Reader (List String × String) := names? 79

end Toml

end TrafficGraph
