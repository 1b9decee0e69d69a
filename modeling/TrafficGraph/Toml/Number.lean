import TrafficGraph.Toml.Lexical
import TrafficGraph.Toml.Value

/-!
# Numbers and moments of TOML

Values that are written without quotation marks or brackets: truth values, whole
numbers in four bases, numbers with a fraction, dates and times.

* A whole number must fit 64 bits with a sign; only a decimal one carries a sign.
* Digits may be grouped by single underscores between digits, and a decimal number
  has no leading zero.
* A positive number with a fraction must not be so large that the nearest binary
  fraction of 64 bits is infinite (`TrafficGraph.Toml.isInfinite`).
* The day of a date must be a day of its month.
-/

namespace TrafficGraph

namespace Toml

/-! ### Digits -/

/-- Digits after the first one, with single underscores between digits. -/
def moreDigits (isDigit : Char → Bool) : List Char → List Char × List Char
  | '_' :: c :: r =>
    if isDigit c then
      let (ds, rest) := moreDigits isDigit r
      (c :: ds, rest)
    else ([], '_' :: c :: r)
  | c :: r =>
    if isDigit c then
      let (ds, rest) := moreDigits isDigit r
      (c :: ds, rest)
    else ([], c :: r)
  | [] => ([], [])

/-- Digits, at least one, with single underscores between them. -/
def digits? (isDigit : Char → Bool) : Reader (List Char)
  | c :: r =>
    if isDigit c then
      let (ds, rest) := moreDigits isDigit r
      some (c :: ds, rest)
    else none
  | [] => none

/-- Decimal digits without a leading zero. -/
def whole? : Reader (List Char)
  | '0' :: r => some (['0'], r)
  | cs => digits? Char.isDigit cs

/-- A sign that may be missing. -/
def sign : List Char → Bool × List Char
  | '-' :: r => (true, r)
  | '+' :: r => (false, r)
  | cs => (false, cs)

/-- The characters of a text up to what is left of it. -/
def spelling (cs rest : List Char) : String := String.ofList (cs.take (cs.length - rest.length))

/-! ### Whole numbers -/

/-- A number in hexadecimal, octal or binary digits, after its mark. -/
def based? (base : Nat) (cs : List Char) : Option (Toml × List Char) := do
  let (ds, r) ← digits? (fun c => (hexDigit? c).any (· < base)) cs
  let n := ds.foldl (fun n c => base * n + (hexDigit? c).getD 0) 0
  if n < Nat.pow 2 63 then some (.integer n, r) else none

/-- A whole number. -/
def integer? : Reader Toml
  | '0' :: 'x' :: r => based? 16 r
  | '0' :: 'o' :: r => based? 8 r
  | '0' :: 'b' :: r => based? 2 r
  | cs => do
    let (negative, r) := sign cs
    let (ds, r) ← whole? r
    let n := Nat.ofDigitChars 10 ds 0
    if negative then
      if n ≤ Nat.pow 2 63 then some (.integer (-n), r) else none
    else if n < Nat.pow 2 63 then some (.integer n, r) else none

/-! ### Numbers with a fraction -/

/-- The digits after a point. -/
def fraction? : Reader (List Char)
  | '.' :: r => digits? Char.isDigit r
  | _ => none

/-- An exponent. -/
def exponent? : List Char → Option (Int × List Char)
  | c :: r => do
    if c == 'e' || c == 'E' then
      let (negative, r) := sign r
      let (ds, r) ← digits? Char.isDigit r
      let n := Nat.ofDigitChars 10 ds 0
      some (if negative then -(n : Int) else n, r)
    else none
  | [] => none

/-- The number `digits · 10^e` is nearer to infinity than to any finite binary
fraction of 64 bits: it is at least `(2⁵⁴ - 1) · 2⁹⁷⁰`. Numbers of clearly fewer
or more than three hundred digits are told by their length. -/
def isInfinite (digits : List Char) (e : Int) : Bool :=
  let ds := digits.dropWhile (· == '0')
  let size := ds.length + e
  if ds.isEmpty || size ≤ 308 then false
  else if 310 < size then true
  else (Nat.pow 2 54 - 1) * Nat.pow 2 970 * Nat.pow 10 (-e).toNat ≤
    Nat.ofDigitChars 10 ds 0 * Nat.pow 10 e.toNat

/-- A number that has a fraction, an exponent or both: its digits, the power of
ten they are multiplied by, and what follows. -/
def decimal? (cs : List Char) : Option ((List Char × Int) × List Char) := do
  let (ds, r) ← whole? cs
  match fraction? r with
  | some (fs, r) =>
    match exponent? r with
    | some (e, r) => some ((ds ++ fs, e - fs.length), r)
    | none => some ((ds ++ fs, -(fs.length : Int)), r)
  | none =>
    let (e, r) ← exponent? r
    some ((ds, e), r)

/-- A number with a fraction or an exponent, an infinity, or the mark for no
number. -/
def float? (cs : List Char) : Option (Toml × List Char) := do
  let (negative, r) := sign cs
  match r with
  | 'i' :: 'n' :: 'f' :: r => some (.float (spelling cs r), r)
  | 'n' :: 'a' :: 'n' :: r => some (.float (spelling cs r), r)
  | _ =>
    let ((ds, e), r) ← decimal? r
    if !negative && isInfinite ds e then none else some (.float (spelling cs r), r)

/-! ### Moments -/

/-- A number of two decimal digits within bounds. -/
def two? (low high : Nat) : List Char → Option (Nat × List Char)
  | c :: d :: r => do
    let n := Nat.ofDigitChars 10 [c, d] 0
    if c.isDigit && d.isDigit && low ≤ n && n ≤ high then some (n, r) else none
  | _ => none

/-- What follows the given character. -/
def skip? (c : Char) : List Char → Option (List Char)
  | d :: r => if d = c then some r else none
  | [] => none

/-- The number of days of a month. -/
def daysIn (year month : Nat) : Nat :=
  if month == 2 then
    if year % 4 == 0 && (year % 100 != 0 || year % 400 == 0) then 29 else 28
  else if month == 4 || month == 6 || month == 9 || month == 11 then 30
  else 31

/-- What follows a date. -/
def skipDate? (cs : List Char) : Option (List Char) := do
  let (century, r) ← two? 0 99 cs
  let (year, r) ← two? 0 99 r
  let (month, r) ← two? 1 12 (← skip? '-' r)
  let (_, r) ← two? 1 (daysIn (100 * century + year) month) (← skip? '-' r)
  some r

/-- What follows a time of day. -/
def skipTime? (cs : List Char) : Option (List Char) := do
  let (_, r) ← two? 0 23 cs
  let (_, r) ← two? 0 59 (← skip? ':' r)
  let (_, r) ← two? 0 60 (← skip? ':' r)
  match r with
  | '.' :: c :: r => if c.isDigit then some (r.dropWhile Char.isDigit) else some ('.' :: c :: r)
  | r => some r

/-- What follows the difference from universal time, if there is one. -/
def skipOffset (cs : List Char) : List Char :=
  match cs with
  | [] => []
  | c :: r =>
    if c == 'Z' || c == 'z' then r
    else if c == '+' || c == '-' then
      (do
        let (_, r) ← two? 0 23 r
        let (_, r) ← two? 0 59 (← skip? ':' r)
        some r).getD cs
    else cs

/-- A date, which a time may follow, or a time. -/
def moment? (cs : List Char) : Option (Toml × List Char) :=
  match skipDate? cs with
  | some r =>
    let rest :=
      match r with
      | c :: t =>
        if c == 'T' || c == 't' || c == ' ' then ((skipTime? t).map skipOffset).getD r else r
      | [] => r
    some (.moment (spelling cs rest), rest)
  | none => (skipTime? cs).map fun r => (.moment (spelling cs r), r)

/-! ### All of them -/

/-- **A value without quotation marks or brackets.** -/
def plain? : Reader Toml
  | 't' :: 'r' :: 'u' :: 'e' :: r => some (.boolean true, r)
  | 'f' :: 'a' :: 'l' :: 's' :: 'e' :: r => some (.boolean false, r)
  | cs => (moment? cs).or ((float? cs).or (integer? cs))

end Toml

end TrafficGraph
