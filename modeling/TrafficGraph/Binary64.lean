/-!
# Binary fractions in decimal

A JSON number with a fraction or an exponent is a binary fraction of 64 bits, and
a message that names such a number writes the fewest decimal digits that are
nearer to it than to any other binary fraction. The digits are chosen by exact
arithmetic on natural numbers; floating-point operations take no part.

A positive value is decoded as `m · 2^q`. The reals that round to it reach half a
unit to either side – a quarter of a unit below when the value is a power of two
– and include the two ends when `m` is even. On the grid of numbers with a given
count of digits, only the two neighbours of the value can be nearest to it, so
the grids are tried from the coarsest on, and the first one with a neighbour in
that interval gives the digits. Of two such neighbours the nearer is taken, and
the even one when they are equally near.

How the digits are laid out depends on the exponent of the leading one. From
`10^-5` on and below `10^16` the notation is positional, with at least one digit
on either side of the point (`0.00001`, `100.0`); beyond these the notation is
scientific, with the exponent's sign always written (`1e-6`, `1.5e+16`).
-/

namespace TrafficGraph

/-- A finite binary fraction of 64 bits: one bit of sign, eleven of exponent and
fifty-two of significand. -/
structure Binary64 where
  /-- The bits, the sign in the highest. -/
  bits : UInt64
deriving DecidableEq, Repr

namespace Binary64

/-- The number is negative, or a negative zero. -/
def isNegative (x : Binary64) : Bool := x.bits.toNat / Nat.pow 2 63 == 1

/-- The eleven bits of the exponent. -/
def exponentBits (x : Binary64) : Nat := x.bits.toNat / Nat.pow 2 52 % Nat.pow 2 11

/-- The fifty-two bits of the significand. -/
def fractionBits (x : Binary64) : Nat := x.bits.toNat % Nat.pow 2 52

/-- The significand `m` of the absolute value `m · 2^q`. -/
def significand (x : Binary64) : Nat :=
  if x.exponentBits = 0 then x.fractionBits else Nat.pow 2 52 + x.fractionBits

/-- The exponent `q` of the absolute value `m · 2^q`. -/
def exponent (x : Binary64) : Int :=
  if x.exponentBits = 0 then -1074 else (x.exponentBits : Int) - 1075

/-- The value below is only half as far away as the value above. -/
def isNarrowBelow (x : Binary64) : Bool := x.fractionBits == 0 && 1 < x.exponentBits

/-- A power with an integer exponent as a fraction: numerator and denominator. -/
def ratio (base : Nat) (e : Int) : Nat × Nat := (Nat.pow base e.toNat, Nat.pow base (-e).toNat)

/-- The least `k` such that the absolute value is below `10^k`; zero is not asked
for. -/
def scale (x : Binary64) : Int :=
  let (num, den) := ratio 2 x.exponent
  let whole := x.significand * num / den
  if whole = 0 then
    -(((List.range 330).find? fun z =>
      den ≤ x.significand * num * Nat.pow 10 (z + 1)).getD 0 : Nat)
  else (Nat.toDigits 10 whole).length

/-- The multiple of `10^e` that is nearest to the absolute value among those that
round to it, if there is one; the result is the multiplier. -/
def onGrid? (x : Binary64) (e : Int) : Option Nat :=
  let (twos, twosBelow) := ratio 2 x.exponent
  let (tens, tensBelow) := ratio 10 e
  -- the value is `x.significand * one / den` grid steps
  let one := twos * tensBelow
  let den := twosBelow * tens
  let value := 4 * (x.significand * one)
  let low := value - (if x.isNarrowBelow then 1 else 2) * one
  let high := value + 2 * one
  let even := x.significand % 2 == 0
  let fits (n : Nat) : Bool :=
    let v := 4 * (n * den)
    (low < v || (even && low == v)) && (v < high || (even && v == high))
  let below := x.significand * one / den
  let rest := x.significand * one % den
  let isBelowNearer := 2 * rest < den || (2 * rest == den && below % 2 == 0)
  match fits below, fits (below + 1) with
  | true, true => some (if isBelowNearer then below else below + 1)
  | true, false => some below
  | false, true => some (below + 1)
  | false, false => none

/-- The fewest digits that identify the absolute value, with the power of ten
they are multiplied by. Seventeen digits suffice for every value. -/
def shortest (x : Binary64) : Nat × Int :=
  let k := x.scale
  ((List.range 17).findSome? fun (n : Nat) =>
    (x.onGrid? (k - (n + 1))).map fun d => (d, k - (n + 1))).getD (0, 0)

/-- Digits without the zeros at their end, and the number of zeros taken off. -/
def trim (digits : List Char) : List Char × Nat :=
  let kept := (digits.reverse.dropWhile (· == '0')).reverse
  (kept, digits.length - kept.length)

/-- The exponent of the leading digit of `digits · 10^e`. -/
def leading (digits : List Char) (e : Int) : Int := digits.length + e - 1

/-- The leading digit's exponents at which the notation is positional. -/
def isPlain (leading : Int) : Bool := -5 ≤ leading && leading < 16

/-- Positional notation: a point after the units, and at least one digit on
either side of it. -/
def positional (digits : List Char) (e : Int) : List Char :=
  let point := leading digits e + 1
  if 0 ≤ e then digits ++ List.replicate e.toNat '0' ++ ['.', '0']
  else if 0 < point then digits.take point.toNat ++ '.' :: digits.drop point.toNat
  else ['0', '.'] ++ List.replicate (-point).toNat '0' ++ digits

/-- Scientific notation: the leading digit, the others after a point if there are
any, and the exponent of the leading digit with its sign. -/
def scientific (digits : List Char) (e : Int) : List Char :=
  let others := digits.drop 1
  let exponent := leading digits e
  digits.take 1 ++ (if others.isEmpty then [] else '.' :: others) ++
    'e' :: (if exponent < 0 then '-' else '+') :: Nat.toDigits 10 exponent.natAbs

/-- The digits in the notation that the exponent of the leading one asks for. -/
def layOut (digits : List Char) (e : Int) : List Char :=
  if isPlain (leading digits e) then positional digits e else scientific digits e

/-- **The written form of a binary fraction**: the fewest digits that identify it,
in positional notation unless the value is very small or very large. -/
def text (x : Binary64) : String :=
  let body :=
    if x.significand = 0 then ['0', '.', '0']
    else
      let (d, e) := x.shortest
      let (digits, zeros) := trim (Nat.toDigits 10 d)
      layOut digits (e + zeros)
  String.ofList (if x.isNegative then '-' :: body else body)

end Binary64

end TrafficGraph
