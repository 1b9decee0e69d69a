import TrafficGraph.Text.Cut

/-!
# IPv4 addresses

An address is four octets, written in decimal with dots between them. The
written form is unique: reading accepts exactly four octets, each written
without a leading zero and none above 255, and nothing around them.

Two addresses are reserved in a traffic graph: `0.0.0.0`, which stands for any
address, and `255.255.255.255`, which stands for the lack of one.
-/

namespace TrafficGraph

/-- An IPv4 address: four octets, the most significant first. -/
structure Address where
  /-- The first octet. -/
  a : UInt8
  /-- The second octet. -/
  b : UInt8
  /-- The third octet. -/
  c : UInt8
  /-- The fourth octet. -/
  d : UInt8
deriving DecidableEq, Repr

namespace Address

/-- The address of this host itself, `127.0.0.1`. -/
def loopback : Address := ⟨127, 0, 0, 1⟩

/-- The reserved address for "any", `0.0.0.0`. -/
def any : Address := ⟨0, 0, 0, 0⟩

/-- The reserved address for "none", `255.255.255.255`. -/
def none : Address := ⟨255, 255, 255, 255⟩

/-- **An address that can be talked to** is neither of the two reserved ones. -/
def isUsable (x : Address) : Bool := x != any && x != none

/-- The dotted form of an address. -/
def text (x : Address) : String :=
  x.a.toNat.repr ++ "." ++ x.b.toNat.repr ++ "." ++ x.c.toNat.repr ++ "." ++ x.d.toNat.repr

/-- The digits of a number as they are written: at least one, and no zero in
front of another digit. -/
def isNumeral : List Char → Bool
  | [] => false
  | ['0'] => true
  | c :: cs => c != '0' && c.isDigit && cs.all Char.isDigit

/-- The octet that is written by the given characters. -/
def octet? (cs : List Char) : Option UInt8 :=
  if isNumeral cs && cs.length ≤ 3 then
    let n := Nat.ofDigitChars 10 cs 0
    if n < 256 then some (UInt8.ofNat n) else Option.none
  else Option.none

/-- The address whose dotted form is given, if there is one. -/
def ofText? (s : String) : Option Address :=
  match Text.fieldsList '.' s.toList with
  | [w, x, y, z] => do
    let a ← octet? w
    let b ← octet? x
    let c ← octet? y
    let d ← octet? z
    return ⟨a, b, c, d⟩
  | _ => Option.none

end Address

end TrafficGraph
