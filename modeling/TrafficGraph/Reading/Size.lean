import TrafficGraph.Logged
import TrafficGraph.Numeral
import TrafficGraph.Text.Cut

/-!
# Byte counts and truth values

Two readings that are strict: every text outside their form is a fault. A byte
count is a run of digits, alone or followed by one space and a unit; no digits
are zero. A truth value is `true` or `1`, or `false` or `0`.
-/

namespace TrafficGraph

namespace Size

/-- The units of a byte count with their numbers of bytes: powers of a thousand,
and of 1024. -/
def units : List (String × UInt64) :=
  [("kb", 1000), ("mb", 1000000), ("gb", 1000000000), ("tb", 1000000000000),
   ("kib", 1024), ("mib", 1048576), ("gib", 1073741824), ("tib", 1099511627776)]

/-- The number of bytes of a unit, in any letter case. -/
def unit? (name : String) : Option UInt64 :=
  (units.find? fun u => Text.alike u.1 name).map (·.2)

/-- The digits of a byte count, and its unit if there is one: the parts before
and after the first space. -/
def split (text : String) : String × Option String :=
  match Text.cut? ' ' text with
  | some (number, unit) => (number, some unit)
  | none => (text, none)

/-- The number of bytes that a number and a unit make. -/
def scale (attr text : String) (number : UInt64) : Option String → Logged UInt64
  | none => .value number
  | some unit => do
    let bytes ← .orFail (.sizeUnit unit text attr) (unit? unit)
    .orFail (.sizeRange text attr) (Numeral.times? number bytes)

/-- **The reading of a byte count.** The faults are looked for in this order: a
character that is no digit before the first space, a number beyond a word, an
unknown unit, a product beyond a word. -/
def read (attr text : String) : Logged UInt64 := do
  let (number, unit) := split text
  match number.toList.find? fun c => !c.isDigit with
  | some c => .fail (.sizeDigit c text attr)
  | none =>
    let n ← .orFail (.sizeRange text attr) (Numeral.word? number.toList)
    let size ← scale attr text n unit
    .note (.readSize size text)
    return size

end Size

/-- A truth value, and whether the text it was read from is one. -/
structure Flag where
  /-- The truth value. -/
  value : Bool
  /-- The text was one of the words for a truth value. -/
  found : Bool
deriving DecidableEq, Repr

namespace Flag

/-- The truth value a text stands for: a word in any letter case, or a digit. -/
def ofText? (text : String) : Option Bool :=
  if Text.alike "true" text || text == "1" then some true
  else if Text.alike "false" text || text == "0" then some false
  else none

/-- **The reading of a truth value.** -/
def read (attr text : String) : Logged Flag := do
  let value ← .orFail (.notBoolean attr) (ofText? text)
  .note (.readFlag value text)
  return ⟨value, true⟩

end Flag

end TrafficGraph
