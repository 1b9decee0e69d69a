import TrafficGraph.Text.Blank

/-!
# Decimal numerals in 64-bit words

The numbers of a traffic graph are words of 64 bits, written in decimal. They
are read digit by digit, and the reading stops being a word as soon as a digit
takes the value past the largest one.

* `TrafficGraph.Numeral.word?` – the word a run of digits stands for, if it fits;
* `TrafficGraph.Numeral.lenient` – the reading of times, counts and ports, which
  accepts every text: blanks and one sign are skipped, the reading ends at the
  first character that is no digit, and too large a number is the largest word;
* `TrafficGraph.Numeral.times?` and `TrafficGraph.Numeral.thousandfold` –
  multiplication that refuses, and multiplication that saturates, beyond a word.

The unbounded value against which these are measured is core's
`Nat.ofDigitChars 10`, and the written form of a number is core's `Nat.repr`.
-/

namespace TrafficGraph

namespace Numeral

/-- The largest word. -/
def top : UInt64 := 0xFFFFFFFFFFFFFFFF

/-- The natural number as a word, if it is one. -/
def ofNat? (n : Nat) : Option UInt64 :=
  if n < UInt64.size then some (UInt64.ofNat n) else none

/-- The word with one more digit at its end, unless that is too large. -/
def push? (w : UInt64) (digit : Char) : Option UInt64 :=
  ofNat? (10 * w.toNat + (digit.toNat - '0'.toNat))

/-- **The word written by a run of digits**, most significant first: `none` when
the number does not fit, and zero for no digits at all. -/
def word? (digits : List Char) : Option UInt64 := digits.foldlM push? 0

/-- A number's sign and what follows it: at most one sign is taken off. -/
def unsign : List Char → Bool × List Char
  | '-' :: cs => (true, cs)
  | '+' :: cs => (false, cs)
  | cs => (false, cs)

/-- **The lenient reading of a number.** Leading ASCII blanks and one sign are
skipped, and the digits up to the first other character are read; without digits
the number is zero. A number of 2⁶⁴ or more is the largest word whatever its
sign, and a minus sign otherwise takes the negative modulo 2⁶⁴. -/
def lenient (s : String) : UInt64 :=
  let (negative, cs) := unsign (s.toList.dropWhile Text.isBlank)
  match word? (cs.takeWhile Char.isDigit) with
  | none => top
  | some w => if negative then -w else w

/-- The product of two words, if it is a word. -/
def times? (v w : UInt64) : Option UInt64 := ofNat? (v.toNat * w.toNat)

/-- A thousand times the word, or the largest word if that is too large: seconds
in milliseconds. -/
def thousandfold (w : UInt64) : UInt64 := (times? w 1000).getD top

/-- The word as a port number, if it has at most sixteen bits. -/
def port? (w : UInt64) : Option UInt16 :=
  if w.toNat < UInt16.size then some w.toUInt16 else none

/-! ### Values -/

theorem ofNat?_eq_some_iff {n : Nat} {w : UInt64} : ofNat? n = some w ↔ w.toNat = n := by
  unfold ofNat?
  split
  · rename_i h
    simp only [Option.some.injEq]
    constructor
    · rintro rfl
      exact UInt64.toNat_ofNat_of_lt h
    · rintro rfl
      simp
  · rename_i h
    have := w.toNat_lt_size
    simp only [reduceCtorEq, false_iff]
    omega

theorem ofNat?_eq_none_iff {n : Nat} : ofNat? n = none ↔ UInt64.size ≤ n := by
  unfold ofNat?
  split <;> simp <;> omega

/-- A word is the port of its value. -/
theorem port?_eq_some_iff {w : UInt64} {port : UInt16} :
    port? w = some port ↔ port.toNat = w.toNat := by
  unfold port?
  split
  · rename_i h
    rw [Option.some.injEq, ← UInt16.toNat_inj, UInt64.toNat_toUInt16]
    change w.toNat % UInt16.size = port.toNat ↔ _
    rw [Nat.mod_eq_of_lt h, eq_comm]
  · have := port.toNat_lt_size
    simp only [reduceCtorEq, false_iff]
    omega

theorem port?_eq_none_iff {w : UInt64} : port? w = none ↔ UInt16.size ≤ w.toNat := by
  unfold port?
  split <;> simp <;> omega

end Numeral

end TrafficGraph
