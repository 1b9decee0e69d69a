/-!
# Blank characters

Two notions of blank meet in a traffic graph. Numbers may be preceded by ASCII
blanks, of which there are five: the vertical tab is not among them. The name of
a host may not consist of blanks alone, and there every character with the
Unicode property *White_Space* counts – twenty-five characters in ten ranges,
the same set in every version of the standard since 6.3.
-/

namespace TrafficGraph

namespace Text

/-- The five ASCII blanks: tab, line feed, form feed, carriage return and space. -/
def isBlank (c : Char) : Bool :=
  c == '\t' || c == '\n' || c == '\x0c' || c == '\r' || c == ' '

/-- The closed ranges of the property *White_Space*, ascending and apart. -/
def whiteRanges : List (Nat × Nat) :=
  [(0x09, 0x0D), (0x20, 0x20), (0x85, 0x85), (0xA0, 0xA0), (0x1680, 0x1680), (0x2000, 0x200A),
   (0x2028, 0x2029), (0x202F, 0x202F), (0x205F, 0x205F), (0x3000, 0x3000)]

/-- The code point lies in one of the closed ranges. -/
def inRanges (ranges : List (Nat × Nat)) (n : Nat) : Bool :=
  ranges.any fun r => r.1 ≤ n && n ≤ r.2

/-- The characters with the Unicode property *White_Space*. -/
def isWhite (c : Char) : Bool := inRanges whiteRanges c.toNat

/-- The text holds nothing but white space; the empty text does. -/
def allWhite (s : String) : Bool := s.toList.all isWhite

end Text

end TrafficGraph
