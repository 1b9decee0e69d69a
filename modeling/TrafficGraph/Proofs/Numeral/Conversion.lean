import Mathlib.Algebra.Group.Nat.Defs
import TrafficGraph.Proofs.Numeral.Value
import TrafficGraph.Proofs.Text.Run

/-!
# The lenient reading is a conversion

Times, counts and ports are read the way the C library converts a text to an unsigned number
(`strtoull` in base ten, with words of 64 bits): blanks are skipped, then one sign, digits are
read as far as they go, and what follows them does not matter. The library has six blanks and
this one has five, for the vertical tab is not among them. So the two agree unless a vertical
tab stands among the blanks in front, and then the number is zero.

What a conversion is can be said without reading: `TrafficGraph.Numeral.Converts` describes the
text by its parts and the number by the unbounded value of the digits, and leaves open what is
blank. Every text has a conversion, whatever is blank, and the lenient reading agrees with each,
so it is the conversion with five blanks; the one with six is compared with it on the parts.

* `TrafficGraph.Numeral.exists_converts` – there is a conversion;
* `TrafficGraph.Numeral.toNat_lenient_of_converts` – it is what is read;
* `TrafficGraph.Numeral.lenient_converts` – the comparison.
-/

namespace TrafficGraph

namespace Numeral

/-! ### What a conversion is -/

/-- The sign in front of the digits of a number. -/
inductive Sign where
  /-- There is none. -/
  | absent
  /-- The number is as it stands. -/
  | plus
  /-- The number is negated. -/
  | minus
deriving DecidableEq, Repr

namespace Sign

/-- The characters of a sign. -/
def chars : Sign → List Char
  | absent => []
  | plus => ['+']
  | minus => ['-']

/-- The sign negates. -/
def isMinus : Sign → Bool
  | minus => true
  | _ => false

/-- **The number that a sign and the value of the digits make**: a value that is too large is
the largest word whatever the sign, and a minus sign negates modulo 2⁶⁴ otherwise. -/
def number (sign : Sign) (value : Nat) : Nat :=
  if 2 ^ 64 ≤ value then 2 ^ 64 - 1
  else if sign.isMinus then (2 ^ 64 - value) % 2 ^ 64
  else value

end Sign

/-- **The conversion of a text to a number**, given what is blank: blanks as far as they go, at
most one sign, digits as far as they go – there may be none of them – and a rest. -/
inductive Converts (blank : Char → Bool) : String → Nat → Prop
  /-- The text consists of these parts, and the number is made from the sign and the digits. -/
  | of_parts {blanks digits rest : List Char} (sign : Sign)
      (blank_of_mem : ∀ c ∈ blanks, blank c = true)
      (blanks_end : ∀ c ∈ (sign.chars ++ (digits ++ rest)).head?, blank c = false)
      (no_sign_left : sign = .absent → ∀ c ∈ (digits ++ rest).head?, c ≠ '+' ∧ c ≠ '-')
      (isDigit_of_mem : ∀ c ∈ digits, c.isDigit = true)
      (digits_end : ∀ c ∈ rest.head?, c.isDigit = false) :
      Converts blank (String.ofList (blanks ++ (sign.chars ++ (digits ++ rest))))
        (sign.number (Nat.ofDigitChars 10 digits 0))

/-- The six blanks of the C library: the space, and the tab, the line feed, the vertical tab, the
form feed and the carriage return, which are next to each other. -/
def isSpace (c : Char) : Bool := c == ' ' || (9 ≤ c.toNat && c.toNat ≤ 13)

/-! ### Every text has a conversion -/

/-- What is left of a text after its blanks begins with a sign or with something else. -/
theorem exists_sign (cs : List Char) :
    ∃ (sign : Sign) (tail : List Char), cs = sign.chars ++ tail ∧
      (sign = .absent → ∀ c ∈ tail.head?, c ≠ '+' ∧ c ≠ '-') := by
  rcases cs with _ | ⟨c, cs⟩
  · exact ⟨.absent, [], rfl, nofun⟩
  · by_cases hplus : c = '+'
    · exact ⟨.plus, cs, by rw [hplus]; rfl, nofun⟩
    · by_cases hminus : c = '-'
      · exact ⟨.minus, cs, by rw [hminus]; rfl, nofun⟩
      · refine ⟨.absent, c :: cs, rfl, fun _ d hd => ?_⟩
        obtain rfl : c = d := Option.some.inj hd
        exact ⟨hplus, hminus⟩

/-- **Every text is converted**, whatever is blank. -/
theorem exists_converts (blank : Char → Bool) (s : String) : ∃ v, Converts blank s v := by
  obtain ⟨sign, tail, htail, hsign⟩ := exists_sign (s.toList.dropWhile blank)
  have hs : s = String.ofList (s.toList.takeWhile blank ++
      (sign.chars ++ (tail.takeWhile Char.isDigit ++ tail.dropWhile Char.isDigit))) := by
    rw [List.takeWhile_append_dropWhile, ← htail, List.takeWhile_append_dropWhile,
      String.ofList_toList]
  rw [hs]
  refine ⟨_, .of_parts sign (fun c => Text.of_mem_takeWhile) ?_ ?_
    (fun c => Text.of_mem_takeWhile) fun c => Text.of_head?_dropWhile⟩
  · rw [List.takeWhile_append_dropWhile, ← htail]
    exact fun c => Text.of_head?_dropWhile
  · rw [List.takeWhile_append_dropWhile]
    exact hsign

/-! ### The conversion is what is read -/

/-- A sign is taken off, and nothing else is. -/
theorem unsign_append {sign : Sign} {tail : List Char}
    (h : sign = .absent → ∀ c ∈ tail.head?, c ≠ '+' ∧ c ≠ '-') :
    unsign (sign.chars ++ tail) = (sign.isMinus, tail) := by
  cases sign with
  | absent =>
    rcases tail with _ | ⟨c, tail⟩
    · rfl
    · obtain ⟨hplus, hminus⟩ := h rfl c rfl
      change unsign (c :: tail) = (false, c :: tail)
      rw [unsign]
      · exact fun _ he => hminus (List.cons.inj he).1
      · exact fun _ he => hplus (List.cons.inj he).1
  | plus => rfl
  | minus => rfl

/-- The word that is made of a sign and of digits with a value. -/
theorem toNat_signed (sign : Sign) (value : Nat) :
    (match ofNat? value with
      | none => top
      | some w => if sign.isMinus then -w else w).toNat = sign.number value := by
  rw [Sign.number]
  rcases hw : ofNat? value with _ | w
  · have hle : 2 ^ 64 ≤ value := ofNat?_eq_none_iff.mp hw
    rw [if_pos hle]
    rfl
  · have hvalue : w.toNat = value := ofNat?_eq_some_iff.mp hw
    have hlt : w.toNat < 2 ^ 64 := w.toNat_lt_size
    rw [← hvalue, if_neg (by omega)]
    dsimp only
    split
    · exact UInt64.toNat_neg w
    · rfl

/-- **The lenient reading gives the conversion.** -/
theorem toNat_lenient_of_converts {s : String} {v : Nat} (h : Converts Text.isBlank s v) :
    (lenient s).toNat = v := by
  obtain ⟨sign, hblanks, hfirst, hsign, hdigits, hrest⟩ := h
  rw [lenient, String.toList_ofList, Text.dropWhile_append_of_stop hblanks hfirst,
    unsign_append hsign]
  dsimp only
  rw [Text.takeWhile_append_of_stop hdigits hrest, word?_eq]
  exact toNat_signed sign _

/-- The lenient reading is the conversion with the five ASCII blanks. -/
theorem toNat_lenient_eq_iff {s : String} {v : Nat} :
    (lenient s).toNat = v ↔ Converts Text.isBlank s v := by
  refine ⟨fun h => ?_, toNat_lenient_of_converts⟩
  obtain ⟨v', hv'⟩ := exists_converts Text.isBlank s
  rw [← h, toNat_lenient_of_converts hv']
  exact hv'

/-! ### The vertical tab -/

/-- The vertical tab is the one blank that the ASCII blanks lack. -/
theorem isSpace_eq (c : Char) : isSpace c = (Text.isBlank c || c == '\x0b') := by
  have hchar (d : Char) : (c == d) = decide (c.toNat = d.toNat) := by
    rw [Bool.eq_iff_iff, beq_iff_eq, decide_eq_true_iff, Char.toNat_inj]
  rw [Bool.eq_iff_iff]
  simp only [isSpace, Text.isBlank, hchar, Bool.or_eq_true, Bool.and_eq_true, decide_eq_true_iff]
  change _ = 32 ∨ _ ↔ ((((_ = 9 ∨ _ = 10) ∨ _ = 12) ∨ _ = 13) ∨ _ = 32) ∨ _ = 11
  omega

theorem isSpace_of_isBlank {c : Char} (h : Text.isBlank c = true) : isSpace c = true := by
  rw [isSpace_eq, h, Bool.true_or]

theorem isBlank_of_isSpace {c : Char} (h : isSpace c = true) (hc : c ≠ '\x0b') :
    Text.isBlank c = true := by
  rw [isSpace_eq, beq_false_of_ne hc, Bool.or_false] at h
  exact h

/-- Without a vertical tab in front, the sixth blank makes no difference to the parts. -/
theorem converts_isBlank_of_isSpace {s : String} {v : Nat}
    (hs : '\x0b' ∉ s.toList.takeWhile isSpace) (h : Converts isSpace s v) :
    Converts Text.isBlank s v := by
  obtain ⟨sign, hblanks, hfirst, hsign, hdigits, hrest⟩ := h
  rw [String.toList_ofList, Text.takeWhile_append_of_stop hblanks hfirst] at hs
  refine .of_parts sign (fun c hc => ?_) (fun c hc => ?_) hsign hdigits hrest
  · exact isBlank_of_isSpace (hblanks c hc) fun he => hs (he ▸ hc)
  · rw [Bool.eq_false_iff]
    intro hblank
    exact absurd (isSpace_of_isBlank hblank) (by rw [hfirst c hc]; exact Bool.false_ne_true)

/-- **A vertical tab in front ends the number before it begins.** -/
theorem converts_zero_of_mem {s : String} (hs : '\x0b' ∈ s.toList.takeWhile isSpace) :
    Converts Text.isBlank s 0 := by
  obtain ⟨blanks, after, hrun, hnot⟩ := List.eq_append_cons_of_mem hs
  -- everything in front of the first vertical tab is blank, and the vertical tab is the rest
  have htext : s = String.ofList (blanks ++ (Sign.absent.chars ++
      ([] ++ '\x0b' :: (after ++ s.toList.dropWhile isSpace)))) := by
    change s = String.ofList (blanks ++ '\x0b' :: (after ++ s.toList.dropWhile isSpace))
    rw [← List.cons_append, ← List.append_assoc, ← hrun, List.takeWhile_append_dropWhile,
      String.ofList_toList]
  have hblanks : ∀ c ∈ blanks, Text.isBlank c = true := by
    intro c hc
    have hspace : isSpace c = true :=
      Text.of_mem_takeWhile (hrun ▸ List.mem_append_left _ hc)
    exact isBlank_of_isSpace hspace fun he => hnot (he ▸ hc)
  rw [htext]
  refine .of_parts .absent hblanks ?_ ?_ nofun ?_
  · rintro c ⟨⟩
    rfl
  · rintro - c ⟨⟩
    exact ⟨by decide, by decide⟩
  · rintro c ⟨⟩
    rfl

/-! ### The comparison -/

/-- **The lenient reading is the conversion of the C library**, unless there is a vertical tab
among the blanks in front of the number: then it gives zero. With its own five blanks it is a
conversion for every text. The digits are read one by one, and the reading finds that there is
no room if and only if the value of all of them is too large for a word. -/
theorem lenient_converts :
    (∀ (s : String) (v : Nat), '\x0b' ∉ s.toList.takeWhile isSpace →
        ((lenient s).toNat = v ↔ Converts isSpace s v)) ∧
      (∀ s : String, '\x0b' ∈ s.toList.takeWhile isSpace → lenient s = 0) ∧
      (∀ (s : String) (v : Nat), (lenient s).toNat = v ↔ Converts Text.isBlank s v) ∧
      ∀ digits : List Char, word? digits = none ↔ 2 ^ 64 ≤ Nat.ofDigitChars 10 digits 0 := by
  refine ⟨fun s v hs => ⟨fun h => ?_, fun h => ?_⟩, fun s hs => ?_,
    fun s v => toNat_lenient_eq_iff, fun digits => ?_⟩
  · obtain ⟨v', hv'⟩ := exists_converts isSpace s
    have hread := toNat_lenient_of_converts (converts_isBlank_of_isSpace hs hv')
    rw [← h, hread]
    exact hv'
  · exact toNat_lenient_of_converts (converts_isBlank_of_isSpace hs h)
  · exact UInt64.toNat_inj.mp (toNat_lenient_of_converts (converts_zero_of_mem hs))
  · rw [word?_eq]
    exact ofNat?_eq_none_iff

/-- The largest word with zeros in front of it and a minus sign is one, the number after it
saturates in spite of its sign, and a vertical tab hides the number behind it. -/
theorem lenient_converts_negative :
    '\x0b' ∉ " \t-0018446744073709551615kb".toList.takeWhile isSpace ∧
      Converts isSpace " \t-0018446744073709551615kb" 1 ∧
      '\x0b' ∉ "-18446744073709551616".toList.takeWhile isSpace ∧
      Converts isSpace "-18446744073709551616" (2 ^ 64 - 1) ∧
      '\x0b' ∈ " \x0b7".toList.takeWhile isSpace ∧ lenient " \x0b7" = 0 := by
  obtain ⟨hconversion, hzero, -, -⟩ := lenient_converts
  have hone : '\x0b' ∉ " \t-0018446744073709551615kb".toList.takeWhile isSpace := by decide
  have htop : '\x0b' ∉ "-18446744073709551616".toList.takeWhile isSpace := by decide
  have htab : '\x0b' ∈ " \x0b7".toList.takeWhile isSpace := by decide
  exact ⟨hone, (hconversion _ _ hone).mp rfl, htop, (hconversion _ _ htop).mp rfl, htab,
    hzero _ htab⟩

end Numeral

end TrafficGraph
