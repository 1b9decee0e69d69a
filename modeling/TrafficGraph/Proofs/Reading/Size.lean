import Mathlib.Algebra.Group.Nat.Defs
import TrafficGraph.Proofs.Fault.Echo
import TrafficGraph.Proofs.Numeral.Value
import TrafficGraph.Proofs.Reading.Peers
import TrafficGraph.Proofs.Text.Lookup
import TrafficGraph.Reading.Size

/-!
# Which byte counts are read, and what is wrong with the others

A byte count is digits, alone or with one space and a unit behind them. This module says so
without reading: `TrafficGraph.Size.Denotes` relates a text to the number of bytes it stands for,
which has no bound, and `TrafficGraph.Size.Rejects` relates it to what is wrong with it first.
Both speak of the text before the first space and of the text after it
(`TrafficGraph.Size.Parts`), and of units as powers (`TrafficGraph.Size.powers`).

Between them the two relations leave out no text, and the reading obeys each
(`TrafficGraph.Size.denotes_or_rejects`). So it gives a word exactly for the texts that stand for
one, and that word; and what it reports otherwise is what comes first among a character that is no
digit, a number that is too large, a unit that is not known, and a product that is too large
(`TrafficGraph.Size.read_exact`).
-/

namespace TrafficGraph

namespace Size

/-! ### What a text stands for -/

/-- **The units and their numbers of bytes**: the third to the twelfth power of ten, and the tenth
to the fortieth power of two. -/
def powers : List (String × Nat) :=
  [("kb", 10 ^ 3), ("mb", 10 ^ 6), ("gb", 10 ^ 9), ("tb", 10 ^ 12),
   ("kib", 2 ^ 10), ("mib", 2 ^ 20), ("gib", 2 ^ 30), ("tib", 2 ^ 40)]

/-- **By what a number is multiplied**: by nothing without a unit, and by the number of bytes of
the unit otherwise, in whatever letter case it is written. -/
inductive Factor : Option String → Nat → Prop
  /-- A number without a unit is a number of bytes. -/
  | plain : Factor none 1
  /-- The unit is one of those that are known. -/
  | unit {name : String} {factor : Nat} (h : (Text.lower name, factor) ∈ powers) :
    Factor (some name) factor

/-- **The parts of a byte count**: what stands in front of the first space, and what stands behind
it if there is one. -/
structure Parts (text : String) (front : List Char) (unit : Option String) : Prop where
  /-- The text is its parts and the space between them. -/
  toList_eq : text.toList = front ++ (unit.map fun name => ' ' :: name.toList).getD []
  /-- The space is the first one. -/
  space_not_mem : ' ' ∉ front

/-- **The number of bytes that a text stands for**: the value of its digits – zero if there are
none –, multiplied as its unit says. -/
inductive Denotes (text : String) : Nat → Prop
  /-- There are only digits in front of the first space, and a unit that is known behind it. -/
  | of_parts {digits : List Char} {unit : Option String} {factor : Nat}
      (parts : Parts text digits unit) (isDigit_of_mem : ∀ c ∈ digits, c.isDigit = true)
      (hfactor : Factor unit factor) : Denotes text (Nat.ofDigitChars 10 digits 0 * factor)

/-- **What is wrong with a text first.** -/
inductive Rejects (attr text : String) : Fault → Prop
  /-- A character in front of the first space is no digit; the first such is reported. -/
  | digit {digits : List Char} {found : Char} {more : List Char} {unit : Option String}
      (parts : Parts text (digits ++ found :: more) unit)
      (isDigit_of_mem : ∀ c ∈ digits, c.isDigit = true) (hfound : found.isDigit = false) :
      Rejects attr text (.sizeDigit found text attr)
  /-- The number is no word, whatever follows it. -/
  | number {digits : List Char} {unit : Option String} (parts : Parts text digits unit)
      (isDigit_of_mem : ∀ c ∈ digits, c.isDigit = true)
      (hlarge : 2 ^ 64 ≤ Nat.ofDigitChars 10 digits 0) : Rejects attr text (.sizeRange text attr)
  /-- The number is a word, and all that follows the space is no unit. -/
  | unit {digits : List Char} {name : String} (parts : Parts text digits (some name))
      (isDigit_of_mem : ∀ c ∈ digits, c.isDigit = true)
      (hsmall : Nat.ofDigitChars 10 digits 0 < 2 ^ 64)
      (hname : ∀ factor, ¬Factor (some name) factor) : Rejects attr text (.sizeUnit name text attr)
  /-- The number is a word, and its product with the unit is none. -/
  | product {digits : List Char} {unit : Option String} {factor : Nat}
      (parts : Parts text digits unit) (isDigit_of_mem : ∀ c ∈ digits, c.isDigit = true)
      (hsmall : Nat.ofDigitChars 10 digits 0 < 2 ^ 64) (hfactor : Factor unit factor)
      (hlarge : 2 ^ 64 ≤ Nat.ofDigitChars 10 digits 0 * factor) :
      Rejects attr text (.sizeRange text attr)

/-- Whatever is wrong with a byte count is a fault of its content. -/
theorem Rejects.kind_eq {attr text : String} {f : Fault} (h : Rejects attr text f) :
    f.kind = .invalidContent := by
  cases h <;> rfl

/-- **What the message of a fault repeats**: the attribute, the text, and the character or the unit
that is to blame, if it is one of these. -/
structure Repeats (attr text : String) (f : Fault) : Prop where
  /-- The attribute is named. -/
  names_attr : f.Names attr
  /-- The text is named. -/
  names_text : f.Names text
  /-- A character that is no digit is named. -/
  names_digit : ∀ found : Char, f = .sizeDigit found text attr → f.Names (toString found)
  /-- A unit that is not known is named. -/
  names_unit : ∀ name : String, f = .sizeUnit name text attr → f.Names name

theorem Rejects.repeats {attr text : String} {f : Fault} (h : Rejects attr text f) :
    Repeats attr text f := by
  refine ⟨Fault.names_of_mem_echoed ?_, Fault.names_of_mem_echoed ?_, ?_, ?_⟩
  · cases h <;> simp [Fault.echoed]
  · cases h <;> simp [Fault.echoed]
  · rintro found rfl
    exact Fault.names_of_mem_echoed List.mem_cons_self
  · rintro name rfl
    exact Fault.names_of_mem_echoed List.mem_cons_self

/-! ### Parts and units -/

/-- Every text has parts. -/
theorem exists_parts (text : String) : ∃ front unit, Parts text front unit := by
  rcases hcut : Text.cut? ' ' text with _ | ⟨front, name⟩
  · exact ⟨text.toList, none, (List.append_nil _).symm, Text.cut?_eq_none_iff.mp hcut⟩
  · obtain ⟨htext, hfront⟩ := Text.cut?_eq_some_iff.mp hcut
    exact ⟨front.toList, some name, htext, hfront⟩

/-- **A text is split into its parts.** -/
theorem split_eq {text : String} {front : List Char} {unit : Option String}
    (h : Parts text front unit) : split text = (String.ofList front, unit) := by
  obtain ⟨htext, hfront⟩ := h
  rw [split]
  rcases unit with _ | name
  · have htext : text.toList = front := htext.trans (List.append_nil front)
    rw [Text.cut?_eq_none_iff.mpr (htext.symm ▸ hfront), ← htext, String.ofList_toList]
  · have hcut : Text.cut? ' ' text = some (String.ofList front, name) := by
      rw [Text.cut?_eq_some_iff, String.toList_ofList]
      exact ⟨htext, hfront⟩
    rw [hcut]

theorem find?_units {units : List (String × UInt64)} (h : ∀ u ∈ units, Text.lower u.1 = u.1)
    (name : String) :
    (units.find? fun u => Text.alike u.1 name).map (·.2) = units.lookup (Text.lower name) := by
  induction units with
  | nil => rfl
  | cons u units ih =>
    obtain ⟨hu, hunits⟩ := List.forall_mem_cons.mp h
    have halike : Text.alike u.1 name = (Text.lower name == u.1) := by
      rw [Text.alike, hu, BEq.comm]
    rw [List.find?_cons, List.lookup_cons, halike]
    rcases Text.lower name == u.1 with _ | _
    · exact ih hunits
    · rfl

/-- **Units are found by their name in lower case.** -/
theorem unit?_eq_some_iff {name : String} {w : UInt64} :
    unit? name = some w ↔ Factor (some name) w.toNat := by
  have hnodup : (units.map Prod.fst).Nodup := by decide
  have hlower : ∀ u ∈ units, Text.lower u.1 = u.1 := by decide
  have hpowers : powers = units.map fun u => (u.1, u.2.toNat) := rfl
  rw [unit?, find?_units hlower, Text.lookup_eq_some_iff_mem hnodup]
  constructor
  · intro h
    exact .unit (hpowers ▸ List.mem_map_of_mem h)
  · intro h
    cases h with
    | unit h =>
      rw [hpowers] at h
      obtain ⟨⟨name', w'⟩, hmem, he⟩ := List.mem_map.mp h
      obtain ⟨rfl, hw⟩ := Prod.mk.inj he
      obtain rfl : w' = w := UInt64.toNat_inj.mp hw
      exact hmem

/-- A factor is positive, and it is a word. -/
theorem Factor.bounds {unit : Option String} {factor : Nat} (h : Factor unit factor) :
    0 < factor ∧ factor < UInt64.size := by
  have hpowers : ∀ u ∈ powers, 0 < u.2 ∧ u.2 < UInt64.size := by decide
  rcases h with _ | h
  · exact ⟨by decide, by decide⟩
  · exact hpowers _ h

/-! ### What is read -/

section Read

variable {attr text : String} {digits : List Char} {unit : Option String}

/-- **A character that is no digit** is looked for before anything else. -/
theorem outcome_read_of_not_digit {found : Char} {more : List Char}
    (hparts : Parts text (digits ++ found :: more) unit)
    (hdigits : ∀ c ∈ digits, c.isDigit = true) (hfound : found.isDigit = false) :
    (read attr text).outcome = .error (.sizeDigit found text attr) := by
  have hfind : ((digits ++ found :: more).find? fun c => !c.isDigit) = some found := by
    rw [List.find?_append, Numeral.find?_not_isDigit_eq_none hdigits, Option.none_or,
      List.find?_cons, hfound]
    rfl
  rw [read, split_eq hparts]
  dsimp only
  rw [String.toList_ofList, hfind]
  rfl

/-- **Digits are read as their value**, which is then multiplied. -/
theorem outcome_read_of_digits (hparts : Parts text digits unit)
    (hdigits : ∀ c ∈ digits, c.isDigit = true) :
    (read attr text).outcome =
      match Numeral.ofNat? (Nat.ofDigitChars 10 digits 0) with
      | none => .error (.sizeRange text attr)
      | some n => (scale attr text n unit).outcome := by
  rw [read, split_eq hparts]
  dsimp only
  rw [String.toList_ofList, Numeral.find?_not_isDigit_eq_none hdigits, Numeral.word?_eq]
  dsimp only
  rw [Logged.outcome_bind, Logged.outcome_orFail]
  rcases Numeral.ofNat? (Nat.ofDigitChars 10 digits 0) with _ | n
  · rfl
  · dsimp only
    rw [Logged.outcome_bind]
    rcases (scale attr text n unit).outcome with _ | _ <;> rfl

/-- **The product is refused if it is no word**, and it is the product otherwise. -/
theorem outcome_scale {factor : Nat} (hfactor : Factor unit factor) (n : UInt64) :
    (scale attr text n unit).outcome =
      match Numeral.ofNat? (n.toNat * factor) with
      | none => .error (.sizeRange text attr)
      | some w => .ok w := by
  rcases unit with _ | name
  · obtain rfl : factor = 1 := by cases hfactor; rfl
    rw [Numeral.ofNat?_eq_some_iff.mpr (Nat.mul_one n.toNat).symm]
    rfl
  · have hword : (UInt64.ofNat factor).toNat = factor :=
      UInt64.toNat_ofNat_of_lt hfactor.bounds.2
    have hunit : unit? name = some (UInt64.ofNat factor) :=
      unit?_eq_some_iff.mpr (hword.symm ▸ hfactor)
    rw [scale, hunit, Logged.outcome_bind, Logged.outcome_orFail]
    dsimp only
    rw [Logged.outcome_orFail, Numeral.times?, hword]
    rcases Numeral.ofNat? (n.toNat * factor) with _ | _ <;> rfl

theorem outcome_scale_of_unknown {name : String} (hname : ∀ factor, ¬Factor (some name) factor)
    (n : UInt64) : (scale attr text n (some name)).outcome = .error (.sizeUnit name text attr) := by
  have hunit : unit? name = none := by
    rw [Option.eq_none_iff_forall_ne_some]
    exact fun w hw => hname _ (unit?_eq_some_iff.mp hw)
  rw [scale, hunit]
  rfl

end Read

variable {attr text : String}

/-- **What is wrong first is what is reported.** -/
theorem outcome_read_of_rejects {f : Fault} (h : Rejects attr text f) :
    (read attr text).outcome = .error f := by
  cases h with
  | digit hparts hdigits hfound => exact outcome_read_of_not_digit hparts hdigits hfound
  | number hparts hdigits hlarge =>
    rw [outcome_read_of_digits hparts hdigits, Numeral.ofNat?_eq_none_iff.mpr hlarge]
  | unit hparts hdigits hsmall hname =>
    rw [outcome_read_of_digits hparts hdigits,
      Numeral.ofNat?_eq_some_iff.mpr (UInt64.toNat_ofNat_of_lt hsmall)]
    exact outcome_scale_of_unknown hname _
  | product hparts hdigits hsmall hfactor hlarge =>
    have hnumber := UInt64.toNat_ofNat_of_lt hsmall
    rw [outcome_read_of_digits hparts hdigits, Numeral.ofNat?_eq_some_iff.mpr hnumber]
    dsimp only
    rw [outcome_scale hfactor, hnumber, Numeral.ofNat?_eq_none_iff.mpr hlarge]

/-- **A text that stands for a word is read as the word.** -/
theorem outcome_read_of_denotes {w : UInt64} (h : Denotes text w.toNat) :
    (read attr text).outcome = .ok w := by
  generalize hn : w.toNat = n at h
  obtain ⟨hparts, hdigits, hfactor⟩ := h
  rename_i digits unit factor
  -- the factor is positive, so the number fits where the product does
  have hle : Nat.ofDigitChars 10 digits 0 ≤ w.toNat := by
    rw [hn]
    exact Nat.le_mul_of_pos_right _ hfactor.bounds.1
  have hsmall := Nat.lt_of_le_of_lt hle w.toNat_lt_size
  have hnumber := UInt64.toNat_ofNat_of_lt hsmall
  rw [outcome_read_of_digits hparts hdigits, Numeral.ofNat?_eq_some_iff.mpr hnumber]
  dsimp only
  rw [outcome_scale hfactor, hnumber, Numeral.ofNat?_eq_some_iff.mpr hn]

/-- Digits with a factor stand for a word, or one of two things is too large. -/
theorem denotes_or_rejects_of_factor (attr : String) {digits : List Char} {unit : Option String}
    {factor : Nat} (hparts : Parts text digits unit) (hdigits : ∀ c ∈ digits, c.isDigit = true)
    (hfactor : Factor unit factor) :
    (∃ w : UInt64, Denotes text w.toNat ∧ w.toNat = Nat.ofDigitChars 10 digits 0 * factor) ∨
      2 ^ 64 ≤ Nat.ofDigitChars 10 digits 0 * factor ∧
        Rejects attr text (.sizeRange text attr) := by
  rcases Nat.lt_or_ge (Nat.ofDigitChars 10 digits 0 * factor) (2 ^ 64) with hlt | hge
  · have hword : (UInt64.ofNat (Nat.ofDigitChars 10 digits 0 * factor)).toNat =
        Nat.ofDigitChars 10 digits 0 * factor := UInt64.toNat_ofNat_of_lt hlt
    refine Or.inl ⟨UInt64.ofNat _, ?_, hword⟩
    rw [hword]
    exact .of_parts hparts hdigits hfactor
  · refine Or.inr ⟨hge, ?_⟩
    rcases Nat.lt_or_ge (Nat.ofDigitChars 10 digits 0) (2 ^ 64) with hsmall | hlarge
    · exact .product hparts hdigits hsmall hfactor hge
    · exact .number hparts hdigits hlarge

/-- **Every text stands for a word, or something is wrong with it.** -/
theorem denotes_or_rejects (attr text : String) :
    (∃ w : UInt64, Denotes text w.toNat) ∨ ∃ f, Rejects attr text f := by
  obtain ⟨front, unit, hparts⟩ := exists_parts text
  rcases hdrop : front.dropWhile Char.isDigit with _ | ⟨found, more⟩
  · have hfront : front.takeWhile Char.isDigit = front := by
      have happend := List.takeWhile_append_dropWhile (p := Char.isDigit) (l := front)
      rwa [hdrop, List.append_nil] at happend
    have hdigits : ∀ c ∈ front, c.isDigit = true := fun c hc =>
      Text.of_mem_takeWhile (hfront.symm ▸ hc)
    by_cases hfactor : ∃ factor, Factor unit factor
    · obtain ⟨factor, hfactor⟩ := hfactor
      rcases denotes_or_rejects_of_factor attr hparts hdigits hfactor with
        ⟨w, hw, -⟩ | ⟨-, h⟩
      · exact Or.inl ⟨w, hw⟩
      · exact Or.inr ⟨_, h⟩
    · -- only a unit can be unknown, and a number that is too large goes before it
      refine Or.inr ?_
      rcases unit with _ | name
      · exact absurd ⟨1, .plain⟩ hfactor
      · rcases Nat.lt_or_ge (Nat.ofDigitChars 10 front 0) (2 ^ 64) with hsmall | hlarge
        · exact ⟨_, .unit hparts hdigits hsmall fun factor h => hfactor ⟨factor, h⟩⟩
        · exact ⟨_, .number hparts hdigits hlarge⟩
  · have hhead : found ∈ (front.dropWhile Char.isDigit).head? := by
      rw [hdrop]
      rfl
    rw [← List.takeWhile_append_dropWhile (p := Char.isDigit) (l := front), hdrop] at hparts
    exact Or.inr ⟨_, .digit hparts (fun c => Text.of_mem_takeWhile)
      (Text.of_head?_dropWhile hhead)⟩

/-! ### The reading is exact -/

/-- **The reading of byte counts is exact.** It gives a word if and only if the text stands for
that word; it reports a fault if and only if that is what is wrong with the text first, which is
a fault of content always, and names the attribute, the text, and the character or the unit that is
to blame; and a text that stands for a number that is no word is refused for its size, so that no
number is cut down or wrapped around. -/
theorem read_exact (attr text : String) :
    (∀ w : UInt64, (read attr text).outcome = .ok w ↔ Denotes text w.toNat) ∧
      (∀ f : Fault, (read attr text).outcome = .error f ↔ Rejects attr text f) ∧
      (∀ f : Fault, Rejects attr text f → f.kind = .invalidContent ∧ Repeats attr text f) ∧
      ∀ n : Nat, Denotes text n → 2 ^ 64 ≤ n →
        (read attr text).outcome = .error (.sizeRange text attr) := by
  refine ⟨fun w => ⟨fun h => ?_, outcome_read_of_denotes⟩,
    fun f => ⟨fun h => ?_, outcome_read_of_rejects⟩, fun f h => ⟨h.kind_eq, h.repeats⟩, ?_⟩
  · rcases denotes_or_rejects attr text with ⟨w', hw'⟩ | ⟨f, hf⟩
    · rw [outcome_read_of_denotes hw'] at h
      cases h
      exact hw'
    · rw [outcome_read_of_rejects hf] at h
      cases h
  · rcases denotes_or_rejects attr text with ⟨w, hw⟩ | ⟨f', hf'⟩
    · rw [outcome_read_of_denotes hw] at h
      cases h
    · rw [outcome_read_of_rejects hf'] at h
      cases h
      exact hf'
  · rintro n ⟨hparts, hdigits, hfactor⟩ hlarge
    rcases denotes_or_rejects_of_factor attr hparts hdigits hfactor with
      ⟨w, -, hw⟩ | ⟨-, h⟩
    · have hlt := w.toNat_lt_size
      rw [hw] at hlt
      exact absurd hlt (Nat.not_lt.mpr hlarge)
    · exact outcome_read_of_rejects h

/-- Zeros in front and letter case do not matter, and neither does it that there are no digits. A
number that fits is refused when its product does not, a number that does not fit is refused
before its unit is looked at, and a letter before either. -/
theorem read_exact_tebibytes :
    Denotes "20000000 TiB" (20000000 * 2 ^ 40) ∧ 2 ^ 64 ≤ 20000000 * 2 ^ 40 ∧
      (read "size" "20000000 TiB").outcome = .error (.sizeRange "20000000 TiB" "size") ∧
      Denotes "007 kIb" 7168 ∧ Denotes " kb" 0 ∧
      Rejects "size" "99999999999999999999 zb" (.sizeRange "99999999999999999999 zb" "size") ∧
      Rejects "size" "99999999999999999999x zb"
        (.sizeDigit 'x' "99999999999999999999x zb" "size") ∧
      Rejects "size" "1  kb" (.sizeUnit " kb" "1  kb" "size") ∧
      (Fault.sizeUnit " kb" "1  kb" "size").kind = .invalidContent ∧
      (Fault.sizeUnit " kb" "1  kb" "size").Names " kb" := by
  have hparts : Parts "20000000 TiB" "20000000".toList (some "TiB") := ⟨rfl, by decide⟩
  have hdenotes : Denotes "20000000 TiB" (20000000 * 2 ^ 40) :=
    .of_parts hparts (List.all_eq_true.mp rfl) (.unit (by decide))
  have hunit : Rejects "size" "1  kb" (.sizeUnit " kb" "1  kb" "size") :=
    ((read_exact "size" "1  kb").2.1 _).mp rfl
  obtain ⟨hkind, hrepeats⟩ := (read_exact "size" "1  kb").2.2.1 _ hunit
  exact ⟨hdenotes, by decide, (read_exact "size" "20000000 TiB").2.2.2 _ hdenotes (by decide),
    ((read_exact "size" "007 kIb").1 7168).mp rfl, ((read_exact "size" " kb").1 0).mp rfl,
    ((read_exact "size" "99999999999999999999 zb").2.1 _).mp rfl,
    ((read_exact "size" "99999999999999999999x zb").2.1 _).mp rfl, hunit, hkind,
    hrepeats.names_unit " kb" rfl⟩

end Size

end TrafficGraph
