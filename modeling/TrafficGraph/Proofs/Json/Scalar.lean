import TrafficGraph.Json.Text
import TrafficGraph.Proofs.Numeral.Value
import TrafficGraph.Proofs.Text.Run

/-!
# Where numbers and strings end

In a longer text nothing separates a value from what follows, so its own text has to show
where it ends. A string does so by its closing quotation mark, which no character inside it
is written with; a number does so only if no digit follows
(`TrafficGraph.Json.EndsNumber`). This module draws the conclusion for the two: if the texts
of two of them begin one longer text, the two are equal, and so is what follows.

Neither depends on the layout, for both layouts write numbers and strings alike.

* `TrafficGraph.Json.integer_append_inj` – integers, in front of something that ends them;
* `TrafficGraph.Json.quoted_append_inj` – strings, in front of anything.
-/

namespace TrafficGraph

namespace Json

/-! ### Numbers -/

/-- The text ends a number in front of it: it does not go on with a digit. -/
def EndsNumber (rest : List Char) : Prop := ∀ c ∈ rest.head?, c.isDigit = false

theorem EndsNumber.nil : EndsNumber [] := nofun

theorem EndsNumber.cons {c : Char} (hc : c.isDigit = false) (rest : List Char) :
    EndsNumber (c :: rest) := by
  intro d hd
  cases hd
  exact hc

/-- **A natural number is the run of digits in front.** -/
theorem toDigits_append_inj {m n : Nat} {rest rest' : List Char} (hrest : EndsNumber rest)
    (hrest' : EndsNumber rest') (h : Nat.toDigits 10 m ++ rest = Nat.toDigits 10 n ++ rest') :
    m = n ∧ rest = rest' := by
  have hdigits : Nat.toDigits 10 m = Nat.toDigits 10 n := by
    rw [← Text.takeWhile_append_of_stop (Numeral.isDigit_toDigits m) hrest, h,
      Text.takeWhile_append_of_stop (Numeral.isDigit_toDigits n) hrest']
  refine ⟨?_, List.append_cancel_left (hdigits ▸ h)⟩
  rw [← Nat.ofDigitChars_ten_toDigits (n := m), hdigits, Nat.ofDigitChars_ten_toDigits]

/-- The text of an integer begins with a sign or with a digit, and a sign is no digit. -/
theorem exists_scalar_integer (n : Int) :
    ∃ c cs, scalar (integer n) = c :: cs ∧ (c = '-' ∨ c.isDigit = true) := by
  rw [scalar]
  split
  · exact ⟨'-', _, rfl, Or.inl rfl⟩
  · obtain ⟨d, ds, hds, hd⟩ := Numeral.exists_toDigits_cons n.natAbs
    exact ⟨d, ds, hds, Or.inr hd⟩

/-- Digits do not begin with a sign. -/
theorem toDigits_append_ne_minus (n : Nat) (rest cs : List Char) :
    Nat.toDigits 10 n ++ rest ≠ '-' :: cs := by
  intro h
  obtain ⟨d, ds, hds, hd⟩ := Numeral.exists_toDigits_cons n
  rw [hds, List.cons_append] at h
  rw [(List.cons.inj h).1] at hd
  cases hd

/-- **An integer is read off the front of a text**, if no digit follows it. -/
theorem integer_append_inj {m n : Int} {rest rest' : List Char} (hrest : EndsNumber rest)
    (hrest' : EndsNumber rest') (h : scalar (integer m) ++ rest = scalar (integer n) ++ rest') :
    m = n ∧ rest = rest' := by
  rw [scalar, scalar] at h
  split at h <;> split at h
  · obtain ⟨habs, hr⟩ := toDigits_append_inj hrest hrest' (List.cons.inj h).2
    exact ⟨by omega, hr⟩
  · exact absurd h.symm (toDigits_append_ne_minus _ _ _)
  · exact absurd h (toDigits_append_ne_minus _ _ _)
  · obtain ⟨habs, hr⟩ := toDigits_append_inj hrest hrest' h
    exact ⟨by omega, hr⟩

/-! ### Strings -/

/-- The value of a hexadecimal digit. -/
def hexValue (c : Char) : Nat := if c.isDigit then c.toNat - '0'.toNat else c.toNat - 'a'.toNat + 10

/-- The character that a letter after a backslash stands for; quotation marks and
backslashes stand for themselves. -/
def unletter (c : Char) : Char :=
  if c = 'b' then '\x08'
  else if c = 'f' then '\x0c'
  else if c = 'n' then '\n'
  else if c = 'r' then '\r'
  else if c = 't' then '\t'
  else c

/-- **The first character inside a string**, and what follows it; there is none when the
string ends. -/
def unescape? : List Char → Option (Char × List Char)
  | [] => none
  | '"' :: _ => none
  | '\\' :: 'u' :: _ :: _ :: a :: b :: rest =>
    some (Char.ofNat (16 * hexValue a + hexValue b), rest)
  | '\\' :: c :: rest => some (unletter c, rest)
  | c :: rest => some (c, rest)

theorem hexValue_digitChar : ∀ n < 32,
    16 * hexValue (Nat.digitChar (n / 16)) + hexValue (Nat.digitChar (n % 16)) = n := by
  decide

/-- **Escaping is undone by reading**, whatever follows. -/
theorem unescape?_escape_append (c : Char) (rest : List Char) :
    unescape? (escape c ++ rest) = some (c, rest) := by
  rw [escape]
  -- the quotation mark, the backslash and five control characters have a letter of their own
  iterate 7
    split
    · subst c
      rfl
  split
  · rename_i hlt
    change some (Char.ofNat _, rest) = _
    rw [hexValue_digitChar c.toNat hlt, Char.ofNat_toNat]
  · rename_i hquote hslash _ _ _ _ _ _
    rw [List.singleton_append, unescape?]
    · exact hquote
    · exact fun _ _ _ _ _ h => absurd h hslash
    · exact fun _ _ h => absurd h hslash

theorem flatMap_escape_append_inj {cs ds rest rest' : List Char}
    (h : cs.flatMap escape ++ '"' :: rest = ds.flatMap escape ++ '"' :: rest') :
    cs = ds ∧ rest = rest' := by
  induction cs generalizing ds with
  | nil =>
    cases ds with
    | nil => exact ⟨rfl, (List.cons.inj h).2⟩
    | cons d ds =>
      rw [List.flatMap_cons, List.append_assoc] at h
      have hread := unescape?_escape_append d (ds.flatMap escape ++ '"' :: rest')
      rw [← h] at hread
      cases hread
  | cons c cs ih =>
    have hread := unescape?_escape_append c (cs.flatMap escape ++ '"' :: rest)
    rw [← List.append_assoc, ← List.flatMap_cons, h] at hread
    cases ds with
    | nil => cases hread
    | cons d ds =>
      rw [List.flatMap_cons, List.append_assoc, unescape?_escape_append] at hread
      obtain ⟨rfl, hrest⟩ := Prod.mk.inj (Option.some.inj hread)
      obtain ⟨rfl, hr⟩ := ih hrest.symm
      exact ⟨rfl, hr⟩

/-- **A string is read off the front of a text**, whatever follows it. -/
theorem quoted_append_inj {s t : String} {rest rest' : List Char}
    (h : quoted s ++ rest = quoted t ++ rest') : s = t ∧ rest = rest' := by
  rw [quoted, quoted, List.cons_append, List.cons_append, List.append_assoc, List.append_assoc] at h
  obtain ⟨hchars, hr⟩ := flatMap_escape_append_inj (List.cons.inj h).2
  exact ⟨String.toList_inj.mp hchars, hr⟩

end Json

end TrafficGraph
