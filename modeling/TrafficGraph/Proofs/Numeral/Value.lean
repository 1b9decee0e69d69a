import TrafficGraph.Numeral
import TrafficGraph.Proofs.Text.Run

/-!
# The value of a run of digits

A word is read digit by digit, and every digit is checked for room. This module says
that the checks amount to one: the reading gives the value of the whole run
(`Nat.ofDigitChars 10`) if that is a word, and nothing otherwise, however many digits
there are and wherever it stops being one. What makes it so is that one more digit
never makes a number smaller.

Numbers that are written by the program itself – without blanks, sign or surplus
zeros – are therefore read back as they are (`TrafficGraph.Numeral.lenient_repr`).
-/

namespace TrafficGraph

namespace Numeral

/-- Reading on never makes a number smaller. -/
theorem le_ofDigitChars (n : Nat) (cs : List Char) : n ≤ Nat.ofDigitChars 10 cs n := by
  induction cs generalizing n with
  | nil => exact Nat.le_of_eq Nat.ofDigitChars_nil.symm
  | cons c cs ih =>
    rw [Nat.ofDigitChars_cons]
    exact Nat.le_trans (by omega) (ih (10 * n + (c.toNat - '0'.toNat)))

/-- The reading of digits into a word that holds a number already. -/
theorem foldlM_push?_eq (w : UInt64) (cs : List Char) :
    cs.foldlM push? w = ofNat? (Nat.ofDigitChars 10 cs w.toNat) := by
  induction cs generalizing w with
  | nil =>
    rw [Nat.ofDigitChars_nil]
    exact (ofNat?_eq_some_iff.mpr rfl).symm
  | cons c cs ih =>
    rw [List.foldlM_cons, Nat.ofDigitChars_cons, push?]
    rcases hn : ofNat? (10 * w.toNat + (c.toNat - '0'.toNat)) with _ | w'
    · -- no room for this digit, and hence none for the whole run
      have hle := ofNat?_eq_none_iff.mp hn
      exact (ofNat?_eq_none_iff.mpr (Nat.le_trans hle (le_ofDigitChars _ cs))).symm
    · rw [← ofNat?_eq_some_iff.mp hn]
      exact ih w'

/-- **The digits are read as their value**, if that is a word. -/
theorem word?_eq (digits : List Char) :
    word? digits = ofNat? (Nat.ofDigitChars 10 digits 0) :=
  foldlM_push?_eq 0 digits

/-- The digits of a number are read as the number. -/
theorem word?_toDigits (n : Nat) : word? (Nat.toDigits 10 n) = ofNat? n := by
  rw [word?_eq, Nat.ofDigitChars_ten_toDigits]

/-! ### Numbers as they are written -/

theorem isDigit_toDigits (n : Nat) : ∀ c ∈ Nat.toDigits 10 n, c.isDigit = true :=
  fun _ hc => Nat.isDigit_of_mem_toDigits (by decide) (by decide) hc

/-- A number is written with a digit in front. -/
theorem exists_toDigits_cons (n : Nat) :
    ∃ d ds, Nat.toDigits 10 n = d :: ds ∧ d.isDigit = true := by
  rcases hds : Nat.toDigits 10 n with _ | ⟨d, ds⟩
  · exact absurd hds Nat.toDigits_ne_nil
  · exact ⟨d, ds, rfl, isDigit_toDigits n d (hds ▸ List.mem_cons_self)⟩

/-- A digit is the digit of its value. -/
theorem digitChar_of_isDigit {c : Char} (hc : c.isDigit = true) :
    c.toNat - '0'.toNat < 10 ∧ (c.toNat - '0'.toNat).digitChar = c := by
  have hzero : '0'.toNat = 48 := rfl
  simp only [Char.isDigit, ge_iff_le, Bool.and_eq_true, decide_eq_true_eq,
    UInt32.le_iff_toNat_le] at hc
  have hle : 48 ≤ c.toNat ∧ c.toNat ≤ 57 := hc
  have hlt : c.toNat - '0'.toNat < 10 := by omega
  refine ⟨hlt, Char.toNat_inj.mp ?_⟩
  rw [Nat.toNat_digitChar_of_lt_ten hlt]
  omega

/-- **Digits behind a number are written behind it.** Without a number in front, or behind a zero,
this is wrong of zeros. -/
theorem toDigits_ofDigitChars {n : Nat} (hn : 0 < n) {cs : List Char}
    (hcs : ∀ c ∈ cs, c.isDigit = true) :
    Nat.toDigits 10 (Nat.ofDigitChars 10 cs n) = Nat.toDigits 10 n ++ cs := by
  induction cs generalizing n with
  | nil => rw [Nat.ofDigitChars_nil, List.append_nil]
  | cons c cs ih =>
    obtain ⟨hc, hdigits⟩ := List.forall_mem_cons.mp hcs
    obtain ⟨hlt, hchar⟩ := digitChar_of_isDigit hc
    have hone : Nat.toDigits 10 (c.toNat - '0'.toNat) = [c] := by
      rw [Nat.toDigits_of_lt_base hlt, hchar]
    rw [Nat.ofDigitChars_cons, ih (by omega) hdigits,
      ← Nat.toDigits_append_toDigits (by decide) hn hlt, hone, List.append_assoc]
    rfl

/-- Digits hold nothing else. -/
theorem find?_not_isDigit_eq_none {cs : List Char} (hcs : ∀ c ∈ cs, c.isDigit = true) :
    (cs.find? fun c => !c.isDigit) = none := by
  rw [List.find?_eq_none]
  intro c hc
  rw [hcs c hc]
  exact Bool.false_ne_true

/-- A digit is neither blank nor a sign. -/
theorem not_blank_of_isDigit {c : Char} (hc : c.isDigit = true) :
    Text.isBlank c = false ∧ c ≠ '-' ∧ c ≠ '+' := by
  refine ⟨?_, ?_, ?_⟩
  · rw [Bool.eq_false_iff]
    intro hb
    simp only [Text.isBlank, Bool.or_eq_true, beq_iff_eq] at hb
    rcases hb with (((hb | hb) | hb) | hb) | hb <;> subst hb <;> cases hc
  · rintro rfl
    cases hc
  · rintro rfl
    cases hc

/-- **Digits alone are read from the first to the last**: nothing is skipped, and
there is no sign. -/
theorem lenient_ofList {cs : List Char} (hcs : ∀ c ∈ cs, c.isDigit = true) :
    lenient (String.ofList cs) = (word? cs).getD top := by
  have htake : cs.takeWhile Char.isDigit = cs := by
    have h : (cs ++ []).takeWhile Char.isDigit = cs := Text.takeWhile_append_of_stop hcs nofun
    rwa [List.append_nil] at h
  have hdrop : cs.dropWhile Text.isBlank = cs ∧ unsign cs = (false, cs) := by
    cases cs with
    | nil => exact ⟨rfl, rfl⟩
    | cons c cs =>
      obtain ⟨hb, hminus, hplus⟩ := not_blank_of_isDigit (hcs c List.mem_cons_self)
      refine ⟨List.dropWhile_cons_of_neg (by rw [hb]; exact Bool.false_ne_true), ?_⟩
      rw [unsign]
      · exact fun _ h => hminus (List.cons.inj h).1
      · exact fun _ h => hplus (List.cons.inj h).1
  rw [lenient, String.toList_ofList, hdrop.1, hdrop.2]
  dsimp only
  rw [htake]
  cases word? cs <;> rfl

/-- **A number is read back from its written form.** -/
theorem lenient_repr {n : Nat} (hn : n < UInt64.size) : (lenient n.repr).toNat = n := by
  rw [Nat.repr_eq_ofList_toDigits, lenient_ofList (isDigit_toDigits n), word?_toDigits]
  rcases hw : ofNat? n with _ | w
  · exact absurd (ofNat?_eq_none_iff.mp hw) (by omega)
  · exact ofNat?_eq_some_iff.mp hw

theorem lenient_repr_toNat (w : UInt64) : lenient w.toNat.repr = w :=
  UInt64.toNat_inj.mp (lenient_repr w.toNat_lt_size)

/-- A port is read back from its written form. -/
theorem port?_lenient_repr (port : UInt16) : port? (lenient port.toNat.repr) = some port := by
  have hlt := port.toNat_lt_size
  have hsize : UInt16.size < UInt64.size := by decide
  have hval : (lenient port.toNat.repr).toNat = port.toNat :=
    lenient_repr (Nat.lt_trans hlt hsize)
  rw [port?, hval, if_pos hlt]
  refine congrArg some (UInt16.toNat_inj.mp ?_)
  rw [UInt64.toNat_toUInt16, hval]
  exact Nat.mod_eq_of_lt hlt

/-- No number is written as the empty text. -/
theorem repr_ne_empty (n : Nat) : n.repr ≠ "" := by
  intro h
  have hlist : Nat.toDigits 10 n = [] := by
    rw [← Nat.toList_repr, h]
    rfl
  exact Nat.toDigits_ne_nil hlist

end Numeral

end TrafficGraph
