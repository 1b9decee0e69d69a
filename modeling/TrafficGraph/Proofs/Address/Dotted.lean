import TrafficGraph.Proofs.Numeral.Value
import TrafficGraph.Proofs.Reading.Peers
import TrafficGraph.Proofs.Text.Join
import TrafficGraph.Proofs.Text.LetterCase

/-!
# The dotted form of an address is read back

An address is written as four decimal numbers with dots between them, and the reading
of addresses accepts exactly such texts. What is written is read as the address it was
written for (`TrafficGraph.Address.ofText?_text`), and nothing else is read: a numeral
without a zero in front is the written form of its value, so a text that is read as an
address is the dotted form of that address (`TrafficGraph.Address.ofText?_eq_some_iff`).

The text of an address also has to survive what stands in front of that reading. It
holds only digits and dots, so it is not cut at a colon or a comma and is no beginning
of a word; and since no octet is written with a zero in front, only `0.0.0.0` itself
begins like the reserved address.
-/

namespace TrafficGraph

/-- What can be read back is told apart by its text. -/
theorem Text.written_inj {α : Type} {read : String → Option α} {write : α → String}
    (h : ∀ a, read (write a) = some a) {a b : α} : write a = write b ↔ a = b := by
  refine ⟨fun he => ?_, congrArg write⟩
  rw [← Option.some_inj, ← h a, he, h b]

namespace Address

/-! ### Octets -/

/-- A number above zero is written without a zero in front. -/
theorem exists_toDigits_eq_cons (n : Nat) (hn : 0 < n) :
    ∃ c cs, Nat.toDigits 10 n = c :: cs ∧ c ≠ '0' := by
  induction n using Nat.strongRecOn with
  | ind n ih =>
    rcases Nat.lt_or_ge n 10 with hlt | hge
    · refine ⟨n.digitChar, [], Nat.toDigits_of_lt_base hlt, ?_⟩
      rw [ne_eq, Nat.digitChar_eq_zero]
      omega
    · obtain ⟨c, cs, hc, hne⟩ := ih (n / 10) (by omega) (by omega)
      refine ⟨c, cs ++ [(n % 10).digitChar], ?_, hne⟩
      rw [Nat.toDigits_of_base_le (by decide) hge, hc]
      rfl

/-- **The digits of a number are a numeral.** -/
theorem isNumeral_toDigits (n : Nat) : isNumeral (Nat.toDigits 10 n) = true := by
  rcases Nat.eq_zero_or_pos n with rfl | hn
  · rfl
  · obtain ⟨c, cs, hc, hne⟩ := exists_toDigits_eq_cons n hn
    have hdigits := Numeral.isDigit_toDigits n
    rw [hc] at hdigits ⊢
    rw [isNumeral, Bool.and_eq_true, Bool.and_eq_true, bne_iff_ne, List.all_eq_true]
    · exact ⟨⟨hne, hdigits c List.mem_cons_self⟩, fun d hd => hdigits d (List.mem_cons_of_mem c hd)⟩
    · rintro rfl rfl
      exact hne rfl

/-- **An octet is read back from its digits.** -/
theorem octet?_toDigits (x : UInt8) : octet? (Nat.toDigits 10 x.toNat) = some x := by
  have hlt := x.toNat_lt
  have hlen : (Nat.toDigits 10 x.toNat).length ≤ 3 :=
    (Nat.length_toDigits_le_iff (by decide) (by decide)).mpr (by omega)
  rw [octet?, isNumeral_toDigits, Nat.ofDigitChars_ten_toDigits]
  simp only [hlen, decide_true, Bool.and_self, if_true]
  rw [if_pos hlt, UInt8.ofNat_toNat]

/-- **A numeral is the digits of its value.** -/
theorem toDigits_ofDigitChars_of_isNumeral {cs : List Char} (h : isNumeral cs = true) :
    Nat.toDigits 10 (Nat.ofDigitChars 10 cs 0) = cs := by
  by_cases hzero : cs = ['0']
  · rw [hzero]
    rfl
  rcases cs with _ | ⟨c, cs⟩
  · cases h
  rw [isNumeral, Bool.and_eq_true, Bool.and_eq_true, bne_iff_ne, List.all_eq_true] at h
  · obtain ⟨⟨hne, hc⟩, hcs⟩ := h
    obtain ⟨hlt, hchar⟩ := Numeral.digitChar_of_isDigit hc
    have hpos : 0 < c.toNat - '0'.toNat := by
      refine Nat.pos_of_ne_zero fun he => hne ?_
      rw [← hchar, he]
      rfl
    rw [Nat.ofDigitChars_cons, Nat.mul_zero, Nat.zero_add,
      Numeral.toDigits_ofDigitChars hpos hcs, Nat.toDigits_of_lt_base hlt, hchar]
    rfl
  · rintro rfl rfl
    exact hzero rfl

/-- **An octet is read from its digits only.** -/
theorem octet?_eq_some_iff {cs : List Char} {x : UInt8} :
    octet? cs = some x ↔ cs = Nat.toDigits 10 x.toNat := by
  refine ⟨fun h => ?_, fun h => h ▸ octet?_toDigits x⟩
  rw [octet?] at h
  split at h
  · rename_i hform
    dsimp only at h
    split at h
    · rename_i hlt
      obtain rfl := Option.some.inj h
      rw [UInt8.toNat_ofNat_of_lt' hlt]
      exact (toDigits_ofDigitChars_of_isNumeral (Bool.and_eq_true_iff.mp hform).1).symm
    · cases h
  · cases h

/-! ### Addresses -/

theorem toList_text (x : Address) :
    x.text.toList =
      Nat.toDigits 10 x.a.toNat ++ '.' :: (Nat.toDigits 10 x.b.toNat ++ '.' ::
        (Nat.toDigits 10 x.c.toNat ++ '.' :: Nat.toDigits 10 x.d.toNat)) := by
  simp [text, String.toList_append, Nat.toList_repr]

theorem not_mem_toDigits_of_not_isDigit {c : Char} (hc : c.isDigit = false) (n : Nat) :
    c ∉ Nat.toDigits 10 n := by
  intro h
  rw [Numeral.isDigit_toDigits n c h] at hc
  cases hc

/-- The text of an address holds only digits and dots. -/
theorem isDigit_or_eq_of_mem_text {x : Address} {c : Char} (hc : c ∈ x.text.toList) :
    c.isDigit = true ∨ c = '.' := by
  rw [toList_text] at hc
  simp only [List.mem_append, List.mem_cons] at hc
  rcases hc with h | h | h | h | h | h | h
  · exact Or.inl (Numeral.isDigit_toDigits _ c h)
  · exact Or.inr h
  · exact Or.inl (Numeral.isDigit_toDigits _ c h)
  · exact Or.inr h
  · exact Or.inl (Numeral.isDigit_toDigits _ c h)
  · exact Or.inr h
  · exact Or.inl (Numeral.isDigit_toDigits _ c h)

/-- **An address is read back from its dotted form.** -/
theorem ofText?_text (x : Address) : ofText? x.text = some x := by
  have hdot : ∀ n, '.' ∉ Nat.toDigits 10 n := not_mem_toDigits_of_not_isDigit rfl
  rw [ofText?, toList_text]
  simp only [Text.fieldsList_append, Text.fieldsList_of_not_mem (hdot _), List.cons_append,
    List.nil_append, octet?_toDigits]
  rfl

theorem text_inj {x y : Address} : x.text = y.text ↔ x = y := Text.written_inj ofText?_text

/-- **An address is read from its dotted form only.** -/
theorem ofText?_eq_some_iff {s : String} {x : Address} : ofText? s = some x ↔ s = x.text := by
  refine ⟨fun h => ?_, fun h => h ▸ ofText?_text x⟩
  have hjoin : ['.'].intercalate (Text.fieldsList '.' s.toList) = s.toList := by
    rw [Text.fieldsList_eq_splitOn, List.intercalate_splitOn]
  rw [ofText?] at h
  split at h
  · rename_i fa fb fc fd hfields
    simp only [Option.bind_eq_bind, Option.bind_eq_some_iff, octet?_eq_some_iff] at h
    obtain ⟨a, ha, b, hb, c, hc, d, hd, hx⟩ := h
    cases hx
    rw [← String.toList_inj, toList_text, ← hjoin, hfields, ha, hb, hc, hd]
    simp [List.intercalate]
  · cases h

/-! ### Beginnings and letters -/

/-- The text of an address has no letters. -/
theorem not_isAlpha_of_mem_text {x : Address} {c : Char} (hc : c ∈ x.text.toList) :
    c.isAlpha = false := by
  rcases isDigit_or_eq_of_mem_text hc with h | rfl
  · exact Text.not_isAlpha_of_isDigit h
  · rfl

theorem lower_eq_text_iff {s : String} {x : Address} : Text.lower s = x.text ↔ s = x.text :=
  Text.lower_eq_iff fun _ hc => not_isAlpha_of_mem_text hc

theorem lower_text (x : Address) : Text.lower x.text = x.text := lower_eq_text_iff.mpr rfl

/-- No text of an address begins with a word. -/
theorem beginsLike_localhost_text (x : Address) :
    Text.beginsLike "localhost" x.text = false := by
  rw [Bool.eq_false_iff]
  intro h
  rw [Text.beginsLike_iff_take] at h
  -- the first letter of the word would be the lower case of a digit or a dot
  have hl : 'l' ∈ (x.text.toList.take 9).map Char.toLower := by
    change 'l' ∈ (x.text.toList.take "localhost".toList.length).map Char.toLower
    rw [h]
    decide
  obtain ⟨c, hc, hlower⟩ := List.mem_map.mp hl
  have halpha := not_isAlpha_of_mem_text (List.mem_of_mem_take hc)
  rw [Text.toLower_eq_self halpha] at hlower
  subst hlower
  cases halpha

/-- A number whose text goes on after a zero in front is zero. -/
theorem eq_zero_of_leading_zero {n : Nat} {l rest : List Char}
    (h : '0' :: l <+: Nat.toDigits 10 n ++ rest) : n = 0 ∧ l <+: rest := by
  rcases Nat.eq_zero_or_pos n with rfl | hn
  · exact ⟨rfl, (List.cons_prefix_cons.mp h).2⟩
  · obtain ⟨c, cs, hc, hne⟩ := exists_toDigits_eq_cons n hn
    rw [hc, List.cons_append, List.cons_prefix_cons] at h
    exact absurd h.1.symm hne

/-- **Only the reserved address begins like it**: octets have no zeros in front. -/
theorem eq_any_of_beginsWith {x : Address} (h : Text.beginsWith "0.0.0.0" x.text = true) :
    x = any := by
  rw [Text.beginsWith, List.isPrefixOf_iff_prefix, toList_text] at h
  change '0' :: '.' :: '0' :: '.' :: '0' :: '.' :: '0' :: [] <+: _ at h
  -- octet by octet, the dot that follows the zero ends the number
  obtain ⟨ha, h⟩ := eq_zero_of_leading_zero h
  obtain ⟨hb, h⟩ := eq_zero_of_leading_zero (List.cons_prefix_cons.mp h).2
  obtain ⟨hc, h⟩ := eq_zero_of_leading_zero (List.cons_prefix_cons.mp h).2
  have hd := (List.cons_prefix_cons.mp h).2
  rw [← List.append_nil (Nat.toDigits 10 x.d.toNat)] at hd
  obtain ⟨a, b, c, d⟩ := x
  rw [any, Address.mk.injEq]
  exact ⟨UInt8.toNat_inj.mp ha, UInt8.toNat_inj.mp hb, UInt8.toNat_inj.mp hc,
    UInt8.toNat_inj.mp (eq_zero_of_leading_zero hd).1⟩

end Address

/-! ### Resolvers that know dotted addresses -/

namespace Resolver

/-- **The resolver knows dotted addresses**: it answers the text of an address with
that address. -/
def ReadsDotted (r : Resolver) : Prop := ∀ x : Address, r.lookup x.text = some x

theorem readsDotted_system (ownName : Option String) (network : String → Option Address) :
    (system ownName network).ReadsDotted := by
  intro x
  simp only [system, Address.ofText?_text, Option.some_or]

/-- **The text of an address is located at that address**, past the two beginnings
that are answered without a look-up. -/
theorem addressOf_text {r : Resolver} (hr : r.ReadsDotted) (x : Address) :
    r.addressOf x.text = x := by
  rw [addressOf, Address.beginsLike_localhost_text, if_neg Bool.false_ne_true]
  split
  · exact (Address.eq_any_of_beginsWith ‹_›).symm
  · rw [hr x, Option.getD_some]

/-- The text of an address is this host's name only letter for letter. -/
theorem isOwn_text {r : Resolver} {x : Address} (h : r.ownName ≠ some x.text) :
    r.isOwn x.text = false := by
  rw [Bool.eq_false_iff]
  intro hown
  rw [isOwn] at hown
  split at hown
  · rename_i name hname
    rw [Text.alike_iff, Address.lower_text, Address.lower_eq_text_iff] at hown
    rw [hname, hown] at h
    exact h rfl
  · cases hown

end Resolver

theorem HostTable.readsDotted_resolver (t : HostTable) : t.resolver.ReadsDotted := by
  intro x
  simp only [HostTable.resolver, Address.ofText?_text, Option.some_or]

end TrafficGraph
