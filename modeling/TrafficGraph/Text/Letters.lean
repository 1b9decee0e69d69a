/-!
# Texts up to letter case

The fixed words of a traffic graph – kinds of node, directions, protocols, size
units, `localhost`, the names of hosts – are ASCII words, and a text is compared
with them without regard to the case of its ASCII letters. Letters outside ASCII
are compared as they stand.

* `TrafficGraph.Text.lower` is the lower-case form of a text, letter by letter;
* `TrafficGraph.Text.alike` compares two texts by their lower-case forms;
* `TrafficGraph.Text.beginsLike` asks for a word at the front of a text. It cuts off as many bytes
  as the word has (`TrafficGraph.Text.front?`), and there is nothing to compare if this would cut a
  character in two.
-/

namespace TrafficGraph

namespace Text

/-- The text with its ASCII letters in lower case; every other character is kept. -/
def lower (s : String) : String := String.ofList (s.toList.map Char.toLower)

@[simp] theorem toList_lower (s : String) : (lower s).toList = s.toList.map Char.toLower := by
  simp [lower]

/-- **Equality up to case**: the two texts differ at most in the case of ASCII letters. -/
def alike (s t : String) : Bool := lower s == lower t

@[simp] theorem alike_iff {s t : String} : alike s t = true ↔ lower s = lower t := by
  simp [alike]

/-! ### Beginnings -/

/-- The characters that take up the first `n` bytes, if no character is cut in two. -/
def frontList? : Nat → List Char → Option (List Char)
  | 0, _ => some []
  | _ + 1, [] => none
  | n + 1, c :: cs =>
    if c.utf8Size ≤ n + 1 then (frontList? (n + 1 - c.utf8Size) cs).map (c :: ·) else none

/-- **The first `n` bytes of a text** in UTF-8, as a text: there is none if the text has fewer
bytes, nor if the last of them would end inside a character. -/
def front? (n : Nat) (s : String) : Option String := (frontList? n s.toList).map String.ofList

/-- The text begins with a word, up to the case of ASCII letters: as many bytes as the word has
can be cut off, and are alike. -/
def beginsLike (word s : String) : Bool := (front? word.utf8ByteSize s).any (alike word)

/-- The text begins with a word, letter for letter. -/
def beginsWith (word s : String) : Bool := word.toList.isPrefixOf s.toList

theorem utf8ByteSize_ofList_cons (c : Char) (cs : List Char) :
    (String.ofList (c :: cs)).utf8ByteSize = c.utf8Size + (String.ofList cs).utf8ByteSize := by
  rw [String.ofList_cons, String.utf8ByteSize_append, String.utf8ByteSize_singleton]

theorem frontList?_eq_some_iff {n : Nat} {cs l : List Char} :
    frontList? n cs = some l ↔ l <+: cs ∧ (String.ofList l).utf8ByteSize = n := by
  induction cs generalizing n l with
  | nil =>
    rw [List.prefix_nil]
    cases n with
    | zero => cases l <;> simp [frontList?]
    | succ n => cases l <;> simp [frontList?]
  | cons c cs ih =>
    cases n with
    | zero =>
      rcases l with _ | ⟨d, l⟩
      · simp [frontList?]
      · have hpos := d.utf8Size_pos
        rw [frontList?, utf8ByteSize_ofList_cons]
        simp only [Option.some.injEq, reduceCtorEq, false_iff, not_and]
        omega
    | succ n =>
      rw [frontList?]
      rcases l with _ | ⟨d, l⟩
      · simp
      · rw [List.cons_prefix_cons, utf8ByteSize_ofList_cons]
        split
        · rw [Option.map_eq_some_iff]
          simp only [List.cons.injEq, ih]
          constructor
          · rintro ⟨l, ⟨hl, hsize⟩, rfl, rfl⟩
            exact ⟨⟨rfl, hl⟩, by omega⟩
          · rintro ⟨⟨rfl, hl⟩, hsize⟩
            exact ⟨l, ⟨hl, by omega⟩, rfl, rfl⟩
        · -- the character does not fit, so nothing that begins with it does
          simp only [reduceCtorEq, false_iff, not_and, and_imp]
          rintro rfl -
          omega

/-- **What is cut off is a first part** of the text, of the size that is asked for. -/
theorem front?_eq_some_iff {n : Nat} {s front : String} :
    front? n s = some front ↔ (∃ back, s = front ++ back) ∧ front.utf8ByteSize = n := by
  rw [front?, Option.map_eq_some_iff]
  simp only [frontList?_eq_some_iff]
  constructor
  · rintro ⟨l, ⟨⟨r, hr⟩, hsize⟩, rfl⟩
    refine ⟨⟨String.ofList r, ?_⟩, hsize⟩
    rw [← String.ofList_append, hr, String.ofList_toList]
  · rintro ⟨⟨back, rfl⟩, hsize⟩
    refine ⟨front.toList, ⟨?_, ?_⟩, String.ofList_toList⟩
    · rw [String.toList_append]
      exact List.prefix_append _ _
    · rw [String.ofList_toList, hsize]

/-- The lower case of a letter is at a fixed distance from it. -/
theorem val_toLower {c : Char} (h : c.val ≥ 'A'.val ∧ c.val ≤ 'Z'.val) :
    c.toLower.val = c.val + ('a'.val - 'A'.val) := congrArg Char.val (dif_pos h)

theorem toLower_of_not_upper {c : Char} (h : ¬(c.val ≥ 'A'.val ∧ c.val ≤ 'Z'.val)) :
    c.toLower = c := dif_neg h

/-- A character in lower case stays as it is. -/
theorem toLower_toLower (c : Char) : c.toLower.toLower = c.toLower := by
  by_cases h : c.val ≥ 'A'.val ∧ c.val ≤ 'Z'.val
  · refine toLower_of_not_upper fun hupper => ?_
    have hge : 65 ≤ c.val.toNat := h.1
    have hle : c.val.toNat ≤ 90 := h.2
    have hlower : c.toLower.val.toNat ≤ 90 := hupper.2
    rw [val_toLower h, UInt32.toNat_add] at hlower
    change (c.val.toNat + 32) % 2 ^ 32 ≤ 90 at hlower
    omega
  · rw [toLower_of_not_upper h, toLower_of_not_upper h]

@[simp] theorem lower_lower (s : String) : lower (lower s) = lower s := by
  rw [← String.toList_inj, toList_lower, toList_lower, List.map_map]
  exact List.map_congr_left fun c _ => toLower_toLower c

/-- The case of a letter has no influence on its size. -/
theorem utf8Size_toLower (c : Char) : c.toLower.utf8Size = c.utf8Size := by
  by_cases h : c.val ≥ 'A'.val ∧ c.val ≤ 'Z'.val
  · have hle : c.val.toNat ≤ 90 := h.2
    have hupper : c.val ≤ 127 := UInt32.le_iff_toNat_le.mpr (by change _ ≤ 127; omega)
    have hlower : c.toLower.val ≤ 127 := by
      rw [val_toLower h, UInt32.le_iff_toNat_le, UInt32.toNat_add]
      change (c.val.toNat + 32) % 2 ^ 32 ≤ 127
      omega
    rw [Char.utf8Size_eq_one_iff.mpr hupper, Char.utf8Size_eq_one_iff.mpr hlower]
  · rw [toLower_of_not_upper h]

theorem utf8ByteSize_lower (s : String) : (lower s).utf8ByteSize = s.utf8ByteSize := by
  have hlist : ∀ cs : List Char,
      (String.ofList (cs.map Char.toLower)).utf8ByteSize = (String.ofList cs).utf8ByteSize := by
    intro cs
    induction cs with
    | nil => rfl
    | cons c cs ih =>
      rw [List.map_cons, utf8ByteSize_ofList_cons, utf8ByteSize_ofList_cons, utf8Size_toLower, ih]
  rw [lower, hlist, String.ofList_toList]

/-- **A beginning up to case** is a first part that is the word up to case. -/
theorem beginsLike_iff {word s : String} :
    beginsLike word s = true ↔ ∃ front back, s = front ++ back ∧ lower front = lower word := by
  rw [beginsLike, Option.any_eq_true]
  simp only [front?_eq_some_iff, alike_iff]
  constructor
  · rintro ⟨front, ⟨⟨back, hs⟩, -⟩, hlower⟩
    exact ⟨front, back, hs, hlower.symm⟩
  · rintro ⟨front, back, hs, hlower⟩
    -- the part has the size of the word, so it is what is cut off
    refine ⟨front, ⟨⟨back, hs⟩, ?_⟩, hlower.symm⟩
    rw [← utf8ByteSize_lower, hlower, utf8ByteSize_lower]

/-- A beginning up to case, told from the first characters instead of the first bytes. -/
theorem beginsLike_iff_take {word s : String} :
    beginsLike word s = true ↔
      (s.toList.take word.toList.length).map Char.toLower = word.toList.map Char.toLower := by
  rw [beginsLike_iff]
  constructor
  · rintro ⟨front, back, rfl, h⟩
    have hmap : front.toList.map Char.toLower = word.toList.map Char.toLower := by
      rw [← toList_lower, h, toList_lower]
    have hlength : front.toList.length = word.toList.length := by
      rw [← List.length_map Char.toLower, hmap, List.length_map]
    rw [String.toList_append, ← hlength, List.take_left, hmap]
  · intro h
    refine ⟨String.ofList (s.toList.take word.toList.length),
      String.ofList (s.toList.drop word.toList.length), ?_, ?_⟩
    · rw [← String.ofList_append, List.take_append_drop, String.ofList_toList]
    · rw [lower, String.toList_ofList, h, lower]

theorem beginsWith_iff {word s : String} : beginsWith word s = true ↔ ∃ back, s = word ++ back := by
  rw [beginsWith, List.isPrefixOf_iff_prefix]
  constructor
  · rintro ⟨back, h⟩
    refine ⟨String.ofList back, String.toList_inj.mp ?_⟩
    rw [String.toList_append, String.toList_ofList, h]
  · rintro ⟨back, rfl⟩
    rw [String.toList_append]
    exact List.prefix_append _ _

end Text

end TrafficGraph
