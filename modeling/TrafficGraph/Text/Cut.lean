/-!
# Cutting a text at a separator

A peer is cut at its first colon, a byte count at its first space, and a list of
peers at every comma. Both operations are defined on lists of characters by
recursion and lifted to texts.

* `TrafficGraph.Text.cut?` – the parts before and after the first separator, if
  there is one;
* `TrafficGraph.Text.fields` – the parts between separators. There is always at
  least one: the empty text has the empty text as its only field.
-/

namespace TrafficGraph

namespace Text

/-! ### At the first separator -/

/-- The characters before and after the first separator. -/
def cutList? (sep : Char) : List Char → Option (List Char × List Char)
  | [] => none
  | c :: cs =>
    if c = sep then some ([], cs)
    else (cutList? sep cs).map fun p => (c :: p.1, p.2)

/-- The parts of a text before and after the first separator; `none` when the
separator does not occur. -/
def cut? (sep : Char) (s : String) : Option (String × String) :=
  (cutList? sep s.toList).map fun p => (String.ofList p.1, String.ofList p.2)

theorem cutList?_eq_none_iff {sep : Char} {cs : List Char} :
    cutList? sep cs = none ↔ sep ∉ cs := by
  induction cs with
  | nil => simp [cutList?]
  | cons c cs ih =>
    by_cases h : c = sep
    · simp [cutList?, h]
    · simp [cutList?, h, ih, Ne.symm h]

/-- **A cut is at the first separator**: the two parts and the separator between
them make up the text, and the first part does not hold the separator. -/
theorem cutList?_eq_some_iff {sep : Char} {cs l r : List Char} :
    cutList? sep cs = some (l, r) ↔ cs = l ++ sep :: r ∧ sep ∉ l := by
  induction cs generalizing l with
  | nil => simp [cutList?]
  | cons c cs ih =>
    by_cases h : c = sep
    · subst h
      cases l with
      | nil => simp [cutList?, eq_comm]
      | cons d l => simp [cutList?]; rintro rfl _; simp
    · cases l with
      | nil => simp [cutList?, h]
      | cons d l =>
        simp only [cutList?, h, if_false, Option.map_eq_some_iff, Prod.mk.injEq, List.cons.injEq,
          List.cons_append, List.mem_cons, not_or]
        constructor
        · rintro ⟨⟨l', r'⟩, hc, ⟨rfl, rfl⟩, rfl⟩
          obtain ⟨hcs, hl⟩ := ih.mp hc
          exact ⟨⟨rfl, hcs⟩, fun he => h he.symm, hl⟩
        · rintro ⟨⟨rfl, hcs⟩, -, hl⟩
          exact ⟨(l, r), ih.mpr ⟨hcs, hl⟩, ⟨rfl, rfl⟩, rfl⟩

theorem cut?_eq_none_iff {sep : Char} {s : String} : cut? sep s = none ↔ sep ∉ s.toList := by
  rw [cut?, Option.map_eq_none_iff, cutList?_eq_none_iff]

/-- **A text is cut at the first separator.** -/
theorem cut?_eq_some_iff {sep : Char} {s front back : String} :
    cut? sep s = some (front, back) ↔
      s.toList = front.toList ++ sep :: back.toList ∧ sep ∉ front.toList := by
  rw [cut?, ← cutList?_eq_some_iff, Option.map_eq_some_iff]
  constructor
  · rintro ⟨p, hp, he⟩
    obtain ⟨rfl, rfl⟩ := Prod.mk.inj he
    rw [String.toList_ofList, String.toList_ofList]
    exact hp
  · intro h
    exact ⟨_, h, by rw [String.ofList_toList, String.ofList_toList]⟩

/-! ### At every separator -/

/-- The runs of characters between separators, the first one given in front. -/
def fieldsList (sep : Char) : List Char → List (List Char)
  | [] => [[]]
  | c :: cs =>
    if c = sep then [] :: fieldsList sep cs
    else match fieldsList sep cs with
      | [] => [[c]]
      | f :: fs => (c :: f) :: fs

/-- The parts of a text between separators, in order. -/
def fields (sep : Char) (s : String) : List String :=
  (fieldsList sep s.toList).map String.ofList

theorem fieldsList_ne_nil (sep : Char) (cs : List Char) : fieldsList sep cs ≠ [] := by
  cases cs with
  | nil => simp [fieldsList]
  | cons c cs =>
    unfold fieldsList
    split
    · simp
    · split <;> simp

/-- **Cutting is undone by joining**: a separator between two texts separates
their fields. -/
theorem fieldsList_append (sep : Char) (l r : List Char) :
    fieldsList sep (l ++ sep :: r) = fieldsList sep l ++ fieldsList sep r := by
  induction l with
  | nil => simp [fieldsList]
  | cons c l ih =>
    by_cases h : c = sep
    · simp [fieldsList, h, ih]
    · simp only [List.cons_append, fieldsList, h, if_false, ih]
      rcases hf : fieldsList sep l with _ | ⟨f, fs⟩
      · exact absurd hf (fieldsList_ne_nil sep l)
      · rfl

theorem fieldsList_of_not_mem {sep : Char} {cs : List Char} (h : sep ∉ cs) :
    fieldsList sep cs = [cs] := by
  induction cs with
  | nil => rfl
  | cons c cs ih =>
    simp only [List.mem_cons, not_or] at h
    simp [fieldsList, Ne.symm h.1, ih h.2]

end Text

end TrafficGraph
