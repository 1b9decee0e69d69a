import Mathlib
import TrafficGraph.Numeral
import TrafficGraph.Text.Cut
import TrafficGraph.Text.Letters

/-!
# Lower case and the reading of texts

Taking a text to lower case changes its letters and nothing else. A character that is
no letter – a digit, a sign, a separator – therefore stands in the same places before
and after, and whatever looks for such characters finds the same ones: a text in lower
case is cut where the text itself is, and the number in front of it is the same.

* `TrafficGraph.Text.toLower_eq_iff` is the fact about characters, and
  `TrafficGraph.Text.lower_eq_iff` the one about texts;
* `TrafficGraph.Text.cut?_lower` and `TrafficGraph.Text.fields_lower` – cutting
  commutes with taking to lower case;
* `TrafficGraph.Numeral.lenient_lower` – numbers do not notice.
-/

namespace TrafficGraph

namespace Text

/-! ### Characters -/

/-- A character that is no letter is its own lower case. -/
theorem toLower_eq_self {c : Char} (hc : c.isAlpha = false) : c.toLower = c := by
  refine Char.toLower_eq_of_not_isUpper fun hupper => ?_
  rw [Char.isAlpha, hupper] at hc
  cases hc

/-- **A character that is no letter is the lower case of itself only.** -/
theorem toLower_eq_iff {c d : Char} (hd : d.isAlpha = false) : c.toLower = d ↔ c = d := by
  constructor
  · rintro rfl
    rw [Char.isAlpha_toLower_eq_isAlpha] at hd
    exact (toLower_eq_self hd).symm
  · rintro rfl
    exact toLower_eq_self hd

theorem not_isAlpha_of_isDigit {c : Char} (hc : c.isDigit = true) : c.isAlpha = false := by
  simp only [Char.isDigit, Char.isAlpha, Char.isUpper, Char.isLower, Bool.and_eq_true,
    decide_eq_true_eq, Bool.or_eq_false_iff, decide_eq_false_iff_not, Bool.and_eq_false_iff,
    UInt32.le_iff_toNat_le, ge_iff_le] at hc ⊢
  grind

@[simp] theorem isDigit_toLower (c : Char) : c.toLower.isDigit = c.isDigit := by
  rw [Bool.eq_iff_iff]
  constructor
  · intro h
    rwa [← (toLower_eq_iff (not_isAlpha_of_isDigit h)).mp rfl] at h
  · intro h
    rwa [toLower_eq_self (not_isAlpha_of_isDigit h)]

/-- Digits are their own lower case. -/
theorem map_toLower_of_isDigit {cs : List Char} (hcs : ∀ c ∈ cs, c.isDigit = true) :
    cs.map Char.toLower = cs := by
  refine (List.map_congr_left fun c hc => ?_).trans (List.map_id cs)
  exact toLower_eq_self (not_isAlpha_of_isDigit (hcs c hc))

@[simp] theorem isBlank_toLower (c : Char) : isBlank c.toLower = isBlank c := by
  have hiff : ∀ d : Char, d.isAlpha = false → (c.toLower == d) = (c == d) := by
    intro d hd
    rw [Bool.eq_iff_iff, beq_iff_eq, beq_iff_eq, toLower_eq_iff hd]
  simp only [isBlank, hiff _ (by decide : Char.isAlpha '\t' = false),
    hiff _ (by decide : Char.isAlpha '\n' = false),
    hiff _ (by decide : Char.isAlpha '\x0c' = false),
    hiff _ (by decide : Char.isAlpha '\r' = false),
    hiff _ (by decide : Char.isAlpha ' ' = false)]

/-! ### Texts -/

theorem lower_ofList (cs : List Char) :
    lower (String.ofList cs) = String.ofList (cs.map Char.toLower) := by
  rw [lower, String.toList_ofList]

@[simp] theorem alike_lower (s t : String) : alike s (lower t) = alike s t := by
  rw [alike, alike, lower_lower]

theorem lower_append (s t : String) : lower (s ++ t) = lower s ++ lower t := by
  rw [← String.toList_inj]
  simp

/-- **A text without letters is the lower case of itself only.** -/
theorem lower_eq_iff {s t : String} (ht : ∀ c ∈ t.toList, c.isAlpha = false) :
    lower s = t ↔ s = t := by
  rw [← String.toList_inj, ← String.toList_inj, toList_lower]
  generalize t.toList = ds at ht
  generalize s.toList = cs
  induction cs generalizing ds with
  | nil => rfl
  | cons c cs ih =>
    cases ds with
    | nil => simp
    | cons d ds =>
      rw [List.map_cons, List.cons.injEq, List.cons.injEq, toLower_eq_iff (ht d List.mem_cons_self),
        ih ds fun e he => ht e (List.mem_cons_of_mem d he)]

theorem lower_eq_empty_iff {s : String} : lower s = "" ↔ s = "" :=
  lower_eq_iff fun _ hc => by cases hc

/-! ### Cutting -/

section Cutting

variable {sep : Char} (hsep : sep.isAlpha = false)

include hsep

theorem cutList?_map_toLower (cs : List Char) :
    cutList? sep (cs.map Char.toLower) =
      (cutList? sep cs).map fun p => (p.1.map Char.toLower, p.2.map Char.toLower) := by
  induction cs with
  | nil => rfl
  | cons c cs ih =>
    by_cases hc : c = sep
    · rw [List.map_cons, cutList?, cutList?, if_pos ((toLower_eq_iff hsep).mpr hc), if_pos hc]
      rfl
    · rw [List.map_cons, cutList?, cutList?, if_neg (mt (toLower_eq_iff hsep).mp hc), if_neg hc,
        ih, Option.map_map, Option.map_map]
      rfl

/-- **A text in lower case is cut where the text is.** -/
theorem cut?_lower (s : String) :
    cut? sep (lower s) = (cut? sep s).map fun p => (lower p.1, lower p.2) := by
  rw [cut?, cut?, toList_lower, cutList?_map_toLower hsep, Option.map_map, Option.map_map]
  refine congrArg (Option.map · _) (funext fun p => ?_)
  simp only [Function.comp_apply, lower_ofList]

theorem fieldsList_map_toLower (cs : List Char) :
    fieldsList sep (cs.map Char.toLower) = (fieldsList sep cs).map (List.map Char.toLower) := by
  induction cs with
  | nil => rfl
  | cons c cs ih =>
    by_cases hc : c = sep
    · rw [List.map_cons, fieldsList, fieldsList, if_pos ((toLower_eq_iff hsep).mpr hc), if_pos hc,
        ih]
      rfl
    · rw [List.map_cons, fieldsList, fieldsList, if_neg (mt (toLower_eq_iff hsep).mp hc),
        if_neg hc, ih]
      cases fieldsList sep cs <;> rfl

/-- **The fields of a text in lower case** are those of the text. -/
theorem fields_lower (s : String) : fields sep (lower s) = (fields sep s).map lower := by
  rw [fields, fields, toList_lower, fieldsList_map_toLower hsep, List.map_map, List.map_map]
  refine congrArg (List.map · _) (funext fun cs => ?_)
  simp only [Function.comp_apply, lower_ofList]

end Cutting

/-! ### Beginnings -/

@[simp] theorem beginsLike_lower (word s : String) :
    beginsLike word (lower s) = beginsLike word s := by
  rw [Bool.eq_iff_iff, beginsLike_iff_take, beginsLike_iff_take, toList_lower, ← List.map_take,
    List.map_map]
  refine Eq.congr (congrArg (List.map · _) (funext fun c => ?_)) rfl
  exact toLower_toLower c

/-- A beginning without letters is the same in any letter case. -/
theorem beginsWith_lower {word : String} (hword : ∀ c ∈ word.toList, c.isAlpha = false)
    (s : String) : beginsWith word (lower s) = beginsWith word s := by
  rw [beginsWith, beginsWith, toList_lower]
  generalize word.toList = ds at hword
  generalize s.toList = cs
  induction ds generalizing cs with
  | nil => rfl
  | cons d ds ih =>
    cases cs with
    | nil => rfl
    | cons c cs =>
      rw [List.map_cons, List.isPrefixOf, List.isPrefixOf,
        ih (fun e he => hword e (List.mem_cons_of_mem d he)) cs]
      refine congrArg (· && _) ?_
      rw [Bool.eq_iff_iff, beq_iff_eq, beq_iff_eq, eq_comm,
        toLower_eq_iff (hword d List.mem_cons_self), eq_comm]

end Text

/-! ### Numbers -/

namespace Numeral

theorem takeWhile_isDigit_map_toLower (cs : List Char) :
    (cs.map Char.toLower).takeWhile Char.isDigit = cs.takeWhile Char.isDigit := by
  induction cs with
  | nil => rfl
  | cons c cs ih =>
    rw [List.map_cons, List.takeWhile_cons, List.takeWhile_cons, Text.isDigit_toLower]
    split
    · rename_i hc
      rw [ih, Text.toLower_eq_self (Text.not_isAlpha_of_isDigit hc)]
    · rfl

theorem unsign_map_toLower (cs : List Char) :
    unsign (cs.map Char.toLower) = ((unsign cs).1, (unsign cs).2.map Char.toLower) := by
  cases cs with
  | nil => rfl
  | cons c cs =>
    by_cases hminus : c = '-'
    · subst hminus
      rfl
    · by_cases hplus : c = '+'
      · subst hplus
        rfl
      · have hminus' := mt (Text.toLower_eq_iff (d := '-') rfl).mp hminus
        have hplus' := mt (Text.toLower_eq_iff (d := '+') rfl).mp hplus
        rw [List.map_cons, unsign, unsign, List.map_cons]
        all_goals simp_all

/-- **A number does not notice letter case**: letters only end it. -/
@[simp] theorem lenient_lower (s : String) : lenient (Text.lower s) = lenient s := by
  have hblank : (Text.isBlank ∘ Char.toLower) = Text.isBlank := funext Text.isBlank_toLower
  rw [lenient, lenient, Text.toList_lower, List.dropWhile_map, hblank, unsign_map_toLower]
  dsimp only
  rw [takeWhile_isDigit_map_toLower]

end Numeral

end TrafficGraph
