/-!
# TOML values

What a TOML document holds. Numbers with a fraction and moments in time are kept
as they are spelled: settings have no use for either, and only need to know that
they are what they are. Values are compared part by part, so it can be decided whether two
documents say the same.
-/

namespace TrafficGraph

/-- A value of a TOML document. -/
inductive Toml where
  /-- A text. -/
  | string (s : String)
  /-- A whole number of 64 bits. -/
  | integer (n : Int)
  /-- A number with a fraction or an exponent, an infinity or no number. -/
  | float (spelling : String)
  /-- A truth value. -/
  | boolean (b : Bool)
  /-- A date, a time, or both. -/
  | moment (spelling : String)
  /-- A sequence of values, written in one place or as tables under one heading. -/
  | array (items : List Toml)
  /-- A table of named values. -/
  | table (entries : List (String × Toml))

namespace Toml

/-! ### Equality -/

mutual

/-- Two values are the same, part by part. -/
def same : Toml → Toml → Bool
  | string s, string t => s == t
  | integer m, integer n => m == n
  | float s, float t => s == t
  | boolean b, boolean c => b == c
  | moment s, moment t => s == t
  | array xs, array ys => sameItems xs ys
  | table xs, table ys => sameEntries xs ys
  | _, _ => false

/-- Two sequences have the same items. -/
def sameItems : List Toml → List Toml → Bool
  | [], [] => true
  | x :: xs, y :: ys => same x y && sameItems xs ys
  | _, _ => false

/-- Two tables have the same values under the same names, in the same order. -/
def sameEntries : List (String × Toml) → List (String × Toml) → Bool
  | [], [] => true
  | (name, x) :: xs, (other, y) :: ys => name == other && same x y && sameEntries xs ys
  | _, _ => false

end

mutual

theorem same_iff (v w : Toml) : same v w = true ↔ v = w := by
  cases v with
  | string | integer | float | boolean | moment => cases w <;> simp [same]
  | array xs =>
    cases w with
    | array ys => simp [same, sameItems_iff xs ys]
    | _ => simp [same]
  | table xs =>
    cases w with
    | table ys => simp [same, sameEntries_iff xs ys]
    | _ => simp [same]

theorem sameItems_iff (xs ys : List Toml) : sameItems xs ys = true ↔ xs = ys := by
  cases xs with
  | nil => cases ys <;> simp [sameItems]
  | cons x xs =>
    cases ys with
    | nil => simp [sameItems]
    | cons y ys => simp [sameItems, same_iff x y, sameItems_iff xs ys]

theorem sameEntries_iff (xs ys : List (String × Toml)) : sameEntries xs ys = true ↔ xs = ys := by
  cases xs with
  | nil => cases ys <;> simp [sameEntries]
  | cons x xs =>
    obtain ⟨name, v⟩ := x
    cases ys with
    | nil => simp [sameEntries]
    | cons y ys =>
      obtain ⟨other, w⟩ := y
      simp [sameEntries, same_iff v w, sameEntries_iff xs ys, and_assoc]

end

instance : DecidableEq Toml := fun v w => decidable_of_iff _ (same_iff v w)

end Toml

end TrafficGraph
