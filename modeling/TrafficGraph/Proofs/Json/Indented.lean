import TrafficGraph.Proofs.Json.Layout

/-!
# The indented text determines the value

The indented text of a value puts its items and members on lines of their own, and the same value
is written differently at different depths. What an item begins with, a line end and blanks, is
what the line of the closing bracket begins with too, so a bracket cannot end a list by the
character alone: it is the comma in front of every further item that makes the difference, and a
list without items has no line end at all.

The depth does not matter beyond that: `TrafficGraph.Json.isLayout_lines` takes all depths at once.
The main statement is `TrafficGraph.Json.indented_inj`.
-/

namespace TrafficGraph

namespace Json

/-! ### Lists -/

/-- An item of an array at the given depth: a line of its own. -/
def lineOfItem (depth : Nat) (v : Json) : List Char := newline depth ++ lines (depth + 1) v

theorem linesOfItems_eq (depth : Nat) (items : List Json) :
    linesOfItems depth items = separated (lineOfItem depth) items := by
  induction items with
  | nil => rw [linesOfItems, separated]
  | cons v items ih =>
    cases items with
    | nil => rw [linesOfItems, separated, List.flatMap_nil, List.append_nil, lineOfItem]
    | cons w items =>
      have hcons : linesOfItems depth (v :: w :: items) =
          lineOfItem depth v ++ ',' :: linesOfItems depth (w :: items) := by
        rw [linesOfItems, lineOfItem, List.append_assoc]
        exact List.cons_ne_nil w items
      rw [hcons, ih, separated, separated, List.flatMap_cons, List.cons_append]

/-- A member of an object at the given depth: its name and its value, on a line of their own. -/
def lineOfMember (depth : Nat) (m : String × Json) : List Char :=
  newline depth ++ (quoted m.1 ++ ([':', ' '] ++ lines (depth + 1) m.2))

theorem linesOfMembers_eq (depth : Nat) (members : List (String × Json)) :
    linesOfMembers depth members = separated (lineOfMember depth) members := by
  induction members with
  | nil => rw [linesOfMembers, separated]
  | cons m members ih =>
    cases members with
    | nil =>
      rw [linesOfMembers, separated, List.flatMap_nil, List.append_nil, lineOfMember]
      rfl
    | cons m' members =>
      have hcons : linesOfMembers depth (m :: m' :: members) =
          lineOfMember depth m ++ ',' :: linesOfMembers depth (m' :: members) := by
        rw [linesOfMembers, lineOfMember, List.append_assoc, List.append_assoc, List.append_assoc]
        · rfl
        · exact List.cons_ne_nil m' members
      rw [hcons, ih, separated, separated, List.flatMap_cons, List.cons_append]

/-! ### Brackets -/

section Bracketed

variable {α : Type} {P : α → Prop} {write : α → List Char} {as bs : List α}
  {rest rest' : List Char}

/-- The text between two brackets, and the closing one: nothing for a list without items, and
lines otherwise, of which the last holds the bracket. -/
def bracketed (depth : Nat) (close : Char) (write : α → List Char) : List α → List Char
  | [] => [close]
  | a :: as => separated write (a :: as) ++ (newline (depth - 1) ++ [close])

/-- What lies between brackets is told apart by its items, if these begin with a line end and the
bracket does not. -/
theorem bracketed_append_inj {depth : Nat} {close : Char} (hclose : close ≠ '\n')
    (hline : ∀ a, ∃ cs, write a = '\n' :: cs) (has : ∀ a ∈ as, Readable P write a)
    (hbs : ∀ b ∈ bs, P b)
    (h : bracketed depth close write as ++ rest = bracketed depth close write bs ++ rest') :
    as = bs ∧ rest = rest' := by
  have hfirst : ∀ (a : α) (as : List α) (rest : List Char),
      ∃ cs, bracketed depth close write (a :: as) ++ rest = '\n' :: cs := by
    intro a as rest
    obtain ⟨cs, hcs⟩ := hline a
    rw [bracketed, separated, hcs]
    exact ⟨_, rfl⟩
  cases as with
  | nil =>
    cases bs with
    | nil => exact ⟨rfl, (List.cons.inj h).2⟩
    | cons b bs =>
      obtain ⟨cs, hcs⟩ := hfirst b bs rest'
      rw [hcs] at h
      exact absurd (List.cons.inj h).1 hclose
  | cons a as =>
    cases bs with
    | nil =>
      obtain ⟨cs, hcs⟩ := hfirst a as rest
      rw [hcs] at h
      exact absurd (List.cons.inj h).1.symm hclose
    | cons b bs =>
      -- the line of the closing bracket begins with no comma and no digit
      have hlast : ∀ (as : List α) (a : α) (rest : List Char),
          bracketed depth close write (a :: as) ++ rest = separated write (a :: as) ++
            '\n' :: (List.replicate (2 * (depth - 1)) ' ' ++ close :: rest) := by
        intro as a rest
        rw [bracketed, newline, List.append_assoc, List.cons_append, List.cons_append,
          List.append_assoc, List.singleton_append]
      rw [hlast, hlast] at h
      obtain ⟨hitems, hr⟩ := separated_cons_append_inj rfl (by decide) has hbs h
      exact ⟨hitems, (List.cons.inj (List.append_cancel_left hr)).2⟩

end Bracketed

theorem lines_array (depth : Nat) (items : List Json) :
    lines depth (array items) = '[' :: bracketed depth ']' (lineOfItem depth) items := by
  cases items with
  | nil => rw [lines, bracketed]
  | cons v items => rw [lines, linesOfItems_eq, bracketed, List.append_assoc]

theorem lines_object (depth : Nat) (members : List (String × Json)) :
    lines depth (object members) =
      '\x7b' :: bracketed depth '\x7d' (lineOfMember depth) members := by
  cases members with
  | nil => rw [lines, bracketed]
  | cons m members => rw [lines, linesOfMembers_eq, bracketed, List.append_assoc]

/-! ### Values -/

/-- **The indented text is a layout**, at all depths together. -/
theorem isLayout_lines : IsLayout lines where
  scalar_eq depth v hv := by
    cases v with
    | array | object => cases hv
    | null | boolean | integer | fraction | string => rw [lines] <;> exact nofun
  array_begins depth items := ⟨_, lines_array depth items⟩
  object_begins depth members := ⟨_, lines_object depth members⟩
  array_inj depth items items' rest rest' hitems hitems' h := by
    rw [lines_array, lines_array] at h
    exact bracketed_append_inj (by decide) (fun v => ⟨_, rfl⟩)
      (fun v hv => ((hitems v hv).2 (depth + 1)).append_left (newline depth)) hitems'
      (List.cons.inj h).2
  object_inj depth members members' rest rest' hmembers hmembers' h := by
    rw [lines_object, lines_object] at h
    exact bracketed_append_inj (by decide) (fun m => ⟨_, rfl⟩)
      (fun m hm => (readable_member [':', ' '] ((hmembers m hm).2 (depth + 1))).append_left
        (newline depth)) hmembers' (List.cons.inj h).2

/-- **Values with the same indented text are equal.** -/
theorem indented_inj {v w : Json} (hv : Integral v) (hw : Integral w) :
    v.indented = w.indented ↔ v = w :=
  isLayout_lines.inj hv hw 1

end Json

end TrafficGraph
