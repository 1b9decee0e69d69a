import TrafficGraph.Proofs.Json.Scalar

/-!
# Layouts of JSON in which nothing has a second reading

A nested text has to exclude a second reading: another place where an item ends, or another kind
of value. Blanks and line ends have no part in this, and so the argument is made once for every
layout (`TrafficGraph.Json.IsLayout`). Two things are behind it.

* The first character tells what kind of value follows (`TrafficGraph.Json.Shape.ofChar?`), and
  none of the characters that come after a value begins one.
* A text shows where it ends (`TrafficGraph.Json.Readable`). Lists of such texts do too, with
  commas between them and something that is no comma at the end, so this goes up from the parts
  of a value to the value.

What a layout owes is only that lists are told apart if their items are; the rest, and the
induction over values, is `TrafficGraph.Json.IsLayout.readable`.

Fractions are left out: they are written by their shortest digits, and nothing that the program
makes holds one (`TrafficGraph.Json.Integral`).
-/

namespace TrafficGraph

namespace Json

/-- **A value whose numbers are integers.** -/
inductive Integral : Json → Prop
  /-- The value `null`. -/
  | null : Integral null
  /-- A truth value. -/
  | boolean (b : Bool) : Integral (boolean b)
  /-- An integer. -/
  | integer (n : Int) : Integral (integer n)
  /-- A text. -/
  | string (s : String) : Integral (string s)
  /-- A sequence of such values. -/
  | array {items : List Json} : (∀ v ∈ items, Integral v) → Integral (array items)
  /-- A sequence of such values with names. -/
  | object {members : List (String × Json)} : (∀ m ∈ members, Integral m.2) →
      Integral (object members)

/-! ### The first character -/

/-- The kinds of value that texts tell apart by how they begin. -/
inductive Shape where
  /-- The value `null`. -/
  | null
  /-- A truth value. -/
  | boolean
  /-- A number. -/
  | number
  /-- A text. -/
  | string
  /-- A sequence of values. -/
  | array
  /-- A sequence of named values. -/
  | object

/-- The kind of a value. -/
def shape : Json → Shape
  | null => .null
  | boolean _ => .boolean
  | integer _ | fraction _ => .number
  | string _ => .string
  | array _ => .array
  | object _ => .object

/-- The value has no parts. -/
def isScalar : Json → Bool
  | array _ | object _ => false
  | _ => true

/-- The kind of value that a character begins, if it begins one. -/
def Shape.ofChar? (c : Char) : Option Shape :=
  if c = '-' ∨ c.isDigit = true then some .number
  else if c = 'n' then some .null
  else if c = 't' ∨ c = 'f' then some .boolean
  else if c = '"' then some .string
  else if c = '[' then some .array
  else if c = '\x7b' then some .object
  else none

/-! ### Texts with commas between them -/

section Separated

variable {α : Type}

/-- The texts of some items, with commas between them. -/
def separated (write : α → List Char) : List α → List Char
  | [] => []
  | a :: as => write a ++ as.flatMap fun b => ',' :: write b

/-- **A text shows where it ends**: nothing else with the property has a text that goes on
differently, unless a number in it does. -/
def Readable (P : α → Prop) (write : α → List Char) (a : α) : Prop :=
  ∀ (b : α) (rest rest' : List Char), P b → EndsNumber rest → EndsNumber rest' →
    write a ++ rest = write b ++ rest' → a = b ∧ rest = rest'

variable {P : α → Prop} {write : α → List Char} {close : Char} {a b : α} {as bs : List α}
  {rest rest' : List Char}

/-- What stands in front of every item alike does not matter. -/
theorem Readable.append_left (lead : List Char) (h : Readable P write a) :
    Readable P (fun b => lead ++ write b) a := by
  intro b rest rest' hb hrest hrest' he
  dsimp only at he
  rw [List.append_assoc, List.append_assoc] at he
  exact h b rest rest' hb hrest hrest' (List.append_cancel_left he)

/-- A number in front of a comma, or of what closes the list, has ended. -/
theorem endsNumber_flatMap_append (hdigit : close.isDigit = false) :
    EndsNumber ((as.flatMap fun a => ',' :: write a) ++ close :: rest) := by
  cases as with
  | nil => exact .cons hdigit rest
  | cons a as => exact .cons rfl _

/-- **Items that follow a comma are read one by one**, up to what closes the list. -/
theorem flatMap_append_inj (hdigit : close.isDigit = false) (hcomma : close ≠ ',')
    (has : ∀ a ∈ as, Readable P write a) (hbs : ∀ b ∈ bs, P b)
    (h : (as.flatMap fun a => ',' :: write a) ++ close :: rest =
      (bs.flatMap fun b => ',' :: write b) ++ close :: rest') : as = bs ∧ rest = rest' := by
  induction as generalizing bs with
  | nil =>
    cases bs with
    | nil => exact ⟨rfl, (List.cons.inj h).2⟩
    | cons b bs => exact absurd (List.cons.inj h).1 hcomma
  | cons a as ih =>
    cases bs with
    | nil => exact absurd (List.cons.inj h).1.symm hcomma
    | cons b bs =>
      rw [List.forall_mem_cons] at has hbs
      rw [List.flatMap_cons, List.flatMap_cons, List.cons_append, List.cons_append,
        List.cons_append, List.cons_append, List.append_assoc, List.append_assoc] at h
      obtain ⟨rfl, htail⟩ := has.1 b _ _ hbs.1 (endsNumber_flatMap_append hdigit)
        (endsNumber_flatMap_append hdigit) (List.cons.inj h).2
      obtain ⟨rfl, hr⟩ := ih has.2 hbs.2 htail
      exact ⟨rfl, hr⟩

/-- Two lists that have an item are told apart, up to what closes them. -/
theorem separated_cons_append_inj (hdigit : close.isDigit = false) (hcomma : close ≠ ',')
    (has : ∀ c ∈ a :: as, Readable P write c) (hbs : ∀ c ∈ b :: bs, P c)
    (h : separated write (a :: as) ++ close :: rest =
      separated write (b :: bs) ++ close :: rest') : a :: as = b :: bs ∧ rest = rest' := by
  rw [List.forall_mem_cons] at has hbs
  rw [separated, separated, List.append_assoc, List.append_assoc] at h
  obtain ⟨rfl, htail⟩ := has.1 b _ _ hbs.1 (endsNumber_flatMap_append hdigit)
    (endsNumber_flatMap_append hdigit) h
  obtain ⟨rfl, hr⟩ := flatMap_append_inj hdigit hcomma has.2 hbs.2 htail
  exact ⟨rfl, hr⟩

/-- Items are read in front of what closes the list, if none of them begins like it. -/
theorem separated_append_inj (hdigit : close.isDigit = false) (hcomma : close ≠ ',')
    (hopen : ∀ a, P a → ∀ cs ds, write a ++ cs ≠ close :: ds)
    (has : ∀ a ∈ as, P a ∧ Readable P write a) (hbs : ∀ b ∈ bs, P b)
    (h : separated write as ++ close :: rest = separated write bs ++ close :: rest') :
    as = bs ∧ rest = rest' := by
  cases as with
  | nil =>
    cases bs with
    | nil => exact ⟨rfl, (List.cons.inj h).2⟩
    | cons b bs =>
      -- what closes the empty list would begin an item
      rw [separated, separated, List.append_assoc] at h
      exact absurd h.symm (hopen b (hbs b List.mem_cons_self) _ _)
  | cons a as =>
    cases bs with
    | nil =>
      rw [separated, separated, List.append_assoc] at h
      exact absurd h (hopen a (has a List.mem_cons_self).1 _ _)
    | cons b bs =>
      exact separated_cons_append_inj hdigit hcomma (fun c hc => (has c hc).2) hbs h

/-- A member shows where it ends if its value does, whatever is written between the two. -/
theorem readable_member {write : Json → List Char} (colon : List Char) {m : String × Json}
    (hm : Readable Integral write m.2) :
    Readable (fun m => Integral m.2) (fun m => quoted m.1 ++ (colon ++ write m.2)) m := by
  intro m' rest rest' hm' hrest hrest' h
  dsimp only at h
  rw [List.append_assoc (quoted m.1), List.append_assoc (quoted m'.1)] at h
  obtain ⟨hname, h⟩ := quoted_append_inj h
  obtain ⟨hvalue, hr⟩ := hm.append_left colon m'.2 rest rest' hm' hrest hrest' h
  exact ⟨Prod.ext hname hvalue, hr⟩

end Separated

/-! ### How values begin -/

/-- **Values are known by how they begin**: a value without parts is written by its own text, a
sequence begins with a bracket and an object with a brace. The same value may be written in several
ways, by the depth at which it stands, say. -/
structure KnownByBeginning {ι : Type} (write : ι → Json → List Char) : Prop where
  /-- A value without parts has one text. -/
  scalar_eq : ∀ (i : ι) (v : Json), v.isScalar = true → write i v = scalar v
  /-- A sequence begins with a bracket. -/
  array_begins : ∀ (i : ι) (items : List Json), ∃ cs, write i (array items) = '[' :: cs
  /-- An object begins with a brace. -/
  object_begins : ∀ (i : ι) (members : List (String × Json)),
    ∃ cs, write i (object members) = '\x7b' :: cs

section KnownByBeginning

variable {ι : Type} {write : ι → Json → List Char} {v w : Json} {rest rest' : List Char}

/-- **The text of a value begins with a character of its kind.** -/
theorem KnownByBeginning.exists_eq_cons (h : KnownByBeginning write) (hv : Integral v) (i : ι) :
    ∃ c cs, write i v = c :: cs ∧ Shape.ofChar? c = some v.shape := by
  cases hv with
  | null => exact ⟨'n', _, h.scalar_eq i null rfl, rfl⟩
  | boolean b =>
    cases b with
    | false => exact ⟨'f', _, h.scalar_eq i (boolean false) rfl, rfl⟩
    | true => exact ⟨'t', _, h.scalar_eq i (boolean true) rfl, rfl⟩
  | integer n =>
    obtain ⟨c, cs, hcs, hc⟩ := exists_scalar_integer n
    exact ⟨c, cs, (h.scalar_eq i (integer n) rfl).trans hcs, if_pos hc⟩
  | string s => exact ⟨'"', _, h.scalar_eq i (string s) rfl, rfl⟩
  | array =>
    obtain ⟨cs, hcs⟩ := h.array_begins i _
    exact ⟨'[', cs, hcs, rfl⟩
  | object =>
    obtain ⟨cs, hcs⟩ := h.object_begins i _
    exact ⟨'\x7b', cs, hcs, rfl⟩

/-- Values whose texts begin alike are of one kind. -/
theorem KnownByBeginning.shape_eq (h : KnownByBeginning write) (hv : Integral v)
    (hw : Integral w) {i : ι} (he : write i v ++ rest = write i w ++ rest') :
    v.shape = w.shape := by
  obtain ⟨c, cs, hcs, hc⟩ := h.exists_eq_cons hv i
  obtain ⟨d, ds, hds, hd⟩ := h.exists_eq_cons hw i
  rw [hcs, hds] at he
  obtain rfl : c = d := (List.cons.inj he).1
  exact Option.some.inj (hc.symm.trans hd)

/-- No value begins with a character that begins none. -/
theorem KnownByBeginning.append_ne_cons (h : KnownByBeginning write) (hv : Integral v) {c : Char}
    (hc : Shape.ofChar? c = none) (i : ι) (cs ds : List Char) : write i v ++ cs ≠ c :: ds := by
  intro he
  obtain ⟨c', cs', hcs, hc'⟩ := h.exists_eq_cons hv i
  rw [hcs] at he
  rw [(List.cons.inj he).1, hc] at hc'
  cases hc'

end KnownByBeginning

/-! ### Layouts -/

/-- **A layout of values**: they are known by how they begin, and lists are told apart if their
items are, in whatever way these are written. -/
structure IsLayout {ι : Type} (write : ι → Json → List Char) : Prop
    extends KnownByBeginning write where
  /-- Sequences are told apart if their items are. -/
  array_inj : ∀ (i : ι) (items items' : List Json) (rest rest' : List Char),
    (∀ v ∈ items, Integral v ∧ ∀ j, Readable Integral (write j) v) → (∀ v ∈ items', Integral v) →
    write i (array items) ++ rest = write i (array items') ++ rest' → items = items' ∧ rest = rest'
  /-- Objects are told apart if the values of their members are. -/
  object_inj : ∀ (i : ι) (members members' : List (String × Json)) (rest rest' : List Char),
    (∀ m ∈ members, Integral m.2 ∧ ∀ j, Readable Integral (write j) m.2) →
    (∀ m ∈ members', Integral m.2) →
    write i (object members) ++ rest = write i (object members') ++ rest' →
      members = members' ∧ rest = rest'

namespace IsLayout

variable {ι : Type} {write : ι → Json → List Char} {v w : Json}

/-- **The text of a value shows where it ends.** -/
theorem readable (h : IsLayout write) (hv : Integral v) (i : ι) :
    Readable Integral (write i) v := by
  -- the induction is on the value; the first character leaves only its own kind to compare with
  induction hv generalizing i with
  | null =>
    intro w rest rest' hw hrest hrest' he
    have hshape := h.shape_eq .null hw he
    cases hw <;> cases hshape
    exact ⟨rfl, List.append_cancel_left he⟩
  | boolean b =>
    intro w rest rest' hw hrest hrest' he
    have hshape := h.shape_eq (.boolean b) hw he
    cases hw with
    | boolean b' =>
      rw [h.scalar_eq i _ rfl, h.scalar_eq i _ rfl] at he
      obtain rfl : b = b' :=
        match b, b' with
        | false, false | true, true => rfl
        | false, true | true, false => nomatch he
      exact ⟨rfl, List.append_cancel_left he⟩
    | null | integer | string | array | object => cases hshape
  | integer n =>
    intro w rest rest' hw hrest hrest' he
    have hshape := h.shape_eq (.integer n) hw he
    cases hw with
    | integer n' =>
      rw [h.scalar_eq i _ rfl, h.scalar_eq i _ rfl] at he
      obtain ⟨rfl, hr⟩ := integer_append_inj hrest hrest' he
      exact ⟨rfl, hr⟩
    | null | boolean | string | array | object => cases hshape
  | string s =>
    intro w rest rest' hw hrest hrest' he
    have hshape := h.shape_eq (.string s) hw he
    cases hw with
    | string s' =>
      rw [h.scalar_eq i _ rfl, h.scalar_eq i _ rfl] at he
      obtain ⟨rfl, hr⟩ := quoted_append_inj he
      exact ⟨rfl, hr⟩
    | null | boolean | integer | array | object => cases hshape
  | array hitems ih =>
    intro w rest rest' hw hrest hrest' he
    have hshape := h.shape_eq (.array hitems) hw he
    cases hw with
    | array hitems' =>
      obtain ⟨rfl, hr⟩ :=
        h.array_inj i _ _ rest rest' (fun v hv => ⟨hitems v hv, ih v hv⟩) hitems' he
      exact ⟨rfl, hr⟩
    | null | boolean | integer | string | object => cases hshape
  | object hmembers ih =>
    intro w rest rest' hw hrest hrest' he
    have hshape := h.shape_eq (.object hmembers) hw he
    cases hw with
    | object hmembers' =>
      obtain ⟨rfl, hr⟩ :=
        h.object_inj i _ _ rest rest' (fun m hm => ⟨hmembers m hm, ih m hm⟩) hmembers' he
      exact ⟨rfl, hr⟩
    | null | boolean | integer | string | array => cases hshape

/-- **Values with the same text are equal.** -/
theorem inj (h : IsLayout write) (hv : Integral v) (hw : Integral w) (i : ι) :
    String.ofList (write i v) = String.ofList (write i w) ↔ v = w := by
  refine ⟨fun he => ?_, fun he => he ▸ rfl⟩
  have hchars : write i v ++ [] = write i w ++ [] := by
    rw [List.append_nil, List.append_nil]
    exact String.ofList_injective he
  exact (h.readable hv i w [] [] hw .nil .nil hchars).1

end IsLayout

end Json

end TrafficGraph
