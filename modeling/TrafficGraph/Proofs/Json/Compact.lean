import TrafficGraph.Proofs.Json.Layout

/-!
# The compact text determines the value

The compact text of a value has no blanks and no marks but those of JSON itself, and still no two
values share one: it is a layout (`TrafficGraph.Json.isLayout_chars`), in which lists end with a
bracket or a brace that begins no item. The main statement is `TrafficGraph.Json.compact_inj`.
-/

namespace TrafficGraph

namespace Json

/-! ### Lists -/

theorem charsOfItems_eq (items : List Json) : charsOfItems items = separated chars items := by
  induction items with
  | nil => rw [charsOfItems, separated]
  | cons v items ih =>
    cases items with
    | nil => rw [charsOfItems, separated, List.flatMap_nil, List.append_nil]
    | cons w items =>
      rw [charsOfItems, ih, separated, separated, List.flatMap_cons, List.cons_append]
      exact List.cons_ne_nil w items

/-- A member of an object: its name and its value. -/
def charsOfMember (m : String × Json) : List Char := quoted m.1 ++ ([':'] ++ chars m.2)

theorem charsOfMembers_eq (members : List (String × Json)) :
    charsOfMembers members = separated charsOfMember members := by
  induction members with
  | nil => rw [charsOfMembers, separated]
  | cons m members ih =>
    cases members with
    | nil => rw [charsOfMembers, separated, List.flatMap_nil, List.append_nil, charsOfMember]; rfl
    | cons m' members =>
      have hcons : charsOfMembers (m :: m' :: members) =
          charsOfMember m ++ ',' :: charsOfMembers (m' :: members) := by
        rw [charsOfMembers, charsOfMember, List.append_assoc, List.append_assoc]
        · rfl
        · exact List.cons_ne_nil m' members
      rw [hcons, ih, separated, separated, List.flatMap_cons, List.cons_append]

/-- No member begins with what closes an object. -/
theorem charsOfMember_append_ne_brace (m : String × Json) (cs ds : List Char) :
    charsOfMember m ++ cs ≠ '\x7d' :: ds := by
  intro h
  have hquote : '"' = '\x7d' := (List.cons.inj h).1
  cases hquote

/-! ### Values -/

theorem knownByBeginning_chars : KnownByBeginning fun _ : Unit => chars where
  scalar_eq _ v hv := by
    cases v with
    | array | object => cases hv
    | null | boolean | integer | fraction | string => rw [chars] <;> exact nofun
  array_begins _ items := ⟨_, by rw [chars]⟩
  object_begins _ members := ⟨_, by rw [chars]⟩

/-- **The compact text is a layout.** -/
theorem isLayout_chars : IsLayout fun _ : Unit => chars where
  toKnownByBeginning := knownByBeginning_chars
  array_inj := by
    intro _ items items' rest rest' hitems hitems' h
    rw [chars, chars, charsOfItems_eq, charsOfItems_eq, List.cons_append, List.cons_append,
      List.append_assoc, List.append_assoc] at h
    exact separated_append_inj rfl (by decide)
      (fun v hv => knownByBeginning_chars.append_ne_cons hv rfl ())
      (fun v hv => ⟨(hitems v hv).1, (hitems v hv).2 ()⟩) hitems' (List.cons.inj h).2
  object_inj := by
    intro _ members members' rest rest' hmembers hmembers' h
    rw [chars, chars, charsOfMembers_eq, charsOfMembers_eq, List.cons_append, List.cons_append,
      List.append_assoc, List.append_assoc] at h
    exact separated_append_inj rfl (by decide) (fun m _ => charsOfMember_append_ne_brace m)
      (fun m hm => ⟨(hmembers m hm).1, readable_member [':'] ((hmembers m hm).2 ())⟩) hmembers'
      (List.cons.inj h).2

/-- **Values with the same compact text are equal.** -/
theorem compact_inj {v w : Json} (hv : Integral v) (hw : Integral w) :
    v.compact = w.compact ↔ v = w :=
  isLayout_chars.inj hv hw ()

end Json

end TrafficGraph
