import TrafficGraph.Proofs.Reading.Action
import TrafficGraph.Proofs.Text.LetterCase

/-!
# Faults in lower case

A fault repeats texts of the node, and so is not the same for a node in other letter
case. It is the same up to those texts: `TrafficGraph.Fault.lower` takes them to lower
case, which changes neither the class of the fault nor, up to letter case, its message.

`TrafficGraph.Logged.InLowerCase` compares two computations by it: the one gives what
the other gives, and fails where the other does with its fault in lower case. It goes
through chains (`TrafficGraph.Logged.InLowerCase.bind`), so whoever reads a node in the
end inherits it from the readings of its parts.
-/

namespace TrafficGraph

open Text

namespace Fault

/-- **The fault with its texts in lower case**; names of attributes are no texts of the
node. -/
def lower : Fault → Fault
  | missing action attr => missing action attr
  | serverPort text => serverPort (Text.lower text)
  | noUsablePeers peers => noUsablePeers (Text.lower peers)
  | peerShape attr => peerShape attr
  | peerPort peer attr => peerPort (Text.lower peer) attr
  | peerHost peer attr => peerHost (Text.lower peer) attr
  | sizeDigit found text attr => sizeDigit found.toLower (Text.lower text) attr
  | sizeRange text attr => sizeRange (Text.lower text) attr
  | sizeUnit unit text attr => sizeUnit (Text.lower unit) (Text.lower text) attr
  | notBoolean attr => notBoolean attr
  | unknownWord value attr => unknownWord (Text.lower value) attr
  | unknownKind kind => unknownKind (Text.lower kind)

@[simp] theorem kind_lower (f : Fault) : f.lower.kind = f.kind := by
  cases f <;> rfl

/-- A text that is set into a message is taken to lower case with it. -/
theorem lower_toString_lower (s : String) :
    Text.lower (toString (Text.lower s)) = Text.lower (toString s) :=
  lower_lower s

theorem lower_toString_toLower (c : Char) :
    Text.lower (toString c.toLower) = Text.lower (toString c) := by
  change Text.lower (String.singleton c.toLower) = Text.lower (String.singleton c)
  rw [← String.toList_inj]
  simp

/-- **The message of a fault in lower case** is that of the fault, up to letter case. -/
theorem lower_message_lower (f : Fault) : Text.lower f.lower.message = Text.lower f.message := by
  unfold message
  cases f with
  | missing | peerShape | notBoolean => rfl
  | _ =>
    dsimp only [lower]
    simp only [lower_append, lower_toString_lower, lower_toString_toLower]

/-- Faults that are the same in lower case are of one class, and their messages are alike. -/
theorem kind_and_message_of_lower_eq {f g : Fault} (h : f.lower = g.lower) :
    f.kind = g.kind ∧ alike f.message g.message = true := by
  refine ⟨?_, ?_⟩
  · rw [← kind_lower f, h, kind_lower]
  · rw [alike_iff, ← lower_message_lower f, h, lower_message_lower]

end Fault

namespace Logged

variable {α β : Type}

/-- **One computation is the other in lower case**: it gives the same value, or the
same fault in lower case. Logs are not compared. -/
def InLowerCase (x y : Logged α) : Prop := x.outcome = y.outcome.mapError Fault.lower

theorem InLowerCase.pure (a : α) : InLowerCase (pure a) (pure a) := rfl

theorem InLowerCase.fail (f : Fault) : InLowerCase (fail f.lower : Logged α) (fail f) := rfl

theorem InLowerCase.orFail (f : Fault) (a : Option α) :
    InLowerCase (orFail f.lower a) (orFail f a) := by
  cases a <;> rfl

/-- An empty text is empty in lower case, so both computations take the same branch. -/
theorem InLowerCase.ite_empty {x' x y' y : Logged α} (text : String) (hx : InLowerCase x' x)
    (hy : InLowerCase y' y) :
    InLowerCase (if Text.lower text = "" then x' else y') (if text = "" then x else y) := by
  by_cases h : text = ""
  · rw [if_pos h, if_pos (lower_eq_empty_iff.mpr h)]
    exact hx
  · rw [if_neg h, if_neg (mt lower_eq_empty_iff.mp h)]
    exact hy

theorem InLowerCase.require (k : Kind) (attr text : String) :
    InLowerCase (require k attr (Text.lower text)) (require k attr text) := by
  rw [Logged.require, Logged.require]
  exact .ite_empty text (.fail (.missing k attr)) (.pure ())

/-- **Chains keep it**: a value of the first part is the same on both sides. -/
theorem InLowerCase.bind {x y : Logged α} {f g : α → Logged β} (hxy : InLowerCase x y)
    (hfg : ∀ a, InLowerCase (f a) (g a)) : InLowerCase (x >>= f) (y >>= g) := by
  rw [InLowerCase, outcome_bind, outcome_bind, hxy]
  rcases y.outcome with e | a
  · rfl
  · exact hfg a

/-- What is logged on the way does not matter. -/
theorem InLowerCase.note_bind {e e' : Event} {f g : Unit → Logged α}
    (h : InLowerCase (f ()) (g ())) : InLowerCase (note e >>= f) (note e' >>= g) := h

/-- **What two computations with the same lower case have in common**: they give the
same value, or faults of one class with messages that are alike. -/
theorem InLowerCase.same {z x y : Logged α} (hx : InLowerCase z x) (hy : InLowerCase z y) :
    (∃ a, x.outcome = .ok a ∧ y.outcome = .ok a) ∨
      ∃ f g, x.outcome = .error f ∧ y.outcome = .error g ∧
        f.kind = g.kind ∧ alike f.message g.message = true := by
  have h : x.outcome.mapError Fault.lower = y.outcome.mapError Fault.lower := hx.symm.trans hy
  rcases hxo : x.outcome with f | a <;> rcases hyo : y.outcome with g | b <;> rw [hxo, hyo] at h
  · exact Or.inr ⟨f, g, rfl, rfl, Fault.kind_and_message_of_lower_eq (Except.error.inj h)⟩
  · cases h
  · cases h
  · exact Or.inl ⟨a, rfl, congrArg Except.ok (Except.ok.inj h).symm⟩

end Logged

end TrafficGraph
