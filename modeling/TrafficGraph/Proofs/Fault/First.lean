import TrafficGraph.Proofs.Fault.Echo
import TrafficGraph.Proofs.Reading.Action

/-!
# The fault that is reported

Several things can be wrong with the texts of an action at once. A constructor looks for them one
after the other and reports the first, so what it reports is described by two things that do not
depend on each other: what can be wrong, each thing for itself, and in which order they count.
`TrafficGraph.Fault.First` puts the two together.

A chain takes the first place off the order (`TrafficGraph.Logged.first_bind`): if its first part
looks for the thing in that place and its second part for the others, it reports the fault that
counts. A constructor is a chain of such parts, and is described by taking one after the other.
-/

namespace TrafficGraph

namespace Fault

/-! ### The first of several -/

/-- **The fault that counts**, if `wrong i f` says that the thing in place `i` is wrong, with fault
`f`: it belongs to the first place where anything is wrong. -/
def First (wrong : Nat → Fault → Prop) (f : Fault) : Prop :=
  ∃ i, wrong i f ∧ ∀ j < i, ∀ g, ¬wrong j g

variable {wrong : Nat → Fault → Prop} {f : Fault}

/-- What is wrong in the first place counts, and if nothing is, the first of the others does. -/
theorem first_iff :
    First wrong f ↔
      wrong 0 f ∨ (∀ g, ¬wrong 0 g) ∧ First (fun i => wrong (i + 1)) f := by
  constructor
  · rintro ⟨i, hi, hbefore⟩
    cases i with
    | zero => exact Or.inl hi
    | succ i =>
      refine Or.inr ⟨hbefore 0 (Nat.zero_lt_succ i), i, hi, fun j hj => ?_⟩
      exact hbefore (j + 1) (Nat.succ_lt_succ hj)
  · rintro (h | ⟨hzero, i, hi, hbefore⟩)
    · exact ⟨0, h, fun j hj => absurd hj (Nat.not_lt_zero j)⟩
    · refine ⟨i + 1, hi, fun j hj => ?_⟩
      cases j with
      | zero => exact hzero
      | succ j => exact hbefore j (Nat.lt_of_succ_lt_succ hj)

/-- If anything is wrong, something counts. -/
theorem exists_first {i : Nat} (h : wrong i f) : ∃ g, First wrong g := by
  induction i generalizing wrong with
  | zero => exact ⟨f, first_iff.mpr (Or.inl h)⟩
  | succ i ih =>
    by_cases hzero : ∃ g, wrong 0 g
    · obtain ⟨g, hg⟩ := hzero
      exact ⟨g, first_iff.mpr (Or.inl hg)⟩
    · obtain ⟨g, hg⟩ := @ih (fun i => wrong (i + 1)) h
      exact ⟨g, first_iff.mpr (Or.inr ⟨not_exists.mp hzero, hg⟩)⟩

/-- What is wrong in some place is hidden by places in front of it only. -/
theorem exists_first_le {i : Nat} (h : wrong i f) : ∃ j ≤ i, ∃ g, wrong j g ∧ First wrong g := by
  obtain ⟨g, j, hj, hbefore⟩ := exists_first h
  exact ⟨j, Nat.le_of_not_lt fun hlt => hbefore i hlt f h, g, hj, j, hj, hbefore⟩

end Fault

/-! ### Chains -/

/-- **There is a value if and only if nothing is wrong**, when a computation reports the fault that
counts. -/
theorem Logged.exists_outcome_eq_ok_iff {α : Type} {x : Logged α} {wrong : Nat → Fault → Prop}
    (hx : ∀ f, x.outcome = .error f ↔ Fault.First wrong f) :
    (∃ a, x.outcome = .ok a) ↔ ∀ i f, ¬wrong i f := by
  rcases hout : x.outcome with f | a
  · obtain ⟨i, hwrong, -⟩ := (hx f).mp hout
    exact iff_of_false nofun fun h => h i f hwrong
  · -- if anything were wrong, something would count, and would be reported
    refine iff_of_true ⟨a, rfl⟩ fun i f hwrong => ?_
    obtain ⟨g, hg⟩ := Fault.exists_first hwrong
    rw [(hx g).mpr hg] at hout
    cases hout

/-- **A chain takes the first place off the order.** -/
theorem Logged.first_bind {α β : Type} {x : Logged α} {k : α → Logged β}
    {wrong : Nat → Fault → Prop} (hx : ∀ f, x.outcome = .error f ↔ wrong 0 f)
    (hk : ∀ a, x.outcome = .ok a →
      ∀ f, (k a).outcome = .error f ↔ Fault.First (fun i => wrong (i + 1)) f) (f : Fault) :
    (x >>= k).outcome = .error f ↔ Fault.First wrong f := by
  rw [outcome_bind, Fault.first_iff]
  rcases hout : x.outcome with g | a
  · -- something is wrong in the first place, so the others do not count
    have hfirst : wrong 0 f ↔ g = f := by rw [← hx f, hout, Except.error.injEq]
    dsimp only
    rw [Except.error.injEq, hfirst]
    exact ⟨Or.inl, fun h => h.resolve_right fun hothers => hothers.1 g ((hx g).mp hout)⟩
  · have hzero : ∀ g, ¬wrong 0 g := fun g hg => by
      rw [(hx g).mpr hg] at hout
      cases hout
    exact (hk a hout f).trans
      ⟨fun h => Or.inr ⟨hzero, h⟩, fun h => (h.resolve_left (hzero f)).2⟩

end TrafficGraph
