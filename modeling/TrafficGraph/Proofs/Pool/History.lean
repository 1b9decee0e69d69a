import Mathlib.Data.List.DropRight
import TrafficGraph.Action.Json
import TrafficGraph.Pool.Desk
import TrafficGraph.Proofs.Reading.Peers

/-!
# What a pool remembers

At a desk a pool is filled in two ways that differ: single peers are added as they are, lists
are read and only their usable peers kept. In between the pool is begun anew, kept as a copy,
and asked about. This module says that whatever the order, the pool is what its history says:
the peers that were brought since it was begun, in order, and the copy is the pool as it was
when it was kept last.

* `TrafficGraph.Desk.peersOf` – the peers of a history, without a pool;
* `TrafficGraph.Desk.Follows` – what holds of a desk with the history;
* `TrafficGraph.Desk.follows_history` – it does hold after any steps, also if each of them
  is taken over a resolver of its own.
-/

namespace TrafficGraph

namespace Desk

/-! ### Histories -/

/-- A step, and the resolver it is taken over. -/
abbrev Turn := Resolver × Step

/-- The step begins a new pool. -/
def Step.isReset : Step → Bool
  | .reset => true
  | _ => false

/-- The step keeps a copy. -/
def Step.isSave : Step → Bool
  | .save => true
  | _ => false

/-- The step adds a peer that is not usable. -/
def Step.addsUnusable : Step → Bool
  | .add p => !p.isUsable
  | _ => false

/-- The peers that a step brings. -/
def Step.brought (r : Resolver) : Step → List Peer
  | .add p => [p]
  | .fill attr text => Pool.accepted attr r (Text.fields ',' text)
  | _ => []

/-- The part of a history after the last new pool. -/
def sinceReset (history : List Turn) : List Turn := history.rtakeWhile fun x => !x.2.isReset

/-- The part of a history up to the last copy; nothing if no copy was kept. -/
def untilSave (history : List Turn) : List Turn := history.rdropWhile fun x => !x.2.isSave

/-- **The peers of a history**: those brought since the last new pool, in order. -/
def peersOf (history : List Turn) : List Peer :=
  (sinceReset history).flatMap fun x => x.2.brought x.1

/-- The desk after steps, each over a resolver of its own. -/
def afterEach (d : Desk) (history : List Turn) : Desk :=
  history.foldl (fun d x => (d.step x.1 x.2).desk) d

theorem afterEach_concat (d : Desk) (history : List Turn) (x : Turn) :
    d.afterEach (history ++ [x]) = ((d.afterEach history).step x.1 x.2).desk :=
  List.foldl_concat ..

/-- One resolver for all steps is a special case. -/
theorem after_eq_afterEach (r : Resolver) (d : Desk) (steps : List Step) :
    d.after r steps = d.afterEach (steps.map fun s => (r, s)) := by
  induction steps generalizing d with
  | nil => rfl
  | cons s steps ih => exact ih _

theorem peersOf_concat (history : List Turn) (x : Turn) :
    peersOf (history ++ [x]) = if x.2.isReset then [] else peersOf history ++ x.2.brought x.1 := by
  rw [peersOf, sinceReset, List.rtakeWhile_concat]
  cases x.2.isReset with
  | true => rfl
  | false =>
    rw [Bool.not_false, if_pos rfl, if_neg Bool.false_ne_true, List.flatMap_append,
      List.flatMap_singleton]
    rfl

theorem untilSave_concat (history : List Turn) (x : Turn) :
    untilSave (history ++ [x]) = if x.2.isSave then history ++ [x] else untilSave history := by
  rw [untilSave, List.rdropWhile_concat]
  cases x.2.isSave <;> rfl

/-! ### One step -/

/-- **A step does to the pool what it brings.** -/
theorem peers_current_step (r : Resolver) (d : Desk) (s : Step) :
    (d.step r s).desk.current.peers =
      if s.isReset then [] else d.current.peers ++ s.brought r := by
  cases s with
  | add p => rfl
  | fill attr text => exact Pool.peers_fillAll_eq_append_accepted _ d.current
  | reset => rfl
  | contains | save | equalsSaved | choose => exact (List.append_nil _).symm

/-- A step leaves the copy alone, unless it keeps one. -/
theorem saved_step (r : Resolver) (d : Desk) (s : Step) :
    (d.step r s).desk.saved = if s.isSave then d.current else d.saved := by
  cases s <;> rfl

/-- Keeping a copy does not change the pool. -/
theorem current_step_of_isSave (r : Resolver) (d : Desk) {s : Step} (hs : s.isSave = true) :
    (d.step r s).desk.current = d.current := by
  cases s with
  | save => rfl
  | add | fill | contains | reset | equalsSaved | choose => cases hs

/-! ### Runs -/

/-- **The pool holds the peers of its history.** -/
theorem peers_current_afterEach (history : List Turn) :
    (empty.afterEach history).current.peers = peersOf history := by
  induction history using List.reverseRecOn with
  | nil => rfl
  | append_singleton history x ih => rw [afterEach_concat, peers_current_step, peersOf_concat, ih]

/-- **The copy is the pool when it was kept last**, whatever came after. -/
theorem saved_afterEach (history : List Turn) :
    (empty.afterEach history).saved = (empty.afterEach (untilSave history)).current := by
  induction history using List.reverseRecOn with
  | nil => rfl
  | append_singleton history x ih =>
    rw [afterEach_concat, saved_step, untilSave_concat]
    split
    · rw [afterEach_concat, current_step_of_isSave _ _ ‹_›]
    · exact ih

/-- A step brings a peer that is not usable if it adds one, and in no other way. -/
theorem countP_brought (r : Resolver) (s : Step) :
    (s.brought r).countP (fun p => !p.isUsable) = if s.addsUnusable then 1 else 0 := by
  cases s with
  | add p => exact List.countP_singleton ..
  | fill attr text =>
    refine List.countP_eq_zero.mpr fun p hp => ?_
    rw [Pool.isUsable_of_mem_accepted hp]
    exact Bool.false_ne_true
  | contains | reset | save | equalsSaved | choose => rfl

/-- **Peers that are not usable are counted by the steps that added them.** -/
theorem countP_flatMap_brought (history : List Turn) :
    (history.flatMap fun x => x.2.brought x.1).countP (fun p => !p.isUsable) =
      history.countP fun x => x.2.addsUnusable := by
  induction history with
  | nil => rfl
  | cons x history ih =>
    rw [List.flatMap_cons, List.countP_append, countP_brought, ih, List.countP_cons, Nat.add_comm]

/-! ### What a desk owes to its history -/

/-- **A pick shows a member**, or nobody if there is none, whatever chooses it. -/
theorem picked_eq (pool : Pool) (choice : Choice Peer) :
    (pool.peers = [] ∧ picked pool choice = .nobody) ∨
      ∃ p ∈ pool.peers, pool.pick choice = some p ∧
        picked pool choice = if pool.peers.all (· == p) then .only p else .oneOf true := by
  rw [picked]
  rcases hpick : pool.pick choice with _ | p
  · exact Or.inl ⟨choice.pick_eq_none_iff.mp hpick, rfl⟩
  · have hp := choice.mem_of_pick hpick
    have hcontains : pool.contains p = true := List.contains_iff_mem.mpr hp
    refine Or.inr ⟨p, hp, rfl, ?_⟩
    dsimp only
    rw [hcontains]

/-- **What holds of a desk with a history.** The answers are those to a further step, over any
resolver. -/
structure Follows (d : Desk) (history : List Turn) : Prop where
  /-- The pool holds what was added, and what was accepted from lists, since it was begun. -/
  peers_eq : d.current.peers = peersOf history
  /-- Its size is the number of these peers. -/
  size_eq : d.current.size = (peersOf history).length
  /-- It is empty if there are none. -/
  isEmpty_iff : d.current.isEmpty = true ↔ peersOf history = []
  /-- Its JSON form lists their addresses and ports. -/
  toJson_eq : d.current.toJson =
    .array ((peersOf history).map fun p =>
      .object [("address", .string p.address.text), ("port", .ofNat p.port.toNat)])
  /-- A peer is in it if it is one of these. -/
  answer_contains : ∀ (r : Resolver) (p : Peer),
    (d.step r (.contains p)).answer = .truth (decide (p ∈ peersOf history))
  /-- Peers that are not usable were added as such, one for each step. -/
  countP_unusable : d.current.peers.countP (fun p => !p.isUsable) =
    (sinceReset history).countP fun x => x.2.addsUnusable
  /-- A pick answers one of the peers, or nothing if there are none, whatever chooses it. -/
  answer_choose : ∀ (r : Resolver) (choice : Choice Peer),
    (peersOf history = [] ∧ (d.step r (.choose choice)).answer = .picked .nobody) ∨
      ∃ p ∈ peersOf history, d.current.pick choice = some p ∧
        (d.step r (.choose choice)).answer =
          .picked (if (peersOf history).all (· == p) then .only p else .oneOf true)
  /-- The copy is what the pool was when it was kept last. -/
  saved_eq : d.saved = (empty.afterEach (untilSave history)).current
  /-- The pool and the copy are compared by the peers they owe to the history. -/
  answer_equalsSaved : ∀ r : Resolver,
    (d.step r .equalsSaved).answer =
      .truth (decide (peersOf history = peersOf (untilSave history)))

/-- **A desk follows its history**, whatever the steps are and whichever resolver each of them
is taken over; one resolver for all is a special case. -/
theorem follows_history :
    (∀ history : List Turn, (empty.afterEach history).Follows history) ∧
      ∀ (r : Resolver) (steps : List Step),
        (empty.after r steps).Follows (steps.map fun s => (r, s)) := by
  have heach : ∀ history : List Turn, (empty.afterEach history).Follows history := by
    intro history
    have hpeers := peers_current_afterEach history
    have hsaved := saved_afterEach history
    refine ⟨hpeers, ?_, ?_, ?_, ?_, ?_, ?_, hsaved, ?_⟩
    · rw [Pool.size, hpeers]
    · rw [Pool.isEmpty, hpeers, List.isEmpty_iff]
    · rw [Pool.toJson, hpeers]
      rfl
    · intro r p
      rw [← hpeers, ← List.contains_eq_mem]
      rfl
    · rw [hpeers, peersOf, countP_flatMap_brought]
    · intro r choice
      rw [← hpeers]
      rcases picked_eq (empty.afterEach history).current choice with ⟨hnil, h⟩ | ⟨p, hp, hpick, h⟩
      · exact Or.inl ⟨hnil, congrArg Answer.picked h⟩
      · exact Or.inr ⟨p, hp, hpick, congrArg Answer.picked h⟩
    · intro r
      rw [← hpeers, ← peers_current_afterEach (untilSave history), ← hsaved]
      refine congrArg Answer.truth (decide_eq_decide.mpr ?_)
      rw [← Pool.mk.injEq]
  refine ⟨heach, fun r steps => ?_⟩
  rw [after_eq_afterEach]
  exact heach _

end Desk

end TrafficGraph
