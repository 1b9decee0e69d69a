import TrafficGraph.Proofs.Pool.Sequence
import TrafficGraph.Proofs.Reading.Action

/-!
# The order of peers

Peers are read one after the other, up to the first fault, so it depends on their order which
fault is reported, and in which order they come into a pool. This module says that nothing else
depends on it. A list is read without a fault if and only if each of its texts is sound, and what
it adds to a pool are the usable peers of its texts; neither of the two sees in which order the
texts come.

Actions are made of such lists. `TrafficGraph.Logged.Together` compares two outcomes – two values
that are related, or two faults –, and chains keep it, so it is carried from the reading of peers,
where the order is forgotten, to the action that is made. Two actions that come out of this differ
in the order of their pools at most (`TrafficGraph.Action.SameButOrder`).

`TrafficGraph.Request.order_immaterial` says so for lists as they are written, with commas.
-/

namespace TrafficGraph

/-! ### Outcomes of two computations -/

namespace Logged

variable {α β : Type} {rel : α → α → Prop} {rel' : β → β → Prop}

/-- **Two outcomes go together**: both are values, and these are related, or both are faults. -/
inductive Together (rel : α → α → Prop) : Except Fault α → Except Fault α → Prop
  /-- Two values that are related. -/
  | ok {a b : α} (h : rel a b) : Together rel (.ok a) (.ok b)
  /-- Two faults, which need not be the same. -/
  | error (f g : Fault) : Together rel (.error f) (.error g)

/-- **Chains keep it** if their second parts do, at values that are related. -/
theorem Together.bind {x y : Logged α} {k l : α → Logged β} (h : Together rel x.outcome y.outcome)
    (hkl : ∀ a b, rel a b → Together rel' (k a).outcome (l b).outcome) :
    Together rel' (x >>= k).outcome (y >>= l).outcome := by
  rw [outcome_bind, outcome_bind]
  generalize x.outcome = o at h
  generalize y.outcome = o' at h
  cases h with
  | ok h => exact hkl _ _ h
  | error f g => exact .error f g

/-- A part that two chains have in common is no matter. -/
theorem Together.bind_left (x : Logged α) {k l : α → Logged β}
    (hkl : ∀ a, Together rel' (k a).outcome (l a).outcome) :
    Together rel' (x >>= k).outcome (x >>= l).outcome := by
  rw [outcome_bind, outcome_bind]
  rcases x.outcome with f | a
  · exact .error f f
  · exact hkl a

end Logged

open Logged

/-! ### Lists of peers -/

namespace Pool

variable {attr : String} {r : Resolver} {texts texts' : List String}

/-- **Texts in another order** are read without a fault together, and add the same peers in
another order. -/
theorem together_fillAll (h : texts.Perm texts') (pool : Pool) :
    Together (fun _ _ => (fillAll attr r pool texts).pool.peers.Perm
        (fillAll attr r pool texts').pool.peers)
      (fillAll attr r pool texts).report.outcome (fillAll attr r pool texts').report.outcome := by
  -- whether all texts are sound does not depend on their order, so both lists are in one case
  by_cases hsound : ∀ text ∈ texts, Peer.Sound attr r text
  · have hsound' : ∀ text ∈ texts', Peer.Sound attr r text := fun text htext =>
      hsound text (h.mem_iff.mpr htext)
    obtain ⟨houtcome, hpeers⟩ := fillAll_of_sound hsound pool
    obtain ⟨houtcome', hpeers'⟩ := fillAll_of_sound hsound' pool
    rw [houtcome, houtcome', hpeers, hpeers']
    exact .ok ((h.filterMap _).append_left pool.peers)
  · have hnot : ¬∀ text ∈ texts', Peer.Sound attr r text := fun hsound' =>
      hsound fun text htext => hsound' text (h.mem_iff.mp htext)
    obtain ⟨f, hf⟩ := exists_outcome_fillAll_eq_error hsound pool
    obtain ⟨f', hf'⟩ := exists_outcome_fillAll_eq_error hnot pool
    rw [hf, hf']
    exact .error f f'

theorem together_read {text text' : String}
    (h : (Text.fields ',' text).Perm (Text.fields ',' text')) :
    Together (fun pool pool' => pool.peers.Perm pool'.peers)
      (read attr r text).outcome (read attr r text').outcome := by
  refine Together.bind (together_fillAll h empty) fun _ _ hperm => ?_
  exact .ok hperm

end Pool

/-! ### Actions -/

/-- **The two actions differ in the order of their pools at most**: whatever an action can be
asked for is the same, and the pools hold the same peers, each as often. -/
structure Action.SameButOrder (x y : Action) : Prop where
  /-- The kind. -/
  kind : x.kind = y.kind
  /-- The key. -/
  key : x.key = y.key
  /-- The milliseconds before the first step. -/
  startMillis? : x.startMillis? = y.startMillis?
  /-- The port served on. -/
  serverPort? : x.serverPort? = y.serverPort?
  /-- The proxy. -/
  proxy? : x.proxy? = y.proxy?
  /-- The milliseconds of a pause. -/
  pauseMillis? : x.pauseMillis? = y.pauseMillis?
  /-- The milliseconds after which a walk ends. -/
  endMillis? : x.endMillis? = y.endMillis?
  /-- The transfers after which a walk ends. -/
  endCount? : x.endCount? = y.endCount?
  /-- The bytes after which a walk ends. -/
  endSize? : x.endSize? = y.endSize?
  /-- Which way, how and how much is transferred. -/
  transferParameters? : x.transferParameters? = y.transferParameters?
  /-- The peers, in some order. -/
  peers? : Option.Rel (fun pool pool' => pool.peers.Perm pool'.peers) x.peers? y.peers?

section Reading

variable {r : Resolver} {list list' : String}
  (h : (Text.fields ',' list).Perm (Text.fields ',' list'))

include h

/-- Only the empty text has the empty text for its only field, and one field has one order. -/
theorem eq_empty_iff_of_perm : list = "" ↔ list' = "" := by
  have hempty : Text.fields ',' "" = [""] := rfl
  constructor
  · rintro rfl
    rw [hempty, List.singleton_perm, ← hempty] at h
    exact (Text.fields_inj h).symm
  · rintro rfl
    rw [hempty, List.perm_singleton, ← hempty] at h
    exact Text.fields_inj h

/-- A start needs peers to be named, and one of them to be usable; neither is a matter of
order. -/
theorem Start.together_read (time serverport proxy : String) :
    Together (fun s s' => ∃ pool, s.peers.peers.Perm pool.peers ∧ s' = { s with peers := pool })
      (Start.read r time serverport list proxy).outcome
      (Start.read r time serverport list' proxy).outcome := by
  have hnamed : Together (fun _ _ => True) (require .start "peers" list).outcome
      (require .start "peers" list').outcome := by
    rw [outcome_require, outcome_require]
    by_cases hlist : list = ""
    · rw [if_pos hlist, if_pos ((eq_empty_iff_of_perm h).mp hlist)]
      exact .error _ _
    · rw [if_neg hlist, if_neg (mt (eq_empty_iff_of_perm h).mpr hlist)]
      exact .ok trivial
  rw [Start.read, Start.read]
  refine .bind_left _ fun _ => .bind_left _ fun _ => .bind hnamed fun _ _ _ => ?_
  refine .bind_left _ fun port => .bind_left _ fun proxy? => ?_
  refine .bind (Pool.together_read h) fun pool pool' hperm => ?_
  have hempty : pool.isEmpty = pool'.isEmpty := hperm.isEmpty_eq
  rw [← hempty]
  split
  · exact .error _ _
  · exact .ok ⟨pool', hperm, rfl⟩

theorem Start.together_build (time serverport proxy : String) :
    Together Action.SameButOrder ((Request.start time serverport list proxy).build r).outcome
      ((Request.start time serverport list' proxy).build r).outcome := by
  rw [Request.build_start, Request.build_start]
  refine .bind (Start.together_read h time serverport proxy) ?_
  rintro s - ⟨pool, hperm, rfl⟩
  exact .ok ⟨rfl, rfl, rfl, rfl, rfl, rfl, rfl, rfl, rfl, rfl, .some hperm⟩

/-- A transfer may have no peers of its own, which is not a matter of order either. -/
theorem Transfer.together_readPeers :
    Together (Option.Rel fun pool pool' => pool.peers.Perm pool'.peers)
      (Transfer.readPeers r list).outcome (Transfer.readPeers r list').outcome := by
  rw [Transfer.readPeers, Transfer.readPeers]
  by_cases hlist : list = ""
  · rw [if_pos hlist, if_pos ((eq_empty_iff_of_perm h).mp hlist)]
    exact .ok .none
  · rw [if_neg hlist, if_neg (mt (eq_empty_iff_of_perm h).mpr hlist)]
    exact .bind (Pool.together_read h) fun pool pool' hperm => .ok (.some hperm)

theorem Transfer.together_read (direction protocol size : String) :
    Together (fun t t' => ∃ peers, Option.Rel (fun pool pool' => pool.peers.Perm pool'.peers)
        t.peers peers ∧ t' = { t with peers := peers })
      (Transfer.read r direction protocol size list).outcome
      (Transfer.read r direction protocol size list').outcome := by
  rw [Transfer.read, Transfer.read]
  refine .bind_left _ fun d => .bind_left _ fun p => .bind_left _ fun _ => ?_
  refine .bind_left _ fun bytes => ?_
  exact .bind (Transfer.together_readPeers h) fun peers peers' hperm => .ok ⟨peers', hperm, rfl⟩

theorem Transfer.together_build (direction protocol size : String) :
    Together Action.SameButOrder ((Request.transfer direction protocol size list).build r).outcome
      ((Request.transfer direction protocol size list').build r).outcome := by
  rw [Request.build_transfer, Request.build_transfer]
  refine .bind (Transfer.together_read h direction protocol size) ?_
  rintro t - ⟨peers, hperm, rfl⟩
  exact .ok ⟨rfl, rfl, rfl, rfl, rfl, rfl, rfl, rfl, rfl, rfl, hperm⟩

end Reading

/-! ### Lists as they are written -/

namespace Request

/-- **The order in which peers are written does not matter.** Take texts without commas, at least
one, and join them with commas in two orders. Read into a pool, the two lists go together: they
add the same peers, each as often, or they are both at fault. And so do two starts that differ in
these lists, and two transfers: they are made with everything the same but the order of the pool,
or neither is made. -/
theorem order_immaterial (r : Resolver) {texts texts' : List String} (hne : texts ≠ [])
    (hcomma : ∀ text ∈ texts, ',' ∉ text.toList) (hperm : texts.Perm texts') :
    let list := ",".intercalate texts
    let list' := ",".intercalate texts'
    (∀ (attr : String) (pool : Pool),
        Together (fun _ _ =>
            (pool.fill attr r list).pool.peers.Perm (pool.fill attr r list').pool.peers)
          (pool.fill attr r list).report.outcome (pool.fill attr r list').report.outcome) ∧
      (∀ time serverport proxy : String,
        Together Action.SameButOrder ((start time serverport list proxy).build r).outcome
          ((start time serverport list' proxy).build r).outcome) ∧
      ∀ direction protocol size : String,
        Together Action.SameButOrder ((transfer direction protocol size list).build r).outcome
          ((transfer direction protocol size list').build r).outcome := by
  intro list list'
  have hfields : Text.fields ',' list = texts := Text.fields_intercalate hne hcomma
  have hne' : texts' ≠ [] := fun h => hne (hperm.trans (List.Perm.of_eq h)).eq_nil
  have hcomma' : ∀ text ∈ texts', ',' ∉ text.toList := fun text htext =>
    hcomma text (hperm.mem_iff.mpr htext)
  have hfields' : Text.fields ',' list' = texts' := Text.fields_intercalate hne' hcomma'
  have h : (Text.fields ',' list).Perm (Text.fields ',' list') := by
    rwa [hfields, hfields']
  exact ⟨fun attr pool => Pool.together_fillAll h pool, Start.together_build h,
    Transfer.together_build h⟩

/-- Three texts that give peers, one of them twice, and two that give none, in two orders: the
pools differ, and hold the same. A text at fault spoils both orders, with a fault of its own in
each as soon as there are two of them. -/
theorem order_immaterial_five :
    let r := ((HostTable.empty (some "me")).add "relay" ⟨10, 0, 0, 1⟩).resolver
    let texts := ["relay:7", "me:1", "localhost:2", "relay:0", "relay:7"]
    let texts' := ["relay:0", "relay:7", "relay:7", "me:1", "localhost:2"]
    let list := ",".intercalate texts
    let list' := ",".intercalate texts'
    texts ≠ [] ∧ (∀ text ∈ texts, ',' ∉ text.toList) ∧ texts.Perm texts' ∧
      Together Action.SameButOrder ((start "1" "80" list "").build r).outcome
        ((start "1" "80" list' "").build r).outcome ∧
      (Pool.empty.fill "peers" r list).pool.peers =
        [⟨⟨10, 0, 0, 1⟩, 7⟩, ⟨.loopback, 2⟩, ⟨⟨10, 0, 0, 1⟩, 7⟩] ∧
      (Pool.empty.fill "peers" r list').pool.peers =
        [⟨⟨10, 0, 0, 1⟩, 7⟩, ⟨⟨10, 0, 0, 1⟩, 7⟩, ⟨.loopback, 2⟩] ∧
      ((start "1" "80" ("mars:1,x," ++ list) "").build r).outcome =
        .error (.peerHost "mars:1" "peers") ∧
      ((start "1" "80" ("x,mars:1," ++ list) "").build r).outcome =
        .error (.peerShape "peers") := by
  intro r texts texts' list list'
  have hne : texts ≠ [] := List.cons_ne_nil _ _
  have hcomma : ∀ text ∈ texts, ',' ∉ text.toList := by
    dsimp only [texts]
    decide
  have hperm : texts.Perm texts' := by
    dsimp only [texts, texts']
    decide
  obtain ⟨-, hstart, -⟩ := order_immaterial r hne hcomma hperm
  refine ⟨hne, hcomma, hperm, hstart "1" "80" "", ?_, ?_, ?_, ?_⟩ <;>
    dsimp only [r, list, list', texts, texts'] <;> rfl

end Request

end TrafficGraph
