import TrafficGraph.Reading.Peers

/-!
# What the reading of peers gives

The reading of one peer logs on its way, but its outcome is a plain function of the
text and the resolver: a table of five rows, read from the top. This module states
that table, and what it means for the peers that a list leaves in a pool.

* `TrafficGraph.Resolver.addressOf` – the address that a host is taken to have,
  without the warning that goes with a missing one;
* `TrafficGraph.Peer.outcome_read` – the table;
* `TrafficGraph.Pool.accepted` – what a list adds to a pool, told without a pool: the
  texts up to the first one at fault, the peers that these give, and of them the usable
  ones;
* `TrafficGraph.Pool.isUsable_of_mem_read` – a pool that was read holds usable
  peers only, whatever the resolver answers.
-/

namespace TrafficGraph

/-! ### Outcomes of computations with a log -/

namespace Logged

variable {α β : Type}

/-- The outcome of a chain, without its log. -/
theorem outcome_bind (x : Logged α) (f : α → Logged β) :
    (x >>= f).outcome =
      match x.outcome with
      | .ok a => (f a).outcome
      | .error e => .error e := by
  obtain ⟨_ | a, es⟩ := x <;> rfl

theorem outcome_orFail (f : Fault) (x : Option α) :
    (orFail f x).outcome =
      match x with
      | some a => .ok a
      | none => .error f := by
  cases x <;> rfl

theorem outcome_orFail_eq_ok_iff {f : Fault} {x : Option α} {a : α} :
    (orFail f x).outcome = .ok a ↔ x = some a := by
  rw [outcome_orFail]
  cases x <;> simp

theorem outcome_orFail_eq_error_iff {e f : Fault} {x : Option α} :
    (orFail e x).outcome = .error f ↔ x = none ∧ e = f := by
  rw [outcome_orFail]
  cases x <;> simp

end Logged

/-! ### The address of a host -/

namespace Resolver

/-- The address that a host is taken to have: the two beginnings that need no
look-up, then the answer of the look-up, and the reserved address for "none" where
there is no answer. -/
def addressOf (r : Resolver) (host : String) : Address :=
  if Text.beginsLike "localhost" host then .loopback
  else if Text.beginsWith "0.0.0.0" host then .any
  else (r.lookup host).getD .none

/-- Locating a host never fails. -/
theorem outcome_locate (r : Resolver) (host : String) :
    (r.locate host).outcome = .ok (r.addressOf host) := by
  unfold locate addressOf
  split
  · rfl
  · split
    · rfl
    · cases r.lookup host <;> rfl

end Resolver

/-! ### One peer -/

namespace Peer

theorem isUsable_iff {p : Peer} : p.isUsable = true ↔ p.address.isUsable = true ∧ p.port ≠ 0 := by
  rw [isUsable, Bool.and_eq_true, bne_iff_ne]

/-- **The reading of a peer as a table**: a text without a colon, the name of this
host, a port that does not fit, a reserved address, and a peer, in this order. -/
theorem outcome_read (attr : String) (r : Resolver) (text : String) :
    (read attr r text).outcome =
      match Text.cut? ':' text with
      | none => .error (.peerShape attr)
      | some (host, portText) =>
        if r.isOwn host then .ok none
        else match Numeral.port? (Numeral.lenient portText) with
          | none => .error (.peerPort text attr)
          | some port =>
            if (r.addressOf host).isUsable then .ok (some ⟨r.addressOf host, port⟩)
            else .error (.peerHost text attr) := by
  unfold read
  rcases Text.cut? ':' text with _ | ⟨host, portText⟩
  · rfl
  · rw [Logged.outcome_bind, Logged.outcome_orFail]
    dsimp only
    by_cases hown : r.isOwn host
    · rw [if_pos hown, if_pos hown]
      rfl
    · rw [if_neg hown, if_neg hown, Logged.outcome_bind, Resolver.outcome_locate]
      dsimp only
      rw [Logged.outcome_bind, Logged.outcome_orFail]
      rcases Numeral.port? (Numeral.lenient portText) with _ | port
      · rfl
      · dsimp only
        split <;> rfl

/-- A peer that is read has an address that can be talked to; its port may be
zero. -/
theorem isUsable_address_of_read {attr : String} {r : Resolver} {text : String} {p : Peer}
    (h : (read attr r text).outcome = .ok (some p)) : p.address.isUsable = true := by
  rw [outcome_read] at h
  split at h
  · cases h
  · split at h
    · cases h
    · split at h
      · cases h
      · split at h
        · cases h
          assumption
        · cases h

end Peer

/-! ### A list of peers -/

namespace Pool

/-- **The peers that a list adds to a pool**: the usable ones that its texts give before the
first text at fault. A text that names this host gives none. -/
def accepted (attr : String) (r : Resolver) (texts : List String) : List Peer :=
  (((texts.map fun text => (Peer.read attr r text).outcome.toOption).takeWhile
    Option.isSome).filterMap Option.join).filter Peer.isUsable

section Accepted

variable {attr : String} {r : Resolver}

/-- Nothing is accepted from a text at fault on. -/
theorem accepted_cons_of_error {text : String} {f : Fault}
    (h : (Peer.read attr r text).outcome = .error f) (texts : List String) :
    accepted attr r (text :: texts) = [] := by
  rw [accepted, List.map_cons, h]
  rfl

theorem accepted_cons_of_ok {text : String} {p : Option Peer}
    (h : (Peer.read attr r text).outcome = .ok p) (texts : List String) :
    accepted attr r (text :: texts) = p.toList.filter Peer.isUsable ++ accepted attr r texts := by
  rw [accepted, List.map_cons, h]
  cases p with
  | none => rfl
  | some p => exact List.filter_append [p] _

/-- A pool takes what it is offered if that is usable. -/
theorem peers_offer (pool : Pool) (p : Option Peer) :
    (pool.offer p).peers = pool.peers ++ p.toList.filter Peer.isUsable := by
  cases p with
  | none => exact (List.append_nil _).symm
  | some p =>
    rw [offer, Option.toList_some, List.filter_cons]
    split
    · rfl
    · exact (List.append_nil _).symm

/-- **A list adds what is accepted of it**, whether or not it ends at a fault. -/
theorem peers_fillAll_eq_append_accepted (texts : List String) (pool : Pool) :
    (fillAll attr r pool texts).pool.peers = pool.peers ++ accepted attr r texts := by
  induction texts generalizing pool with
  | nil => exact (List.append_nil _).symm
  | cons text texts ih =>
    rw [fillAll]
    dsimp only
    rcases h : (Peer.read attr r text).outcome with f | p
    · rw [accepted_cons_of_error h]
      exact (List.append_nil _).symm
    · dsimp only
      rw [ih, peers_offer, accepted_cons_of_ok h, List.append_assoc]

/-- Only usable peers are accepted. -/
theorem isUsable_of_mem_accepted {texts : List String} {p : Peer}
    (h : p ∈ accepted attr r texts) : p.isUsable = true :=
  (List.mem_filter.mp h).2

/-- **Reading a list brings in usable peers only**, whether or not it ends at a
fault. -/
theorem mem_peers_fillAll {texts : List String} {pool : Pool} {p : Peer}
    (h : p ∈ (fillAll attr r pool texts).pool.peers) : p ∈ pool.peers ∨ p.isUsable = true := by
  rw [peers_fillAll_eq_append_accepted, List.mem_append] at h
  exact h.imp_right isUsable_of_mem_accepted

end Accepted

theorem outcome_read (attr : String) (r : Resolver) (text : String) :
    (read attr r text).outcome =
      match (empty.fill attr r text).report.outcome with
      | .ok _ => .ok (empty.fill attr r text).pool
      | .error f => .error f := by
  unfold read
  rw [Logged.outcome_bind]
  cases (empty.fill attr r text).report.outcome <;> rfl

/-- A pool that is read is the one that the list was read into. -/
theorem outcome_read_eq_ok_iff {attr : String} {r : Resolver} {text : String} {pool : Pool} :
    (read attr r text).outcome = .ok pool ↔
      (empty.fill attr r text).report.outcome = .ok () ∧
        pool = (empty.fill attr r text).pool := by
  rw [outcome_read]
  rcases (empty.fill attr r text).report.outcome with f | u
  · simp
  · simp [eq_comm]

/-- **A pool that was read holds usable peers only.** -/
theorem isUsable_of_mem_read {attr : String} {r : Resolver} {text : String} {pool : Pool}
    (h : (read attr r text).outcome = .ok pool) {p : Peer} (hp : p ∈ pool.peers) :
    p.isUsable = true := by
  rw [outcome_read] at h
  split at h
  · cases h
    rcases mem_peers_fillAll hp with hp | hp
    · cases hp
    · exact hp
  · cases h

end Pool

end TrafficGraph
