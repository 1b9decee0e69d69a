import TrafficGraph.Proofs.Reading.Action

/-!
# Well-formed actions

Whoever walks a traffic graph takes its actions as they are: nothing checks a port or
an address again. This module says what may be taken for granted of the payload of an
action, and that every payload a constructor makes has it – whatever the resolver
answers, the reserved addresses included.

Two standards meet in a start action. Its peers can be talked to *and* have a port;
its proxy can be talked to, but its port may be zero, because a proxy is read as one
peer and never offered to a pool.

* `TrafficGraph.Payload.WellFormed` – what holds of every payload that is made;
* `TrafficGraph.Request.wellFormed_of_payload` – the constructors make nothing else.
-/

namespace TrafficGraph

/-! ### What may be taken for granted -/

/-- **A peer that can be talked to**: its address is neither of the two reserved
ones. -/
def Peer.Addressable (p : Peer) : Prop := p.address ≠ .any ∧ p.address ≠ .none

/-- **A peer fit for a pool** can be talked to and has a port. -/
structure Peer.Poolable (p : Peer) : Prop where
  /-- The address is not reserved. -/
  addressable : p.Addressable
  /-- The port is a port number, and not zero. -/
  port_bounds : 1 ≤ p.port.toNat ∧ p.port.toNat ≤ 65535

/-- What may be taken for granted of a start action. -/
structure Start.WellFormed (s : Start) : Prop where
  /-- The port served on is a port number, and not zero. -/
  serverPort_bounds : 1 ≤ s.serverPort.toNat ∧ s.serverPort.toNat ≤ 65535
  /-- There is a peer to talk to. -/
  peers_ne_nil : s.peers.peers ≠ []
  /-- Every peer is fit for a pool. -/
  peers : ∀ p ∈ s.peers.peers, p.Poolable
  /-- The proxy, if there is one, can be talked to. -/
  proxy : ∀ p, s.proxy = some p → p.Addressable

/-- What may be taken for granted of a transfer: the peers of its own, if it has a
pool, are fit for one. The pool may be empty. -/
structure Transfer.WellFormed (t : Transfer) : Prop where
  /-- Every peer is fit for a pool. -/
  peers : ∀ pool, t.peers = some pool → ∀ p ∈ pool.peers, p.Poolable

/-- **What may be taken for granted of a payload.** Only starts and transfers hold
anything that could be malformed. -/
def Payload.WellFormed : Payload → Prop
  | start s => s.WellFormed
  | transfer t => t.WellFormed
  | ending _ | pause _ | synchronize => True

/-! ### The checks of the program establish it -/

namespace Peer

theorem addressable_iff {p : Peer} : p.Addressable ↔ p.address.isUsable = true := by
  rw [Addressable, Address.isUsable, Bool.and_eq_true, bne_iff_ne, bne_iff_ne]

/-- **A usable peer is fit for a pool**, and the other way round. -/
theorem poolable_iff {p : Peer} : p.Poolable ↔ p.isUsable = true := by
  have hlt := p.port.toNat_lt
  have hzero : p.port ≠ 0 ↔ 1 ≤ p.port.toNat := by
    rw [Nat.one_le_iff_ne_zero, ne_eq, ne_eq, ← UInt16.toNat_inj]
    rfl
  rw [isUsable_iff, ← addressable_iff, hzero]
  constructor
  · rintro ⟨ha, hp, -⟩
    exact ⟨ha, hp⟩
  · rintro ⟨ha, hp⟩
    exact ⟨ha, hp, by omega⟩

end Peer

/-- A port that is accepted to serve on is not zero. -/
theorem Start.ne_zero_of_port? {text : String} {port : UInt16}
    (h : Start.port? text = some port) : port ≠ 0 := by
  rw [Start.port?, Option.filter_eq_some_iff] at h
  simpa using h.2

/-- A proxy that is read can be talked to. -/
theorem Start.isUsable_address_of_readProxy {r : Resolver} {text : String} {p : Peer}
    (h : (Start.readProxy r text).outcome = .ok (some p)) : p.address.isUsable = true := by
  rw [Start.readProxy] at h
  split at h
  · cases h
  · exact Peer.isUsable_address_of_read h

theorem Start.wellFormed_of_read {r : Resolver} {time serverPort peers proxy : String} {s : Start}
    (h : (Start.read r time serverPort peers proxy).outcome = .ok s) : s.WellFormed := by
  obtain ⟨-, hport, hproxy, hpool, hne, -⟩ := Start.read_eq_ok_iff.mp h
  have hzero := Start.ne_zero_of_port? hport
  have hlt := s.serverPort.toNat_lt
  refine ⟨⟨?_, by omega⟩, ?_, ?_, ?_⟩
  · rw [Nat.one_le_iff_ne_zero]
    exact fun hc => hzero (UInt16.toNat_inj.mp hc)
  · intro hc
    rw [Pool.isEmpty, hc] at hne
    cases hne
  · exact fun p hp => Peer.poolable_iff.mpr (Pool.isUsable_of_mem_read hpool hp)
  · intro p hp
    rw [hp] at hproxy
    exact Peer.addressable_iff.mpr (Start.isUsable_address_of_readProxy hproxy)

theorem Transfer.wellFormed_of_read {r : Resolver} {direction protocol size peers : String}
    {t : Transfer} (h : (Transfer.read r direction protocol size peers).outcome = .ok t) :
    t.WellFormed := by
  obtain ⟨-, -, -, hpool⟩ := Transfer.read_eq_ok_iff.mp h
  refine ⟨fun pool hp p hmem => ?_⟩
  rw [hp, Transfer.readPeers] at hpool
  split at hpool
  · cases hpool
  · obtain ⟨pool', hread, hpure⟩ := Logged.outcome_bind_eq_ok_iff.mp hpool
    cases hpure
    exact Peer.poolable_iff.mpr (Pool.isUsable_of_mem_read hread hmem)

/-- **Every payload that is made is well formed**, over every resolver and from any
texts. -/
theorem Request.wellFormed_of_payload {r : Resolver} {q : Request} {p : Payload}
    (h : (q.payload r).outcome = .ok p) : p.WellFormed := by
  cases q with
  | start time serverport peers socksproxy =>
    obtain ⟨s, hs, hp⟩ := Logged.outcome_bind_eq_ok_iff.mp h
    cases hp
    exact Start.wellFormed_of_read hs
  | ending time count size =>
    obtain ⟨e, -, hp⟩ := Logged.outcome_bind_eq_ok_iff.mp h
    cases hp
    trivial
  | pause time =>
    obtain ⟨e, -, hp⟩ := Logged.outcome_bind_eq_ok_iff.mp h
    cases hp
    trivial
  | synchronize =>
    cases h
    trivial
  | transfer direction protocol size peers =>
    obtain ⟨t, ht, hp⟩ := Logged.outcome_bind_eq_ok_iff.mp h
    cases hp
    exact Transfer.wellFormed_of_read ht

end TrafficGraph
