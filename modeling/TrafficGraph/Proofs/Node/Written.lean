import TrafficGraph.Proofs.Action.WellFormed
import TrafficGraph.Proofs.Reading.Written

/-!
# Actions are read back from the nodes they are written as

An action can be written as a node again: its kind and its words by name, its numbers
in decimal, its peers and its proxy with dotted addresses. Reading that node gives the
same payload, over *any* resolver that knows dotted addresses, whichever resolver the
action was made over.

Two things are lost in writing. A peer whose address is the text of this host's own
name is left out, or takes the proxy away; and a transfer with a pool of no peers is
written like a transfer without a pool. Both are excluded in the main statement,
`TrafficGraph.Node.build_ofPayload`; nothing else is.
-/

namespace TrafficGraph

/-! ### Writing -/

/-- The written form of an optional peer; none is the empty text. -/
def Peer.textOrEmpty (p : Option Peer) : String := (p.map Peer.text).getD ""

/-- The written form of an optional pool; none is the empty text. -/
def Pool.textOrEmpty (pool : Option Pool) : String := (pool.map Pool.text).getD ""

/-- The node of a kind without attributes. -/
def Node.bare (k : Kind) : Node := ⟨k.name, "", "", "", "", "", "", "", ""⟩

/-- **The node that a payload is written as.** -/
def Node.ofPayload (p : Payload) : Node :=
  let n := { bare p.kind with peers := Pool.textOrEmpty p.peers? }
  match p with
  | .start s =>
    { n with
      time := s.time.toNat.repr
      serverport := s.serverPort.toNat.repr
      socksproxy := Peer.textOrEmpty s.proxy }
  | .ending e =>
    { n with time := e.time.toNat.repr, count := e.count.toNat.repr, size := e.size.toNat.repr }
  | .pause p => { n with time := p.time.toNat.repr }
  | .synchronize => n
  | .transfer t =>
    { n with
      direction := t.parameters.direction.name
      protocol := t.parameters.protocol.name
      size := t.parameters.size.toNat.repr }

/-- The peers that are written with a payload, the proxy of a start included. -/
def Payload.endpoints (p : Payload) : List Peer :=
  ((p.peers?.map Pool.peers).getD []) ++
    match p with
    | .start s => s.proxy.toList
    | _ => []

/-! ### Words -/

theorem Kind.ofText?_name (k : Kind) : ofText? k.name = some k := by
  cases k <;> rfl

theorem Direction.ofText?_name (d : Direction) : ofText? d.name = some d := by
  cases d <;> rfl

theorem Protocol.ofText?_name (p : Protocol) : ofText? p.name = some p := by
  cases p <;> rfl

/-! ### One kind of action at a time -/

section Kinds

variable {r : Resolver}

theorem Start.outcome_readProxy_text (hr : r.ReadsDotted) (proxy : Option Peer)
    (hproxy : ∀ p, proxy = some p → p.address.isUsable = true ∧ r.ownName ≠ some p.address.text) :
    (readProxy r (Peer.textOrEmpty proxy)).outcome = .ok proxy := by
  rcases proxy with _ | p
  · rfl
  · obtain ⟨husable, hown⟩ := hproxy p rfl
    rw [Peer.textOrEmpty, Option.map_some, Option.getD_some, readProxy, if_neg p.text_ne_empty]
    exact Peer.outcome_read_text "socksproxy" hr hown husable

/-- **A start is read back**: its pool has peers, so it is not written as the empty
text. -/
theorem Start.outcome_read_written (hr : r.ReadsDotted) {s : Start} (hs : s.WellFormed)
    (hown : ∀ p ∈ (Payload.start s).endpoints, r.ownName ≠ some p.address.text) :
    (read r s.time.toNat.repr s.serverPort.toNat.repr s.peers.text
      (Peer.textOrEmpty s.proxy)).outcome = .ok s := by
  have hport : Start.port? s.serverPort.toNat.repr = some s.serverPort := by
    rw [Start.port?, Numeral.port?_lenient_repr, Option.filter_eq_some_iff]
    refine ⟨rfl, ?_⟩
    have hpos := hs.serverPort_bounds.1
    rw [bne_iff_ne]
    intro h
    rw [h] at hpos
    cases hpos
  have hproxy := Start.outcome_readProxy_text hr s.proxy fun p hp => by
    refine ⟨Peer.addressable_iff.mp (hs.proxy p hp), hown p (List.mem_append_right _ ?_)⟩
    exact Option.mem_toList.mpr hp
  have hpool := Pool.outcome_read_text "peers" hr hs.peers_ne_nil
    (fun p hp => hown p (List.mem_append_left _ hp))
    (fun p hp => Peer.poolable_iff.mp (hs.peers p hp))
  have hne : s.peers.isEmpty = false := List.isEmpty_eq_false_iff.mpr hs.peers_ne_nil
  exact Start.read_eq_ok_iff.mpr
    ⟨⟨Numeral.repr_ne_empty _, Numeral.repr_ne_empty _, Pool.text_ne_empty hs.peers_ne_nil⟩,
      hport, hproxy, hpool, hne, (Numeral.lenient_repr_toNat s.time).symm⟩

theorem Ending.outcome_read_written (e : Ending) :
    (read e.time.toNat.repr e.count.toNat.repr e.size.toNat.repr).outcome = .ok e := by
  refine Ending.read_eq_ok_iff.mpr
    ⟨?_, (Numeral.lenient_repr_toNat _).symm, (Numeral.lenient_repr_toNat _).symm⟩
  rw [Ending.readSize, if_neg (Numeral.repr_ne_empty _)]
  exact Size.outcome_read_repr "size" e.size

theorem Pause.outcome_read_written (p : Pause) : (read p.time.toNat.repr).outcome = .ok p :=
  Pause.read_eq_ok_iff.mpr ⟨Numeral.repr_ne_empty _, (Numeral.lenient_repr_toNat _).symm⟩

/-- The peers of a transfer are read back, unless there is a pool and it is empty. -/
theorem Transfer.outcome_readPeers_text (hr : r.ReadsDotted) {pool? : Option Pool}
    (hempty : pool? ≠ some .empty)
    (hpool : ∀ pool, pool? = some pool →
      ∀ p ∈ pool.peers, p.isUsable = true ∧ r.ownName ≠ some p.address.text) :
    (readPeers r (Pool.textOrEmpty pool?)).outcome = .ok pool? := by
  rcases pool? with _ | pool
  · rfl
  · -- a pool that is written as the empty text would be read as no pool
    have hne : pool.peers ≠ [] := by
      intro h
      obtain ⟨ps⟩ := pool
      obtain rfl : ps = [] := h
      exact hempty rfl
    have hread := Pool.outcome_read_text "peers" hr hne (fun p hp => (hpool pool rfl p hp).2)
      fun p hp => (hpool pool rfl p hp).1
    rw [Pool.textOrEmpty, Option.map_some, Option.getD_some, readPeers,
      if_neg (Pool.text_ne_empty hne), Logged.outcome_bind, hread]
    rfl

theorem Transfer.outcome_read_written (hr : r.ReadsDotted) {t : Transfer} (ht : t.WellFormed)
    (hempty : t.peers ≠ some .empty)
    (hown : ∀ p ∈ (Payload.transfer t).endpoints, r.ownName ≠ some p.address.text) :
    (read r t.parameters.direction.name t.parameters.protocol.name t.parameters.size.toNat.repr
      (Pool.textOrEmpty t.peers)).outcome = .ok t := by
  have hpool := Transfer.outcome_readPeers_text hr hempty fun pool hp p hmem => by
    refine ⟨Peer.poolable_iff.mp (ht.peers pool hp p hmem), hown p (List.mem_append_left _ ?_)⟩
    rw [Payload.peers?, hp]
    exact hmem
  refine Transfer.read_eq_ok_iff.mpr ⟨⟨?_, Direction.ofText?_name _⟩, ⟨?_, Protocol.ofText?_name _⟩,
    ⟨Numeral.repr_ne_empty _, Size.outcome_read_repr "size" _⟩, hpool⟩
  · cases t.parameters.direction <;> decide
  · cases t.parameters.protocol <;> decide

end Kinds

/-! ### All kinds together -/

/-- **Asking for what was written gives the payload back.** -/
theorem Payload.outcome_request_ofPayload {r : Resolver} (hr : r.ReadsDotted) {p : Payload}
    (hp : p.WellFormed) (hempty : ∀ t, p = .transfer t → t.peers ≠ some .empty)
    (hown : ∀ q ∈ p.endpoints, r.ownName ≠ some q.address.text) :
    (((Node.ofPayload p).request p.kind).payload r).outcome = .ok p := by
  cases p with
  | start s =>
    exact Logged.outcome_bind_eq_ok_iff.mpr ⟨s, Start.outcome_read_written hr hp hown, rfl⟩
  | ending e =>
    exact Logged.outcome_bind_eq_ok_iff.mpr ⟨e, e.outcome_read_written, rfl⟩
  | pause p =>
    exact Logged.outcome_bind_eq_ok_iff.mpr ⟨p, p.outcome_read_written, rfl⟩
  | synchronize => rfl
  | transfer t =>
    exact Logged.outcome_bind_eq_ok_iff.mpr
      ⟨t, Transfer.outcome_read_written hr hp (hempty t rfl) hown, rfl⟩

theorem Node.kind_ofPayload (p : Payload) : (ofPayload p).kind = p.kind.name := by
  cases p <;> rfl

/-- **Actions are read back from the nodes they are written as.** Both resolvers of the
program know dotted addresses. Over every resolver that does, what an action of any
request over any resolver is written as is built again, with the same payload and no
key – unless a peer of it has this host's own name for its address, or it is a transfer
with a pool of no peers. -/
theorem Node.build_ofPayload :
    (∀ t : HostTable, t.resolver.ReadsDotted) ∧
      (∀ ownName network, (Resolver.system ownName network).ReadsDotted) ∧
      ∀ {r r' : Resolver} {q : Request} {x : Action}, r.ReadsDotted →
        (q.build r').outcome = .ok x →
        (∀ p ∈ x.payload.endpoints, r.ownName ≠ some p.address.text) →
        (∀ t, x.payload = .transfer t → t.peers ≠ some .empty) →
        ((ofPayload x.payload).build r).outcome = .ok ⟨x.payload, none⟩ := by
  refine ⟨HostTable.readsDotted_resolver, Resolver.readsDotted_system, ?_⟩
  intro r r' q x hr hx hown hempty
  -- what was made is well formed, so neither the ports nor the addresses can be at fault
  have hwf := Request.wellFormed_of_payload (Request.build_eq_ok_iff.mp hx).1
  have hread := Payload.outcome_request_ofPayload hr hwf hempty hown
  refine build_eq_ok_iff.mpr ⟨x.payload.kind, ?_, Request.build_eq_ok_iff.mpr ⟨hread, rfl⟩⟩
  rw [kind_ofPayload, Kind.ofText?_name]

/-- An action that was made over a table is read back over a network that knows no
names, by the host whose name the table gave. -/
theorem Node.build_ofPayload_start :
    let table := (HostTable.empty none).add "relay" ⟨10, 0, 0, 1⟩
    let bare := Resolver.system (some "relay") fun _ => none
    let x : Payload :=
      .start ⟨1, 80, some ⟨⟨10, 0, 0, 1⟩, 0⟩, ⟨[⟨⟨10, 0, 0, 1⟩, 7⟩, ⟨⟨127, 0, 0, 1⟩, 65535⟩]⟩⟩
    ((Request.start "01 s" "80" "relay:7,LOCALHOST:65535,relay:0" "Relay:").build
        table.resolver).outcome = .ok ⟨x, none⟩ ∧
      ofPayload x =
        ⟨"start", "1", "80", "10.0.0.1:7,127.0.0.1:65535", "10.0.0.1:0", "", "", "", ""⟩ ∧
      ((ofPayload x).build bare).outcome = .ok ⟨x, none⟩ := by
  intro table bare x
  have hmade : ((Request.start "01 s" "80" "relay:7,LOCALHOST:65535,relay:0" "Relay:").build
      table.resolver).outcome = .ok ⟨x, none⟩ := rfl
  have hown : ∀ p ∈ x.endpoints, bare.ownName ≠ some p.address.text := by decide
  have hdotted := build_ofPayload.2.1 (some "relay") fun _ => none
  have hread := build_ofPayload.2.2 hdotted hmade hown fun t ht => by cases ht
  exact ⟨hmade, by decide, hread⟩

end TrafficGraph
