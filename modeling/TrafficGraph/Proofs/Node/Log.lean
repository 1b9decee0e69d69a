import TrafficGraph.Node
import TrafficGraph.Proofs.Reading.Action
import TrafficGraph.Proofs.Reading.Log

/-!
# The log tells the truth

Asking for an action gives a log beside the result, and who operates a host may have
nothing but the log. This module says how far it can be trusted: what was made, and that
something was made at all, can be read off its last event, and the pools can be put
together from the peers that it names.

The four kinds of action that are read have one proof: their parts are steps on the way
(`TrafficGraph.Logged.Inner`), and the announcement of a payload
(`TrafficGraph.Payload.creation?`) closes their log. The main statement is
`TrafficGraph.Request.log_tells_result`.
-/

namespace TrafficGraph

open Logged

/-- The event that announces a payload, with its values and the size of its pool. A meeting
of walks has no values and is not announced. -/
def Payload.creation? : Payload → Option Event
  | start s => some (.madeStart s.time s.serverPort s.peers.size s.proxy)
  | ending e => some (.madeEnding e.time e.count e.size)
  | pause p => some (.madePause p.time)
  | transfer t =>
    some (.madeTransfer t.parameters.direction t.parameters.protocol t.parameters.size
      ((t.peers.map Pool.size).getD 0))
  | synchronize => none

theorem Payload.creation?_isCreation {p : Payload} {e : Event} (h : p.creation? = some e) :
    e.isCreation = true ∧ e.isWarning = false := by
  cases p <;> cases h <;> exact ⟨rfl, rfl⟩

/-- **What a log shows of an action**: the message that announces it, and its values by name. A
meeting of walks is not announced. -/
def Payload.announcement? : Payload → Option (String × List (String × String))
  | start s =>
    some ("Created start action",
      [("time", s.time.toNat.repr), ("server_port", s.serverPort.toNat.repr),
        ("peers", s.peers.peers.length.repr), ("socks_proxy", Event.proxyText s.proxy)])
  | ending e =>
    some ("Created end action",
      [("time", e.time.toNat.repr), ("count", e.count.toNat.repr), ("size", e.size.toNat.repr)])
  | pause p => some ("Created pause action", [("time", p.time.toNat.repr)])
  | transfer t =>
    some ("Created transfer action",
      [("transfer_type", t.parameters.direction.name), ("protocol", t.parameters.protocol.name),
        ("size", t.parameters.size.toNat.repr),
        ("peers", (match t.peers with
          | some pool => pool.peers.length
          | none => 0).repr)])
  | synchronize => none

/-- The event that announces a payload shows it. -/
theorem Payload.announcement?_eq {p : Payload} {e : Event} (h : p.creation? = some e) :
    p.announcement? = some (e.message, e.fields) := by
  rcases p with s | e | p | _ | ⟨parameters, _ | pool⟩ <;> cases h <;> rfl

/-! ### One kind of action at a time -/

theorem Start.closedBy_read (r : Resolver) (time serverPort peers proxy : String) :
    (read r time serverPort peers proxy).ClosedBy fun s => (Payload.start s).creation? := by
  rw [read]
  refine .bind (.require _ _ _) fun _ => .bind (.require _ _ _) fun _ =>
    .bind (.require _ _ _) fun _ => .bind (.orFail _ _) fun port => ?_
  have hproxy : (readProxy r proxy).Inner := by
    rw [readProxy]
    split
    · exact .pure none
    · exact (Peer.reading_read _ r proxy).inner
  refine .bind hproxy fun proxy? => .bind (Pool.inner_read _ r peers) fun pool => ?_
  split
  · exact .fail _
  · exact .announce rfl

theorem Ending.closedBy_read (time count size : String) :
    (read time count size).ClosedBy fun e => (Payload.ending e).creation? := by
  have hsize : (readSize size).Inner := by
    rw [readSize]
    split
    · exact .pure 0
    · exact Size.inner_read _ size
  rw [read]
  exact .bind hsize fun bytes => .announce rfl

theorem Pause.closedBy_read (time : String) :
    (read time).ClosedBy fun p => (Payload.pause p).creation? := by
  rw [read]
  exact .bind (.require _ _ _) fun _ => .announce rfl

theorem Transfer.inner_readWord {α : Type} (attr : String) (words : String → Option α)
    (text : String) : (readWord attr words text).Inner := by
  rw [readWord]
  exact .bind (.require _ _ _) fun _ => Inner.orFail _ _

theorem Transfer.closedBy_read (r : Resolver) (direction protocol size peers : String) :
    (read r direction protocol size peers).ClosedBy fun t => (Payload.transfer t).creation? := by
  have hpeers : (readPeers r peers).Inner := by
    rw [readPeers]
    split
    · exact .pure none
    · exact .bind (Pool.inner_read _ r peers) fun pool => Inner.pure (some pool)
  rw [read]
  refine .bind (inner_readWord _ _ _) fun d => .bind (inner_readWord _ _ _) fun p =>
    .bind (.require _ _ _) fun _ => .bind (Size.inner_read _ size) fun bytes => ?_
  exact .bind hpeers fun pool? => .announce rfl

/-! ### Requests -/

namespace Request

/-- **The log of a request** is closed by the announcement of what was made. -/
theorem closedBy_build (r : Resolver) (q : Request) :
    (q.build r).ClosedBy fun x => x.payload.creation? := by
  have hpayload : (q.payload r).ClosedBy Payload.creation? := by
    cases q with
    | start => exact .map (Start.closedBy_read ..)
    | ending => exact .map (Ending.closedBy_read ..)
    | pause => exact .map (Pause.closedBy_read ..)
    | synchronize => exact ⟨[], [], rfl, by simp, .value Payload.synchronize⟩
    | transfer => exact .map (Transfer.closedBy_read ..)
  exact .map hpayload

/-- What is made is announced, unless it is a meeting of walks. -/
theorem exists_creation? {r : Resolver} {q : Request} (hq : q ≠ .synchronize) {x : Action}
    (hx : (q.build r).outcome = .ok x) : ∃ e, x.payload.creation? = some e := by
  have hpayload := (build_eq_ok_iff.mp hx).1
  cases q with
  | synchronize => exact absurd rfl hq
  | start | ending | pause | transfer =>
    obtain ⟨_, -, h⟩ := outcome_bind_eq_ok_iff.mp hpayload
    rw [← Except.ok.inj h]
    exact ⟨_, rfl⟩

/-- **The log of a constructor tells the truth about its result.** A constructor that gives
an action announces it once, by its last event, which shows the values of the action; at a fault
nothing is announced. There is at most one warning, about a host without an address, and
then it is the last event and the fault is one of content. And every list of peers,
whether or not it ends at a fault, leaves the pool with the peers it held before and then
others, in order. These are the peers that the log shows, without those that have no port, and no
other peers are shown like this. -/
theorem log_tells_result (r : Resolver) :
    (∀ (q : Request) (x : Action), q ≠ .synchronize → (q.build r).outcome = .ok x →
        ∃ e, x.payload.announcement? = some (e.message, e.fields) ∧
          (q.build r).events.filter Event.isCreation = [e] ∧
          (q.build r).events.getLast? = some e) ∧
      (∀ (q : Request) (f : Fault), (q.build r).outcome = .error f →
        (q.build r).events.filter Event.isCreation = []) ∧
      (∀ q : Request, (q.build r).WarnsLast) ∧
      ∀ (attr text : String) (pool : Pool),
        (pool.fill attr r text).report.WarnsLast ∧
          ∃ added : List Peer, (pool.fill attr r text).pool.peers = pool.peers ++ added ∧
            ∀ peers : List Peer, peers.map Peer.shown =
              Event.shownPeers (pool.fill attr r text).report.events ↔ peers = added := by
  refine ⟨?_, ?_, ?_, ?_⟩
  · intro q x hq hx
    obtain ⟨e, he⟩ := exists_creation? hq hx
    exact ⟨e, Payload.announcement?_eq he, (q.closedBy_build r).filter_isCreation_of_ok hx he
      (Payload.creation?_isCreation he).1⟩
  · exact fun q f hf => (q.closedBy_build r).filter_isCreation_of_error hf
  · exact fun q => (q.closedBy_build r).warnsLast fun x e he =>
      (Payload.creation?_isCreation he).2
  · intro attr text pool
    have hinner := Pool.inner_report_fillAll attr r (Text.fields ',' text) pool
    refine ⟨ClosedBy.warnsLast hinner fun _ _ h => (Option.some_ne_none _ h.symm).elim,
      Event.peersWithPort (pool.fill attr r text).report.events,
      Pool.peers_fillAll attr r (Text.fields ',' text) pool, fun peers => ?_⟩
    rw [Event.shownPeers_eq_map]
    exact Peer.map_shown_inj

/-- The fourth peer of this list has no address, and the last event says so. The peer before it that
has a port is in the pool, behind the one that was there, and is shown in the log; the one without a
port is in the log only. As peers of a start they make none, with the same last event; the first two
of them do, and the announcement counts one. -/
theorem log_tells_result_of_unresolved :
    let r := ((HostTable.empty (some "me")).add "relay" ⟨10, 0, 0, 1⟩).resolver
    let old : Peer := ⟨⟨10, 0, 0, 9⟩, 1⟩
    let new : Peer := ⟨⟨10, 0, 0, 1⟩, 7⟩
    let list := "relay:7,relay:0,me:1,mars:2,relay:8"
    let filled := Pool.fill "peers" r ⟨[old]⟩ list
    let failing : Request := .start "1" "80" list ""
    let start : Request := .start "1" "80" "relay:7,relay:0" "relay:0"
    let shown (e : Event) : String × List (String × String) := (e.message, e.fields)
    (filled.report.outcome = .error (.peerHost "mars:2" "peers") ∧
        filled.report.events.map shown =
          [("Parsed peer", [("address", "10.0.0.1"), ("port", "7"), ("peer", "relay:7")]),
            ("Parsed peer", [("address", "10.0.0.1"), ("port", "0"), ("peer", "relay:0")]),
            ("Refusing to place my address in server pool",
              [("attribute", "peers"), ("host", "me")]),
            ("Error resolving host address", [("host", "mars")])] ∧
        filled.pool.peers = [old, new]) ∧
      ((failing.build r).outcome = .error (.peerHost "mars:2" "peers") ∧
        (failing.build r).events.filter Event.isCreation = [] ∧ (failing.build r).WarnsLast) ∧
      (start.build r).events.getLast?.map shown =
        some ("Created start action",
          [("time", "1"), ("server_port", "80"), ("peers", "1"),
            ("socks_proxy", "Some(Peer \x7b address: 10.0.0.1, port: 0 \x7d)")]) := by
  intro r old new list filled failing start shown
  obtain ⟨hmade, hfault, hwarns, hpool⟩ := log_tells_result r
  have hreport : filled.report.outcome = .error (.peerHost "mars:2" "peers") ∧
      filled.report.events = [.readPeer new "relay:7", .readPeer { new with port := 0 } "relay:0",
        .ownHost "peers" "me", .unresolved "mars"] := by
    dsimp only [filled, r, old, new, list]
    exact ⟨rfl, rfl⟩
  have hfailing : (failing.build r).outcome = .error (.peerHost "mars:2" "peers") := by
    dsimp only [failing, r, list]
    rfl
  have hstart : (start.build r).outcome =
      .ok ⟨.start ⟨1, 80, some { new with port := 0 }, ⟨[new]⟩⟩, none⟩ := by
    dsimp only [start, r, new]
    rfl
  obtain ⟨added, hadded, hshown⟩ := (hpool "peers" list ⟨[old]⟩).2
  have hnew : [new].map Peer.shown = Event.shownPeers filled.report.events := by
    rw [hreport.2]
    dsimp only [new]
    decide
  obtain ⟨e, he, -, hlast⟩ := hmade start _ nofun hstart
  have hpeers : [new] = added := (hshown [new]).mp hnew
  refine ⟨⟨hreport.1, ?_, hadded.trans (congrArg (old :: ·) hpeers.symm)⟩,
    ⟨hfailing, hfault failing _ hfailing, hwarns failing⟩, ?_⟩
  · rw [hreport.2]
    dsimp only [shown, new]
    decide
  · rw [hlast]
    refine he.symm.trans ?_
    dsimp only [new]
    decide

end Request

end TrafficGraph
