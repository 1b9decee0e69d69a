import TrafficGraph.Proofs.Reading.LetterCase

/-!
# Letter case does not matter

A node and a table of hosts can be written in any letter case: whether the node is an
action, which action it is, and which fault it has otherwise, are the same. Only the
texts that a message repeats keep the case in which they were written.

The two runs that are compared are not set side by side. Each is compared with a third
one, that of the node in lower case over the table in lower case
(`TrafficGraph.Node.inLowerCase_build`), and nodes that differ in letter case only have
that run in common.
-/

namespace TrafficGraph

open Text Logged

/-! ### One kind of action at a time -/

section Kinds

variable {r' r : Resolver} (hr : r'.InLowerCase r)

theorem Start.port?_lower (text : String) : Start.port? (lower text) = Start.port? text := by
  rw [port?, port?, Numeral.lenient_lower]

include hr in
theorem Start.inLowerCase_readProxy (text : String) :
    InLowerCase (readProxy r' (lower text)) (readProxy r text) := by
  rw [readProxy, readProxy]
  exact .ite_empty text (.pure none) (Peer.inLowerCase_read hr "socksproxy" text)

include hr in
theorem Start.inLowerCase_read (time serverPort peers proxy : String) :
    InLowerCase (read r' (lower time) (lower serverPort) (lower peers) (lower proxy))
      (read r time serverPort peers proxy) := by
  rw [read, read, Start.port?_lower, Numeral.lenient_lower]
  refine (InLowerCase.require _ _ time).bind fun _ => ?_
  refine (InLowerCase.require _ _ serverPort).bind fun _ => ?_
  refine (InLowerCase.require _ _ peers).bind fun _ => ?_
  refine (InLowerCase.orFail (.serverPort serverPort) _).bind fun port => ?_
  refine (Start.inLowerCase_readProxy hr proxy).bind fun proxy? => ?_
  refine (Pool.inLowerCase_read hr "peers" peers).bind fun pool => ?_
  split
  · exact .fail (.noUsablePeers peers)
  · exact .note_bind (.pure _)

theorem Ending.inLowerCase_readSize (text : String) :
    InLowerCase (readSize (lower text)) (readSize text) := by
  rw [readSize, readSize]
  exact .ite_empty text (.pure 0) (Size.inLowerCase_read "size" text)

theorem Ending.inLowerCase_read (time count size : String) :
    InLowerCase (read (lower time) (lower count) (lower size)) (read time count size) := by
  rw [read, read, Numeral.lenient_lower, Numeral.lenient_lower]
  exact (Ending.inLowerCase_readSize size).bind fun _ => .note_bind (.pure _)

theorem Pause.inLowerCase_read (time : String) :
    InLowerCase (read (lower time)) (read time) := by
  rw [read, read, Numeral.lenient_lower]
  exact (InLowerCase.require _ _ time).bind fun _ => .note_bind (.pure _)

theorem Transfer.inLowerCase_readWord {α : Type} {words : String → Option α}
    (hwords : ∀ s, words (lower s) = words s) (attr text : String) :
    InLowerCase (readWord attr words (lower text)) (readWord attr words text) := by
  rw [readWord, readWord, hwords]
  exact (InLowerCase.require _ attr text).bind fun _ => .orFail (.unknownWord text attr) _

include hr in
theorem Transfer.inLowerCase_readPeers (text : String) :
    InLowerCase (readPeers r' (lower text)) (readPeers r text) := by
  rw [readPeers, readPeers]
  refine .ite_empty text (.pure none) ?_
  exact (Pool.inLowerCase_read hr "peers" text).bind fun pool => .pure (some pool)

include hr in
theorem Transfer.inLowerCase_read (direction protocol size peers : String) :
    InLowerCase (read r' (lower direction) (lower protocol) (lower size) (lower peers))
      (read r direction protocol size peers) := by
  rw [read, read]
  refine (Transfer.inLowerCase_readWord Direction.ofText?_lower _ direction).bind fun d => ?_
  refine (Transfer.inLowerCase_readWord Protocol.ofText?_lower _ protocol).bind fun p => ?_
  refine (InLowerCase.require _ _ size).bind fun _ => ?_
  refine (Size.inLowerCase_read "size" size).bind fun bytes => ?_
  refine (Transfer.inLowerCase_readPeers hr peers).bind fun pool? => ?_
  exact .note_bind (.pure _)

end Kinds

/-! ### Nodes -/

/-- The node with all its texts in lower case. -/
def Node.lower (n : Node) : Node where
  kind := Text.lower n.kind
  time := Text.lower n.time
  serverport := Text.lower n.serverport
  peers := Text.lower n.peers
  socksproxy := Text.lower n.socksproxy
  count := Text.lower n.count
  size := Text.lower n.size
  direction := Text.lower n.direction
  protocol := Text.lower n.protocol

theorem Node.inLowerCase_payload {r' r : Resolver} (hr : r'.InLowerCase r) (n : Node) (k : Kind) :
    InLowerCase ((n.lower.request k).payload r') ((n.request k).payload r) := by
  cases k with
  | start =>
    exact (Start.inLowerCase_read hr n.time n.serverport n.peers n.socksproxy).bind
      fun s => .pure (Payload.start s)
  | ending =>
    exact (Ending.inLowerCase_read n.time n.count n.size).bind fun e => .pure (Payload.ending e)
  | pause => exact (Pause.inLowerCase_read n.time).bind fun p => .pure (Payload.pause p)
  | synchronize => exact .pure Payload.synchronize
  | transfer =>
    exact (Transfer.inLowerCase_read hr n.direction n.protocol n.size n.peers).bind
      fun t => .pure (Payload.transfer t)

/-- **A node in lower case is built as the node**, with its fault in lower case if it has
one. -/
theorem Node.inLowerCase_build {r' r : Resolver} (hr : r'.InLowerCase r) (n : Node) :
    InLowerCase (n.lower.build r') (n.build r) := by
  have hkind : Kind.ofText? n.lower.kind = Kind.ofText? n.kind := Kind.ofText?_lower n.kind
  rw [build, build, hkind]
  refine (InLowerCase.orFail (.unknownKind n.kind) _).bind fun k => ?_
  exact (n.inLowerCase_payload hr k).bind fun p => .pure (Action.ofPayload p)

/-! ### Tables -/

/-- A table in lower case is that of the hosts in lower case. -/
theorem HostTable.lower_ofHosts (ownName : Option String) (hosts : List (String × Address)) :
    (ofHosts ownName hosts).lower =
      ofHosts (ownName.map Text.lower) (hosts.map fun h => (Text.lower h.1, h.2)) := by
  have hadd : ∀ (t : HostTable) (name : String) (x : Address),
      (t.add name x).lower = t.lower.add (Text.lower name) x := fun t name x =>
    HostTable.ext rfl (by simp only [lower, add, Text.lower_lower])
  have hfold : ∀ t : HostTable, (hosts.foldl (fun t h => t.add h.1 h.2) t).lower =
      (hosts.map fun h => (Text.lower h.1, h.2)).foldl (fun t h => t.add h.1 h.2) t.lower := by
    induction hosts with
    | nil => exact fun t => rfl
    | cons h hosts ih =>
      intro t
      rw [List.map_cons, List.foldl_cons, List.foldl_cons, ih, hadd]
  exact hfold (empty ownName)

/-- **Letter case does not matter.** Two nodes that are the same in lower case, over two
tables of the same hosts and own name up to the case of the names, give equal actions,
or faults of one class whose messages are the same up to letter case. -/
theorem Node.build_alike {n m : Node} {name name' : Option String}
    {hosts hosts' : List (String × Address)} (hnode : n.lower = m.lower)
    (hname : name.map Text.lower = name'.map Text.lower)
    (hhosts : hosts.map (fun h => (Text.lower h.1, h.2)) =
      hosts'.map fun h => (Text.lower h.1, h.2)) :
    (∃ x, (n.build (HostTable.ofHosts name hosts).resolver).outcome = .ok x ∧
        (m.build (HostTable.ofHosts name' hosts').resolver).outcome = .ok x) ∨
      ∃ f g, (n.build (HostTable.ofHosts name hosts).resolver).outcome = .error f ∧
        (m.build (HostTable.ofHosts name' hosts').resolver).outcome = .error g ∧
        f.kind = g.kind ∧ alike f.message g.message = true := by
  have htable : (HostTable.ofHosts name hosts).lower = (HostTable.ofHosts name' hosts').lower := by
    rw [HostTable.lower_ofHosts, HostTable.lower_ofHosts, hname, hhosts]
  -- both runs are compared with that of the node in lower case, which they share
  have hn := n.inLowerCase_build (HostTable.ofHosts name hosts).inLowerCase_resolver
  have hm := m.inLowerCase_build (HostTable.ofHosts name' hosts').inLowerCase_resolver
  rw [hnode, htable] at hn
  exact hn.same hm

/-- A peer without an address is at fault under either spelling, and the two messages
differ in the letter case of the peer. -/
theorem Node.build_alike_unresolved :
    let n : Node := ⟨"START", "1", "80", "Relay:7,Mars:9", "", "", "", "", ""⟩
    let m : Node := ⟨"Start", "1", "80", "RELAY:7,mars:9", "", "", "", "", ""⟩
    let r := (HostTable.ofHosts (some "me") [("relay", ⟨10, 0, 0, 1⟩)]).resolver
    let r' := (HostTable.ofHosts (some "ME") [("Relay", ⟨10, 0, 0, 1⟩)]).resolver
    let f : Fault := .peerHost "Mars:9" "peers"
    let g : Fault := .peerHost "mars:9" "peers"
    (n.lower = m.lower ∧ (n.build r).outcome = .error f ∧ (m.build r').outcome = .error g) ∧
      f.kind = g.kind ∧ alike f.message g.message = true := by
  intro n m r r' f g
  have hf : (n.build r).outcome = .error f := by
    dsimp only [n, r, f]
    rfl
  have hg : (m.build r').outcome = .error g := by
    dsimp only [m, r', g]
    rfl
  have hnode : n.lower = m.lower := by decide
  refine ⟨⟨hnode, hf, hg⟩, ?_⟩
  have hname : (some "me").map Text.lower = (some "ME").map Text.lower := by decide
  have hhosts : [("relay", (⟨10, 0, 0, 1⟩ : Address))].map (fun h => (Text.lower h.1, h.2)) =
      [("Relay", ⟨10, 0, 0, 1⟩)].map fun h => (Text.lower h.1, h.2) := by decide
  rcases Node.build_alike hnode hname hhosts with ⟨x, hx, -⟩ | ⟨f', g', hf', hg', h⟩
  · cases hf.symm.trans hx
  · obtain rfl : f = f' := Except.error.inj (hf.symm.trans hf')
    obtain rfl : g = g' := Except.error.inj (hg.symm.trans hg')
    exact h

end TrafficGraph
