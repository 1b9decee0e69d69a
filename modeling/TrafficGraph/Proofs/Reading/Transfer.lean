import TrafficGraph.Proofs.Reading.Size
import TrafficGraph.Proofs.Reading.Start

/-!
# When a transfer is made, and what is reported otherwise

A transfer takes its attributes one after the other: the direction, the protocol, the size, and
the peers if it has any of its own. What is asked of the four texts is
`TrafficGraph.Transfer.Complete`, what becomes of them `TrafficGraph.Transfer.MadeOf`, and what can
be wrong with them `TrafficGraph.Transfer.Wrong`.

The order of the places is where transfers and starts differ. A start asks for all its attributes
before it looks into any of them, so that a missing one hides a bad one in front of it. A transfer
is done with an attribute before it comes to the next, so each of the first three has two places
side by side, for being missing and for being no word or no size. The two exclude each other only
because the place of the missing text comes first: the empty text is no word either.

`TrafficGraph.Transfer.build_settles` says when a transfer is made, what it is then, and which
fault is reported otherwise. A text of peers that leaves no peer is not the same as no text: the
one gives a pool without peers, the other gives no pool.
-/

namespace TrafficGraph

open Logged

/-! ### Words from a closed set -/

section Words

variable {α : Type} {all : List α} {name : α → String}

/-- **A word is looked up by its lower case.** -/
theorem Text.find?_alike_eq_some_iff (hall : ∀ a, a ∈ all)
    (hlower : ∀ a, Text.lower (name a) = name a) (hinj : ∀ a b, name a = name b → a = b)
    {text : String} {a : α} :
    (all.find? fun b => Text.alike (name b) text) = some a ↔ Text.lower text = name a := by
  have halike : ∀ b, Text.alike (name b) text = true ↔ Text.lower text = name b := fun b => by
    rw [Text.alike_iff, hlower, eq_comm]
  constructor
  · intro h
    have hfound := List.find?_some h
    exact (halike a).mp hfound
  · intro h
    rcases hfind : all.find? fun b => Text.alike (name b) text with _ | b
    · exact absurd ((halike a).mpr h) (List.find?_eq_none.mp hfind a (hall a))
    · have hfound := List.find?_some hfind
      rw [hinj a b (h.symm.trans ((halike b).mp hfound))]

end Words

theorem Direction.ofText?_eq_some_iff {text : String} {d : Direction} :
    ofText? text = some d ↔ Text.lower text = d.name :=
  Text.find?_alike_eq_some_iff (fun d => by cases d <;> decide) (fun d => by cases d <;> rfl)
    fun d e => by cases d <;> cases e <;> decide

theorem Protocol.ofText?_eq_some_iff {text : String} {p : Protocol} :
    ofText? text = some p ↔ Text.lower text = p.name :=
  Text.find?_alike_eq_some_iff (fun p => by cases p <;> decide) (fun p => by cases p <;> rfl)
    fun p q => by cases p <;> cases q <;> decide

/-- Whatever is wrong with a byte count is a fault of the content of its attribute. -/
theorem Size.kind_and_attribute?_of_outcome_read_eq_error {attr text : String} {f : Fault}
    (h : (read attr text).outcome = .error f) :
    f.kind = .invalidContent ∧ f.attribute? = some attr := by
  rcases denotes_or_rejects attr text with ⟨w, hw⟩ | ⟨g, hg⟩
  · cases (outcome_read_of_denotes hw).symm.trans h
  · obtain rfl : g = f := Except.error.inj ((outcome_read_of_rejects hg).symm.trans h)
    refine ⟨hg.kind_eq, ?_⟩
    cases hg <;> rfl

namespace Transfer

/-! ### What is asked of the texts, and what can be wrong with them -/

section Texts

variable (r : Resolver) (direction protocol size peers : String)

/-- **What is asked of the texts of a transfer.** -/
structure Complete : Prop where
  /-- The direction is one, in any letter case. -/
  direction : ∃ d : Direction, Text.lower direction = d.name
  /-- So is the protocol. -/
  protocol : ∃ p : Protocol, Text.lower protocol = p.name
  /-- There is a size. -/
  size_ne : size ≠ ""
  /-- The size is a byte count. -/
  size : ∃ bytes, (Size.read "size" size).outcome = .ok bytes
  /-- The peers can be read, if there are any. -/
  peers : peers = "" ∨ (Pool.empty.fill "peers" r peers).report.outcome = .ok ()

/-- **What becomes of the texts.** -/
structure MadeOf (t : Transfer) : Prop where
  /-- The direction is the one that is named. -/
  direction_eq : Text.lower direction = t.parameters.direction.name
  /-- So is the protocol. -/
  protocol_eq : Text.lower protocol = t.parameters.protocol.name
  /-- The size is read as a byte count. -/
  outcome_size : (Size.read "size" size).outcome = .ok t.parameters.size
  /-- There is no pool if and only if there is no text for it. -/
  peers_eq_none_iff : t.peers = none ↔ peers = ""
  /-- The peers are those that are left of the list, which may be none. -/
  peers_eq : peers ≠ "" → t.peers = some (Pool.empty.fill "peers" r peers).pool

/-- **What can be wrong with the texts of a transfer**, each thing with its place in the order in
which they count. -/
inductive Wrong : Nat → Fault → Prop
  /-- There is no direction. -/
  | noDirection (h : direction = "") : Wrong 0 (.missing .transfer "type")
  /-- The direction is none. -/
  | direction (h : ∀ d : Direction, Text.lower direction ≠ d.name) :
    Wrong 1 (.unknownWord direction "type")
  /-- There is no protocol. -/
  | noProtocol (h : protocol = "") : Wrong 2 (.missing .transfer "protocol")
  /-- The protocol is none. -/
  | protocol (h : ∀ p : Protocol, Text.lower protocol ≠ p.name) :
    Wrong 3 (.unknownWord protocol "protocol")
  /-- There is no size. -/
  | noSize (h : size = "") : Wrong 4 (.missing .transfer "size")
  /-- The size is at fault. -/
  | size {f : Fault} (h : (Size.read "size" size).outcome = .error f) : Wrong 5 f
  /-- A peer is at fault, and it is the first one. -/
  | peer {before : List String} {bad : String} {f : Fault} (hne : peers ≠ "")
      (h : Pool.StopsAt "peers" r (Text.fields ',' peers) before bad f) : Wrong 6 f

/-- **The places in order**, each with the attribute that a fault in it names and the class of the
fault. -/
def places : List (String × FaultKind) :=
  [("type", .missingAttribute), ("type", .unknownAttribute), ("protocol", .missingAttribute),
   ("protocol", .unknownAttribute), ("size", .missingAttribute), ("size", .invalidContent),
   ("peers", .invalidContent)]

end Texts

variable {r : Resolver} {direction protocol size peers : String}

/-! ### The peers of a transfer -/

theorem outcome_readPeers_eq_ok_iff {text : String} {pool? : Option Pool} :
    (readPeers r text).outcome = .ok pool? ↔
      if text = "" then pool? = none
      else (Pool.empty.fill "peers" r text).report.outcome = .ok () ∧
        pool? = some (Pool.empty.fill "peers" r text).pool := by
  rw [readPeers]
  split
  · simp [eq_comm]
  · simp only [outcome_bind_eq_ok_iff, Pool.outcome_read_eq_ok_iff]
    constructor
    · rintro ⟨_, ⟨hfill, rfl⟩, ⟨⟩⟩
      exact ⟨hfill, rfl⟩
    · rintro ⟨hfill, rfl⟩
      exact ⟨_, ⟨hfill, rfl⟩, rfl⟩

theorem outcome_readPeers_eq_error_iff {text : String} {f : Fault} :
    (readPeers r text).outcome = .error f ↔
      text ≠ "" ∧ ∃ before bad, Pool.StopsAt "peers" r (Text.fields ',' text) before bad f := by
  rw [readPeers, ← Pool.outcome_read_eq_error_iff]
  split
  · simp [*]
  · rw [outcome_bind_eq_error_iff]
    simp [*]

/-! ### The fault that counts -/

/-- **The fault of a transfer is the one that counts.** -/
theorem outcome_read_eq_error_iff {f : Fault} :
    (read r direction protocol size peers).outcome = .error f ↔
      Fault.First (Wrong r direction protocol size peers) f := by
  rw [read, readWord, readWord, bind_assoc]
  simp only [bind_assoc]
  -- one link of the chain for each place, and nothing can be wrong at its end
  refine first_bind (fun f => ?_) (fun _ _ => first_bind (fun f => ?_) fun d _ =>
    first_bind (fun f => ?_) fun _ _ => first_bind (fun f => ?_) fun p _ =>
    first_bind (fun f => ?_) fun _ _ => first_bind (fun f => ?_) fun bytes _ =>
    first_bind (fun f => ?_) fun pool? _ f => ?_) f
  · rw [outcome_require_eq_error_iff]
    exact ⟨fun ⟨h, he⟩ => he ▸ .noDirection h, fun | .noDirection h => ⟨h, rfl⟩⟩
  · rw [outcome_orFail_eq_error_iff, Option.eq_none_iff_forall_ne_some]
    simp only [ne_eq, Direction.ofText?_eq_some_iff]
    exact ⟨fun ⟨h, he⟩ => he ▸ .direction h, fun | .direction h => ⟨h, rfl⟩⟩
  · rw [outcome_require_eq_error_iff]
    exact ⟨fun ⟨h, he⟩ => he ▸ .noProtocol h, fun | .noProtocol h => ⟨h, rfl⟩⟩
  · rw [outcome_orFail_eq_error_iff, Option.eq_none_iff_forall_ne_some]
    simp only [ne_eq, Protocol.ofText?_eq_some_iff]
    exact ⟨fun ⟨h, he⟩ => he ▸ .protocol h, fun | .protocol h => ⟨h, rfl⟩⟩
  · rw [outcome_require_eq_error_iff]
    exact ⟨fun ⟨h, he⟩ => he ▸ .noSize h, fun | .noSize h => ⟨h, rfl⟩⟩
  · exact ⟨.size, fun | .size h => h⟩
  · rw [outcome_readPeers_eq_error_iff]
    exact ⟨fun ⟨hne, _, _, h⟩ => .peer hne h, fun | .peer hne h => ⟨hne, _, _, h⟩⟩
  · exact iff_of_false nofun fun ⟨_, h, _⟩ => nomatch h

/-- The texts are what is asked of them if and only if nothing is wrong with them. -/
theorem complete_iff :
    Complete r direction protocol size peers ↔
      ∀ i f, ¬Wrong r direction protocol size peers i f := by
  constructor
  · intro h i f hwrong
    cases hwrong with
    | noDirection hd =>
      obtain ⟨d, hname⟩ := h.direction
      rw [hd] at hname
      exact absurd hname (by cases d <;> decide)
    | direction hd =>
      obtain ⟨d, hname⟩ := h.direction
      exact hd d hname
    | noProtocol hp =>
      obtain ⟨p, hname⟩ := h.protocol
      rw [hp] at hname
      exact absurd hname (by cases p <;> decide)
    | protocol hp =>
      obtain ⟨p, hname⟩ := h.protocol
      exact hp p hname
    | noSize hs => exact h.size_ne hs
    | size hs =>
      obtain ⟨bytes, hbytes⟩ := h.size
      cases hbytes.symm.trans hs
    | peer hne hstop =>
      have hfill := h.peers.resolve_left hne
      rw [Pool.outcome_fill_of_stopsAt hstop] at hfill
      cases hfill
  · intro h
    refine ⟨Classical.byContradiction fun hd => h _ _ (.direction (not_exists.mp hd)),
      Classical.byContradiction fun hp => h _ _ (.protocol (not_exists.mp hp)),
      fun hs => h _ _ (.noSize hs), ?_, Decidable.or_iff_not_imp_left.mpr fun hne => ?_⟩
    · rcases hout : (Size.read "size" size).outcome with f | bytes
      · exact absurd (.size hout) (h _ _)
      · exact ⟨bytes, rfl⟩
    · refine Pool.outcome_fillAll_eq_ok_iff.mpr ?_
      refine (Pool.sound_or_stopsAt "peers" r (Text.fields ',' peers)).resolve_right ?_
      rintro ⟨before, bad, f, hstop⟩
      exact h _ _ (.peer hne hstop)

/-! ### What is made -/

theorem madeOf_of_outcome_read_eq_ok {t : Transfer}
    (h : (read r direction protocol size peers).outcome = .ok t) :
    MadeOf r direction protocol size peers t := by
  obtain ⟨⟨-, hd⟩, ⟨-, hp⟩, ⟨-, hsize⟩, hpeers⟩ := read_eq_ok_iff.mp h
  rw [outcome_readPeers_eq_ok_iff] at hpeers
  refine ⟨Direction.ofText?_eq_some_iff.mp hd, Protocol.ofText?_eq_some_iff.mp hp, hsize, ?_, ?_⟩
  · split at hpeers
    · exact iff_of_true hpeers ‹_›
    · rw [hpeers.2]
      exact iff_of_false nofun ‹_›
  · intro hne
    rw [if_neg hne] at hpeers
    exact hpeers.2

theorem outcome_build_eq_ok_iff {x : Action} :
    ((Request.transfer direction protocol size peers).build r).outcome = .ok x ↔
      ∃ t, (read r direction protocol size peers).outcome = .ok t ∧
        x = .ofPayload (.transfer t) := by
  rw [Request.build_transfer, outcome_bind_eq_ok_iff]
  simp [eq_comm]

theorem outcome_build_eq_error_iff {f : Fault} :
    ((Request.transfer direction protocol size peers).build r).outcome = .error f ↔
      Fault.First (Wrong r direction protocol size peers) f := by
  rw [Request.build_transfer, outcome_bind_eq_error_iff, ← outcome_read_eq_error_iff]
  simp

/-- **Every place has its attribute and its class of fault.** -/
theorem exists_place_of_wrong {i : Nat} {f : Fault}
    (h : Wrong r direction protocol size peers i f) :
    ∃ attr kind, places[i]? = some (attr, kind) ∧ f.kind = kind ∧ f.Names attr := by
  cases h with
  | noDirection | direction | noProtocol | protocol | noSize =>
    exact ⟨_, _, rfl, rfl, Fault.names_of_attribute? rfl⟩
  | size hsize =>
    obtain ⟨hkind, hattr⟩ := Size.kind_and_attribute?_of_outcome_read_eq_error hsize
    exact ⟨_, _, rfl, hkind, Fault.names_of_attribute? hattr⟩
  | peer hne hstop =>
    obtain ⟨hkind, hattr⟩ := Peer.kind_and_attribute?_of_outcome_read_eq_error hstop.outcome_read
    exact ⟨_, _, rfl, hkind, Fault.names_of_attribute? hattr⟩

/-- A start is otherwise: peers that are missing hide whatever is wrong with the server port. -/
theorem outcome_build_start_of_no_peers {time serverport : String} (htime : time ≠ "")
    (hserverport : serverport ≠ "") (socksproxy : String) :
    ((Request.start time serverport "" socksproxy).build r).outcome =
      .error (.missing .start "peers") := by
  refine Start.outcome_build_eq_error_iff.mpr ⟨2, .peers rfl, fun j hj g hg => ?_⟩
  cases hg with
  | time h => exact htime h
  | serverport h => exact hserverport h
  | peers | port | proxy | peer | unusable => omega

/-! ### One attribute after the other -/

/-- **When a transfer is made, and what is reported otherwise.** It is made if and only if its
texts are what is asked of them, and then it has no key and is what becomes of them; it has no pool
if and only if no peers are named. A fault is reported if and only if it is the first of the seven
things that can be wrong, and it names the attribute of its place and is of its class. Whatever is
wrong in some place, the fault that is reported is in that place or in front of it, while a start
without peers is refused for that before its server port is looked at. -/
theorem build_settles_in_turn (r : Resolver) (direction protocol size peers : String) :
    let outcome := ((Request.transfer direction protocol size peers).build r).outcome
    ((∃ x, outcome = .ok x) ↔ Complete r direction protocol size peers) ∧
      (∀ x, outcome = .ok x → x.key = none ∧ (x.peers? = none ↔ peers = "") ∧
        ∃ t, x = .ofPayload (.transfer t) ∧ MadeOf r direction protocol size peers t) ∧
      (∀ f, outcome = .error f ↔ Fault.First (Wrong r direction protocol size peers) f) ∧
      (∀ i f, Wrong r direction protocol size peers i f →
        ∃ attr kind, places[i]? = some (attr, kind) ∧ f.kind = kind ∧ f.Names attr) ∧
      (∀ i f, Wrong r direction protocol size peers i f →
        ∃ j ≤ i, ∃ g, Wrong r direction protocol size peers j g ∧ outcome = .error g) ∧
      ∀ time serverport socksproxy, time ≠ "" → serverport ≠ "" →
        ((Request.start time serverport "" socksproxy).build r).outcome =
          .error (.missing .start "peers") := by
  refine ⟨?_, fun x hx => ?_, fun f => outcome_build_eq_error_iff,
    fun i f => exists_place_of_wrong, fun i f hwrong => ?_,
    fun time serverport socksproxy htime hport =>
      outcome_build_start_of_no_peers htime hport socksproxy⟩
  · rw [complete_iff]
    exact exists_outcome_eq_ok_iff fun f => outcome_build_eq_error_iff
  · obtain ⟨t, ht, rfl⟩ := outcome_build_eq_ok_iff.mp hx
    have hmade := madeOf_of_outcome_read_eq_ok ht
    exact ⟨rfl, hmade.peers_eq_none_iff, t, rfl, hmade⟩
  · obtain ⟨j, hj, g, hg, hfirst⟩ := Fault.exists_first_le hwrong
    exact ⟨j, hj, g, hg, outcome_build_eq_error_iff.mpr hfirst⟩

/-- A transfer whose only peer is this host has a pool without peers. Of the next four texts none
is what it should be, and the direction counts, although the protocol and the size are missing; a
start with as little to it is refused for its peers. -/
theorem build_settles_in_turn_nothing_right :
    let r := ((HostTable.empty (some "me")).add "relay" ⟨10, 0, 0, 1⟩).resolver
    let build := fun direction protocol size peers : String =>
      ((Request.transfer direction protocol size peers).build r).outcome
    let t : Transfer := ⟨⟨.get, .socketpair, 2048⟩, some Pool.empty⟩
    build "Get" "SocketPair" "2 KiB" "ME:80" = .ok (.ofPayload (.transfer t)) ∧
      Complete r "Get" "SocketPair" "2 KiB" "ME:80" ∧
      ((Action.ofPayload (.transfer t)).peers? = none ↔ "ME:80" = "") ∧
      Fault.First (Wrong r "send" "" "" "x") (.unknownWord "send" "type") ∧
      Wrong r "send" "" "" "x" 4 (.missing .transfer "size") ∧
      (Fault.missing .transfer "size").Names "size" ∧
      (∃ j ≤ 4, ∃ g, Wrong r "send" "" "" "x" j g ∧ build "send" "" "" "x" = .error g) ∧
      build "send" "" "" "x" = .error (.unknownWord "send" "type") ∧
      ((Request.start "1" "http" "" "x").build r).outcome = .error (.missing .start "peers") := by
  intro r build t
  have hmade : build "Get" "SocketPair" "2 KiB" "ME:80" = .ok (.ofPayload (.transfer t)) := by
    dsimp only [r, build, t]
    rfl
  have hword : build "send" "" "" "x" = .error (.unknownWord "send" "type") := by
    dsimp only [r, build]
    rfl
  have hsize : Wrong r "send" "" "" "x" 4 (.missing .transfer "size") := .noSize rfl
  obtain ⟨hcomplete, hmadeOf, -⟩ := build_settles_in_turn r "Get" "SocketPair" "2 KiB" "ME:80"
  obtain ⟨-, -, hfirst, hplace, hturn, hstart⟩ := build_settles_in_turn r "send" "" "" "x"
  obtain ⟨attr, kind, hattr, -, hnames⟩ := hplace 4 _ hsize
  cases hattr
  exact ⟨hmade, hcomplete.mp ⟨_, hmade⟩, (hmadeOf _ hmade).2.1, (hfirst _).mp hword, hsize, hnames,
    hturn 4 _ hsize, hword, hstart "1" "http" "x" (by decide) (by decide)⟩

end Transfer

end TrafficGraph
