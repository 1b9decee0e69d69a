import TrafficGraph.Node
import TrafficGraph.Proofs.Reading.Peers

/-!
# When the reading of an action succeeds

Each constructor takes its attributes one after the other and stops at the first
fault. Which actions can come out is a conjunction that does not care about the
order: one equivalence for each kind of action, from the texts of its attributes to
the fields of what is made. They are used in both directions – from an action to the
facts about its fields, and from texts that are known to be right to the action.
-/

namespace TrafficGraph

namespace Logged

theorem outcome_require (k : Kind) (attr text : String) :
    (require k attr text).outcome =
      if text = "" then .error (.missing k attr) else .ok () := by
  unfold require
  split <;> rfl

theorem outcome_require_eq_ok_iff {k : Kind} {attr text : String} {u : Unit} :
    (require k attr text).outcome = .ok u ↔ text ≠ "" := by
  rw [outcome_require]
  split <;> simp [*]

theorem outcome_require_eq_error_iff {k : Kind} {attr text : String} {f : Fault} :
    (require k attr text).outcome = .error f ↔ text = "" ∧ .missing k attr = f := by
  rw [outcome_require]
  split <;> simp [*]

end Logged

open Logged

/-- **When a start action is made**, and what its fields are. -/
theorem Start.read_eq_ok_iff {r : Resolver} {time serverPort peers proxy : String} {s : Start} :
    (Start.read r time serverPort peers proxy).outcome = .ok s ↔
      (time ≠ "" ∧ serverPort ≠ "" ∧ peers ≠ "") ∧
        Start.port? serverPort = some s.serverPort ∧
        (Start.readProxy r proxy).outcome = .ok s.proxy ∧
        (Pool.read "peers" r peers).outcome = .ok s.peers ∧
        s.peers.isEmpty = false ∧ s.time = Numeral.lenient time := by
  unfold Start.read
  simp only [outcome_bind_eq_ok_iff, outcome_require_eq_ok_iff, outcome_orFail_eq_ok_iff]
  constructor
  · rintro ⟨-, ht, -, hs, -, hp, port, hport, proxy?, hproxy, pool, hpool, h⟩
    split at h
    · cases h
    · rename_i hne
      cases h
      exact ⟨⟨ht, hs, hp⟩, hport, hproxy, hpool, by simpa using hne, rfl⟩
  · rintro ⟨⟨ht, hs, hp⟩, hport, hproxy, hpool, hne, htime⟩
    refine ⟨(), ht, (), hs, (), hp, s.serverPort, hport, s.proxy, hproxy, s.peers, hpool, ?_⟩
    rw [hne, if_neg Bool.false_ne_true, ← htime]
    rfl

/-- **When an end action is made**: only its byte count can be at fault. -/
theorem Ending.read_eq_ok_iff {time count size : String} {e : Ending} :
    (Ending.read time count size).outcome = .ok e ↔
      (Ending.readSize size).outcome = .ok e.size ∧
        e.time = Numeral.lenient time ∧ e.count = Numeral.lenient count := by
  unfold Ending.read
  rw [outcome_bind_eq_ok_iff]
  constructor
  · rintro ⟨bytes, hsize, h⟩
    cases h
    exact ⟨hsize, rfl, rfl⟩
  · rintro ⟨hsize, htime, hcount⟩
    refine ⟨e.size, hsize, ?_⟩
    rw [← htime, ← hcount]
    rfl

/-- **When a pause is made**: the time has to be there. -/
theorem Pause.read_eq_ok_iff {time : String} {p : Pause} :
    (Pause.read time).outcome = .ok p ↔ time ≠ "" ∧ p.time = Numeral.lenient time := by
  unfold Pause.read
  rw [outcome_bind_eq_ok_iff]
  simp only [outcome_require_eq_ok_iff]
  constructor
  · rintro ⟨-, ht, h⟩
    cases h
    exact ⟨ht, rfl⟩
  · rintro ⟨ht, htime⟩
    refine ⟨(), ht, ?_⟩
    rw [← htime]
    rfl

theorem Transfer.readWord_eq_ok_iff {α : Type} {attr : String} {words : String → Option α}
    {text : String} {a : α} :
    (Transfer.readWord attr words text).outcome = .ok a ↔ text ≠ "" ∧ words text = some a := by
  unfold Transfer.readWord
  simp only [outcome_bind_eq_ok_iff, outcome_require_eq_ok_iff, outcome_orFail_eq_ok_iff]
  exact ⟨fun ⟨_, ht, h⟩ => ⟨ht, h⟩, fun ⟨ht, h⟩ => ⟨(), ht, h⟩⟩

/-- **When a transfer is made**, and what its fields are. -/
theorem Transfer.read_eq_ok_iff {r : Resolver} {direction protocol size peers : String}
    {t : Transfer} :
    (Transfer.read r direction protocol size peers).outcome = .ok t ↔
      (direction ≠ "" ∧ Direction.ofText? direction = some t.parameters.direction) ∧
        (protocol ≠ "" ∧ Protocol.ofText? protocol = some t.parameters.protocol) ∧
        (size ≠ "" ∧ (Size.read "size" size).outcome = .ok t.parameters.size) ∧
        (Transfer.readPeers r peers).outcome = .ok t.peers := by
  unfold Transfer.read
  simp only [outcome_bind_eq_ok_iff, outcome_require_eq_ok_iff, Transfer.readWord_eq_ok_iff]
  constructor
  · rintro ⟨d, hd, p, hp, -, hs, bytes, hbytes, pool?, hpool, -, -, h⟩
    cases h
    exact ⟨hd, hp, ⟨hs, hbytes⟩, hpool⟩
  · rintro ⟨hd, hp, ⟨hs, hbytes⟩, hpool⟩
    exact ⟨_, hd, _, hp, (), hs, _, hbytes, _, hpool, (), rfl, rfl⟩

/-! ### Requests and nodes -/

/-- An action that is made has the payload that was asked for, and no key. -/
theorem Request.build_eq_ok_iff {r : Resolver} {q : Request} {x : Action} :
    (q.build r).outcome = .ok x ↔ (q.payload r).outcome = .ok x.payload ∧ x.key = none := by
  rw [Request.build, outcome_bind_eq_ok_iff]
  constructor
  · rintro ⟨p, hp, h⟩
    cases h
    exact ⟨hp, rfl⟩
  · rintro ⟨hp, hkey⟩
    obtain ⟨p, key⟩ := x
    obtain rfl : key = none := hkey
    exact ⟨p, hp, rfl⟩

/-- A start that is asked for is a start that is read, without a key. -/
theorem Request.build_start (r : Resolver) (time serverport peers socksproxy : String) :
    (start time serverport peers socksproxy).build r =
      Start.read r time serverport peers socksproxy >>= fun s => pure (.ofPayload (.start s)) := by
  rw [build, payload, bind_assoc]
  rfl

/-- A transfer that is asked for is a transfer that is read, without a key. -/
theorem Request.build_transfer (r : Resolver) (direction protocol size peers : String) :
    (transfer direction protocol size peers).build r =
      Transfer.read r direction protocol size peers >>= fun t =>
        pure (.ofPayload (.transfer t)) := by
  rw [build, payload, bind_assoc]
  rfl

/-- **A node is built as the request of its kind.** -/
theorem Node.build_eq_ok_iff {r : Resolver} {n : Node} {x : Action} :
    (n.build r).outcome = .ok x ↔
      ∃ k, Kind.ofText? n.kind = some k ∧ ((n.request k).build r).outcome = .ok x := by
  rw [Node.build, outcome_bind_eq_ok_iff]
  simp only [outcome_orFail_eq_ok_iff]

end TrafficGraph
