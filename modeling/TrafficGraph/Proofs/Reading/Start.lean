import TrafficGraph.Proofs.Fault.First
import TrafficGraph.Proofs.Pool.Sequence
import TrafficGraph.Proofs.Reading.Decision

/-!
# When a start is made, and what is reported otherwise

A start needs a time, a server port and peers, and may have a proxy. This module says what is
asked of the four texts (`TrafficGraph.Start.Complete`), what becomes of them
(`TrafficGraph.Start.MadeOf`), and what can be wrong with them (`TrafficGraph.Start.Wrong`): seven
things, any of which may be wrong together with any other. They count in the order of their
places. All three attributes have to be there before the content of any is looked at, and of the
time nothing is asked but that.

`TrafficGraph.Start.build_decides` says that a start is made if and only if nothing is wrong, and
that otherwise the fault is the one that counts.
-/

namespace TrafficGraph

open Logged

/-- Whatever is wrong with a peer is a fault of the content of its attribute. -/
theorem Peer.kind_and_attribute?_of_outcome_read_eq_error {attr : String} {r : Resolver}
    {text : String} {f : Fault} (h : (read attr r text).outcome = .error f) :
    f.kind = .invalidContent ∧ f.attribute? = some attr := by
  obtain ⟨o, ho⟩ := exists_decides attr r text
  obtain rfl : o = .error f := ho.outcome_eq.symm.trans h
  refine ⟨ho.kind_eq, ?_⟩
  cases ho <;> rfl

namespace Start

/-- **A port to serve on**: the text is read, leniently, as a number from one to 65535. -/
def IsServerPort (text : String) : Prop :=
  1 ≤ (Numeral.lenient text).toNat ∧ (Numeral.lenient text).toNat ≤ 65535

theorem port?_eq_some_iff {text : String} {port : UInt16} :
    port? text = some port ↔ IsServerPort text ∧ port.toNat = (Numeral.lenient text).toNat := by
  have hlt := port.toNat_lt
  have hzero : port ≠ 0 ↔ port.toNat ≠ 0 := not_congr UInt16.toNat_inj.symm
  rw [port?, Option.filter_eq_some_iff, Numeral.port?_eq_some_iff, bne_iff_ne, hzero, IsServerPort]
  omega

theorem port?_eq_none_iff {text : String} : port? text = none ↔ ¬IsServerPort text := by
  constructor
  · intro h hport
    have hword : (UInt16.ofNat (Numeral.lenient text).toNat).toNat = (Numeral.lenient text).toNat :=
      UInt16.toNat_ofNat_of_lt (Nat.lt_succ_of_le hport.2)
    rw [port?_eq_some_iff.mpr ⟨hport, hword⟩] at h
    cases h
  · intro h
    rw [Option.eq_none_iff_forall_ne_some]
    exact fun port hport => h (port?_eq_some_iff.mp hport).1

theorem outcome_readProxy_eq_ok_iff {r : Resolver} {text : String} {proxy : Option Peer} :
    (readProxy r text).outcome = .ok proxy ↔
      if text = "" then proxy = none
      else (Peer.read "socksproxy" r text).outcome = .ok proxy := by
  rw [readProxy]
  split
  · simp [eq_comm]
  · rfl

theorem outcome_readProxy_eq_error_iff {r : Resolver} {text : String} {f : Fault} :
    (readProxy r text).outcome = .error f ↔
      text ≠ "" ∧ (Peer.read "socksproxy" r text).outcome = .error f := by
  rw [readProxy]
  split <;> simp [*]

/-! ### What is asked of the texts, and what can be wrong with them -/

section Texts

variable (r : Resolver) (time serverport peers socksproxy : String)

/-- **What is asked of the texts of a start.** -/
structure Complete : Prop where
  /-- There is a time. -/
  time_ne : time ≠ ""
  /-- There is a server port. -/
  serverport_ne : serverport ≠ ""
  /-- Peers are named. -/
  peers_ne : peers ≠ ""
  /-- The server port is one. -/
  isServerPort : IsServerPort serverport
  /-- The proxy can be read, if there is one. -/
  proxy : socksproxy = "" ∨ Peer.Sound "socksproxy" r socksproxy
  /-- The peers can be read. -/
  outcome_fill : (Pool.empty.fill "peers" r peers).report.outcome = .ok ()
  /-- A peer is left. -/
  peers_fill_ne : (Pool.empty.fill "peers" r peers).pool.peers ≠ []

/-- **What becomes of the texts.** -/
structure MadeOf (s : Start) : Prop where
  /-- The time is read leniently. -/
  time_eq : s.time = Numeral.lenient time
  /-- So is the server port. -/
  serverPort_eq : s.serverPort.toNat = (Numeral.lenient serverport).toNat
  /-- The proxy is the peer that its text gives, which may be none. -/
  outcome_proxy : socksproxy ≠ "" → (Peer.read "socksproxy" r socksproxy).outcome = .ok s.proxy
  /-- There is no proxy without a text. -/
  proxy_of_empty : socksproxy = "" → s.proxy = none
  /-- This host is no proxy. -/
  proxy_of_namesOwn : Peer.NamesOwn r socksproxy → s.proxy = none
  /-- The peers are those that are left of the list. -/
  peers_eq : s.peers = (Pool.empty.fill "peers" r peers).pool

/-- **What can be wrong with the texts of a start**, each thing with its place in the order in
which they count. -/
inductive Wrong : Nat → Fault → Prop
  /-- There is no time. -/
  | time (h : time = "") : Wrong 0 (.missing .start "time")
  /-- There is no server port. -/
  | serverport (h : serverport = "") : Wrong 1 (.missing .start "serverport")
  /-- No peers are named. -/
  | peers (h : peers = "") : Wrong 2 (.missing .start "peers")
  /-- The server port is none. -/
  | port (h : ¬IsServerPort serverport) : Wrong 3 (.serverPort serverport)
  /-- The proxy is at fault. -/
  | proxy {f : Fault} (hne : socksproxy ≠ "")
      (h : (Peer.read "socksproxy" r socksproxy).outcome = .error f) : Wrong 4 f
  /-- A peer is at fault, and it is the first one. -/
  | peer {before : List String} {bad : String} {f : Fault}
      (h : Pool.StopsAt "peers" r (Text.fields ',' peers) before bad f) : Wrong 5 f
  /-- No peer is left. -/
  | unusable (h : (Pool.empty.fill "peers" r peers).pool.peers = []) :
    Wrong 6 (.noUsablePeers peers)

/-- **The places in order**, each with the attribute that a fault in it names and the class of the
fault. -/
def places : List (String × FaultKind) :=
  [("time", .missingAttribute), ("serverport", .missingAttribute), ("peers", .missingAttribute),
   ("serverport", .invalidContent), ("socksproxy", .invalidContent), ("peers", .invalidContent),
   ("peers", .invalidContent)]

end Texts

variable {r : Resolver} {time serverport peers socksproxy : String}

/-- **The fault of a start is the one that counts.** -/
theorem outcome_read_eq_error_iff {f : Fault} :
    (read r time serverport peers socksproxy).outcome = .error f ↔
      Fault.First (Wrong r time serverport peers socksproxy) f := by
  rw [read]
  -- one link of the chain for each place, and the last two places share the end of it
  refine first_bind (fun f => ?_) (fun _ _ => first_bind (fun f => ?_) fun _ _ =>
    first_bind (fun f => ?_) fun _ _ => first_bind (fun f => ?_) fun port hport =>
    first_bind (fun f => ?_) fun proxy hproxy => first_bind (fun f => ?_) fun pool hpool f => ?_) f
  · rw [outcome_require_eq_error_iff]
    exact ⟨fun ⟨h, he⟩ => he ▸ .time h, fun | .time h => ⟨h, rfl⟩⟩
  · rw [outcome_require_eq_error_iff]
    exact ⟨fun ⟨h, he⟩ => he ▸ .serverport h, fun | .serverport h => ⟨h, rfl⟩⟩
  · rw [outcome_require_eq_error_iff]
    exact ⟨fun ⟨h, he⟩ => he ▸ .peers h, fun | .peers h => ⟨h, rfl⟩⟩
  · rw [outcome_orFail_eq_error_iff, port?_eq_none_iff]
    exact ⟨fun ⟨h, he⟩ => he ▸ .port h, fun | .port h => ⟨h, rfl⟩⟩
  · rw [outcome_readProxy_eq_error_iff]
    exact ⟨fun ⟨hne, h⟩ => .proxy hne h, fun | .proxy hne h => ⟨hne, h⟩⟩
  · rw [Pool.outcome_read_eq_error_iff]
    exact ⟨fun ⟨_, _, h⟩ => .peer h, fun | .peer h => ⟨_, _, h⟩⟩
  · -- no place is behind this one, so what is wrong in it is all that can be wrong
    obtain ⟨-, rfl⟩ := Pool.outcome_read_eq_ok_iff.mp hpool
    have hlast : ¬Fault.First (fun i => Wrong r time serverport peers socksproxy (i + 7)) f := by
      rintro ⟨i, hi, -⟩
      cases hi
    refine Iff.trans ?_ (Fault.first_iff.trans (or_iff_left fun h => hlast h.2)).symm
    split
    · rename_i hempty
      rw [outcome_fail, Except.error.injEq]
      exact ⟨fun he => he ▸ .unusable (List.isEmpty_iff.mp hempty), fun | .unusable _ => rfl⟩
    · rename_i hempty
      exact ⟨nofun, fun | .unusable h => absurd (List.isEmpty_iff.mpr h) hempty⟩

/-- The texts are what is asked of them if and only if nothing is wrong with them. -/
theorem complete_iff :
    Complete r time serverport peers socksproxy ↔
      ∀ i f, ¬Wrong r time serverport peers socksproxy i f := by
  constructor
  · intro h i f hwrong
    cases hwrong with
    | time ht => exact h.time_ne ht
    | serverport hs => exact h.serverport_ne hs
    | peers hp => exact h.peers_ne hp
    | port hport => exact hport h.isServerPort
    | proxy hne hproxy => exact Peer.not_sound_iff.mpr ⟨f, hproxy⟩ (h.proxy.resolve_left hne)
    | peer hstop =>
      have hfill := h.outcome_fill
      rw [Pool.outcome_fill_of_stopsAt hstop] at hfill
      cases hfill
    | unusable hnone => exact h.peers_fill_ne hnone
  · intro h
    refine ⟨fun ht => h _ _ (.time ht), fun hs => h _ _ (.serverport hs),
      fun hp => h _ _ (.peers hp), Classical.byContradiction fun hport => h _ _ (.port hport),
      ?_, ?_, fun hnone => h _ _ (.unusable hnone)⟩
    · by_cases hne : socksproxy = ""
      · exact Or.inl hne
      · refine Or.inr (Classical.byContradiction fun hproxy => ?_)
        obtain ⟨f, hf⟩ := Peer.not_sound_iff.mp hproxy
        exact h _ _ (.proxy hne hf)
    · refine Pool.outcome_fillAll_eq_ok_iff.mpr ?_
      refine (Pool.sound_or_stopsAt "peers" r (Text.fields ',' peers)).resolve_right ?_
      rintro ⟨before, bad, f, hstop⟩
      exact h _ _ (.peer hstop)

/-! ### What is made -/

/-- **A start is read if and only if nothing is wrong.** -/
theorem exists_outcome_read_eq_ok_iff :
    (∃ s, (read r time serverport peers socksproxy).outcome = .ok s) ↔
      Complete r time serverport peers socksproxy := by
  rw [complete_iff]
  exact exists_outcome_eq_ok_iff fun f => outcome_read_eq_error_iff

theorem madeOf_of_outcome_read_eq_ok {s : Start}
    (h : (read r time serverport peers socksproxy).outcome = .ok s) :
    MadeOf r time serverport peers socksproxy s := by
  obtain ⟨-, hport, hproxy, hpool, -, htime⟩ := read_eq_ok_iff.mp h
  rw [outcome_readProxy_eq_ok_iff] at hproxy
  have hempty : socksproxy = "" → s.proxy = none := fun he => by rwa [if_pos he] at hproxy
  have hread : socksproxy ≠ "" → (Peer.read "socksproxy" r socksproxy).outcome = .ok s.proxy :=
    fun hne => by rwa [if_neg hne] at hproxy
  refine ⟨htime, (port?_eq_some_iff.mp hport).2, hread, hempty, fun hown => ?_,
    (Pool.outcome_read_eq_ok_iff.mp hpool).2⟩
  -- a text that names this host is not empty, but that does not have to be known
  by_cases he : socksproxy = ""
  · exact hempty he
  · exact (Except.ok.inj (hown.outcome_read.symm.trans (hread he))).symm

theorem outcome_build_eq_ok_iff {x : Action} :
    ((Request.start time serverport peers socksproxy).build r).outcome = .ok x ↔
      ∃ s, (read r time serverport peers socksproxy).outcome = .ok s ∧
        x = .ofPayload (.start s) := by
  rw [Request.build_start, outcome_bind_eq_ok_iff]
  simp [eq_comm]

theorem outcome_build_eq_error_iff {f : Fault} :
    ((Request.start time serverport peers socksproxy).build r).outcome = .error f ↔
      Fault.First (Wrong r time serverport peers socksproxy) f := by
  rw [Request.build_start, outcome_bind_eq_error_iff, ← outcome_read_eq_error_iff]
  simp

/-! ### What a fault names -/

/-- **Every place has its attribute and its class of fault.** -/
theorem exists_place_of_wrong {i : Nat} {f : Fault}
    (h : Wrong r time serverport peers socksproxy i f) :
    ∃ attr kind, places[i]? = some (attr, kind) ∧ f.kind = kind ∧ f.Names attr := by
  cases h with
  | time | serverport | peers | port | unusable =>
    exact ⟨_, _, rfl, rfl, Fault.names_of_attribute? rfl⟩
  | proxy hne hproxy =>
    obtain ⟨hkind, hattr⟩ := Peer.kind_and_attribute?_of_outcome_read_eq_error hproxy
    exact ⟨_, _, rfl, hkind, Fault.names_of_attribute? hattr⟩
  | peer hstop =>
    obtain ⟨hkind, hattr⟩ := Peer.kind_and_attribute?_of_outcome_read_eq_error hstop.outcome_read
    exact ⟨_, _, rfl, hkind, Fault.names_of_attribute? hattr⟩

/-! ### The time -/

/-- Of a time nothing is asked but that it is there. -/
theorem Wrong.of_time {i : Nat} {f : Fault} (h : Wrong r time serverport peers socksproxy i f)
    (htime : time ≠ "") (time' : String) : Wrong r time' serverport peers socksproxy i f := by
  cases h with
  | time ht => exact absurd ht htime
  | serverport hs => exact .serverport hs
  | peers hp => exact .peers hp
  | port hport => exact .port hport
  | proxy hne hproxy => exact .proxy hne hproxy
  | peer hstop => exact .peer hstop
  | unusable hnone => exact .unusable hnone

theorem first_wrong_of_time {time' : String} {f : Fault} (htime : time ≠ "") (htime' : time' ≠ "")
    (h : Fault.First (Wrong r time serverport peers socksproxy) f) :
    Fault.First (Wrong r time' serverport peers socksproxy) f := by
  obtain ⟨i, hwrong, hbefore⟩ := h
  exact ⟨i, hwrong.of_time htime time', fun j hj g hg => hbefore j hj g (hg.of_time htime' time)⟩

/-! ### The decision -/

/-- **When a start is made, and what is reported otherwise.** It is made if and only if its texts
are what is asked of them, and then it has no key and is what becomes of them. A fault is reported
if and only if it is the first of the seven things that can be wrong, whichever of the others are
wrong as well, and it names the attribute of its place and is of its class. As long as there is a
time, the fault would be the same with any other. -/
theorem build_decides (r : Resolver) (time serverport peers socksproxy : String) :
    let outcome := ((Request.start time serverport peers socksproxy).build r).outcome
    ((∃ x, outcome = .ok x) ↔ Complete r time serverport peers socksproxy) ∧
      (∀ x, outcome = .ok x → ∃ s, x = .ofPayload (.start s) ∧ x.key = none ∧
        MadeOf r time serverport peers socksproxy s) ∧
      (∀ f, outcome = .error f ↔ Fault.First (Wrong r time serverport peers socksproxy) f) ∧
      (∀ i f, Wrong r time serverport peers socksproxy i f →
        ∃ attr kind, places[i]? = some (attr, kind) ∧ f.kind = kind ∧ f.Names attr) ∧
      ∀ time' f, time ≠ "" → time' ≠ "" → outcome = .error f →
        ((Request.start time' serverport peers socksproxy).build r).outcome = .error f := by
  refine ⟨?_, fun x hx => ?_, fun f => outcome_build_eq_error_iff,
    fun i f => exists_place_of_wrong, fun time' f htime htime' hf => ?_⟩
  · rw [← exists_outcome_read_eq_ok_iff]
    constructor
    · rintro ⟨x, hx⟩
      obtain ⟨s, hs, -⟩ := outcome_build_eq_ok_iff.mp hx
      exact ⟨s, hs⟩
    · rintro ⟨s, hs⟩
      exact ⟨_, outcome_build_eq_ok_iff.mpr ⟨s, hs, rfl⟩⟩
  · obtain ⟨s, hs, rfl⟩ := outcome_build_eq_ok_iff.mp hx
    exact ⟨s, rfl, rfl, madeOf_of_outcome_read_eq_ok hs⟩
  · have hfirst := outcome_build_eq_error_iff.mp hf
    exact outcome_build_eq_error_iff.mpr (first_wrong_of_time htime htime' hfirst)

/-- This host as proxy and, with a port that is none, among the peers; and a time that is no
number. A start is made of these. Of the next four texts three are wrong, in four places, and the
server port counts, as it does with another time. Of the last four the first three are missing,
and the proxy does not count. -/
theorem build_decides_masked :
    let r := ((HostTable.empty (some "me")).add "relay" ⟨10, 0, 0, 1⟩).resolver
    let build := fun time serverport peers socksproxy : String =>
      ((Request.start time serverport peers socksproxy).build r).outcome
    let s : Start := ⟨0, 80, none, ⟨[⟨⟨10, 0, 0, 1⟩, 7⟩]⟩⟩
    build "soon" "80" "me:99999,relay:7" "ME:" = .ok (.ofPayload (.start s)) ∧
      Complete r "soon" "80" "me:99999,relay:7" "ME:" ∧
      (∃ s', Action.ofPayload (.start s) = .ofPayload (.start s') ∧
        (Action.ofPayload (.start s)).key = none ∧
        MadeOf r "soon" "80" "me:99999,relay:7" "ME:" s') ∧
      Fault.First (Wrong r "soon" "65536" "me:1,mars:1" "x") (.serverPort "65536") ∧
      build "1" "65536" "me:1,mars:1" "x" = .error (.serverPort "65536") ∧
      Wrong r "soon" "65536" "me:1,mars:1" "x" 4 (.peerShape "socksproxy") ∧
      (Fault.peerShape "socksproxy").Names "socksproxy" ∧
      build "" "" "" "x" = .error (.missing .start "time") := by
  intro r build s
  have hmade : build "soon" "80" "me:99999,relay:7" "ME:" = .ok (.ofPayload (.start s)) := by
    dsimp only [r, build, s]
    rfl
  have hport : build "soon" "65536" "me:1,mars:1" "x" = .error (.serverPort "65536") := by
    dsimp only [r, build]
    rfl
  have hproxy : Wrong r "soon" "65536" "me:1,mars:1" "x" 4 (.peerShape "socksproxy") :=
    .proxy (by decide) rfl
  obtain ⟨hcomplete, hmadeOf, -⟩ := build_decides r "soon" "80" "me:99999,relay:7" "ME:"
  obtain ⟨-, -, hfirst, hplace, htime⟩ := build_decides r "soon" "65536" "me:1,mars:1" "x"
  obtain ⟨attr, kind, hattr, -, hnames⟩ := hplace 4 _ hproxy
  cases hattr
  refine ⟨hmade, hcomplete.mp ⟨_, hmade⟩, hmadeOf _ hmade, (hfirst _).mp hport,
    htime "1" _ (by decide) (by decide) hport, hproxy, hnames, ?_⟩
  dsimp only [r, build]
  rfl

end Start

end TrafficGraph
