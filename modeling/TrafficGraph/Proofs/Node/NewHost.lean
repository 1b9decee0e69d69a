import TrafficGraph.Proofs.Node.Lookup
import TrafficGraph.Proofs.Reading.Action
import TrafficGraph.Proofs.Reading.Decision
import TrafficGraph.Proofs.Resolver.Table

/-!
# Learning a host

A network gets to know more hosts in the course of time, and a node that could be read before
should not be lost by that. It is not: a node that is made has every host that was asked for at an
address that can be used, so a host that is learnt was not asked for, unless it is one of those
that answer for themselves and stays where it was.

This is a statement about two runs again, but other than in `TrafficGraph.Node.build_congr` they
need not agree. A resolver that knows what another knows (`TrafficGraph.Resolver.Knows`) gives the
same outcome, unless the other is at a fault for want of a host that the first one finds. What
comes after that fault is out of sight of the one run and not of the other, so anything can follow
from it, another fault of the same sort included. `TrafficGraph.Logged.SameUnless` is this
relation; chains keep it, and it is carried from the one look-up that may differ to the whole node.

`TrafficGraph.Node.build_with_new_host` says so for a table with one more entry.
-/

namespace TrafficGraph

/-! ### Outcomes that are the same but for an excuse -/

namespace Logged

variable {α β : Type} {excuse excuse' : Fault → Prop} {x y : Logged α}

/-- **The second computation has the outcome of the first**, unless that is a fault with an
excuse. A value has no excuse, and comes with the same log. -/
inductive SameUnless (excuse : Fault → Prop) (x y : Logged α) : Prop
  /-- The two are the same, and so are their logs. -/
  | same (h : x = y) : SameUnless excuse x y
  /-- Both are at the same fault; the second may have logged other events before it. -/
  | fault {f : Fault} (h : x.outcome = .error f) (h' : y.outcome = .error f) : SameUnless excuse x y
  /-- The first is at a fault with an excuse. -/
  | excused {f : Fault} (h : x.outcome = .error f) (hf : excuse f) : SameUnless excuse x y

theorem SameUnless.mono (h : SameUnless excuse x y) (himp : ∀ f, excuse f → excuse' f) :
    SameUnless excuse' x y := by
  cases h with
  | same h => exact .same h
  | fault h h' => exact .fault h h'
  | excused h hf => exact .excused h (himp _ hf)

/-- **Chains keep it** if their second parts do. -/
theorem SameUnless.bind {k l : α → Logged β} (h : SameUnless excuse x y)
    (hkl : ∀ a, SameUnless excuse (k a) (l a)) : SameUnless excuse (x >>= k) (y >>= l) := by
  cases h with
  | same h =>
    subst h
    rcases hx : x.outcome with f | a
    · have hstop : ∀ k : α → Logged β, (x >>= k).outcome = .error f := fun k =>
        outcome_bind_eq_error_iff.mpr (Or.inl hx)
      exact .fault (hstop k) (hstop l)
    · -- the second part runs, and its outcome is that of the chain
      have hrun : ∀ k : α → Logged β, (x >>= k) = ⟨(k a).outcome, x.events ++ (k a).events⟩ := by
        intro k
        obtain ⟨o, events⟩ := x
        cases hx
        rfl
      rw [hrun k, hrun l]
      cases hkl a with
      | same h => exact .same (by rw [h])
      | fault h h' => exact .fault h h'
      | excused h hf => exact .excused h hf
  | fault h h' =>
    exact .fault (outcome_bind_eq_error_iff.mpr (Or.inl h))
      (outcome_bind_eq_error_iff.mpr (Or.inl h'))
  | excused h hf => exact .excused (outcome_bind_eq_error_iff.mpr (Or.inl h)) hf

/-- A part that two chains have in common is no matter. -/
theorem SameUnless.bind_left (x : Logged α) {k l : α → Logged β}
    (hkl : ∀ a, SameUnless excuse (k a) (l a)) : SameUnless excuse (x >>= k) (x >>= l) :=
  .bind (.same rfl) hkl

/-- **A value is kept**, and so is the log that leads to it. -/
theorem SameUnless.eq_of_ok (h : SameUnless excuse x y) {a : α} (hx : x.outcome = .ok a) :
    y = x := by
  cases h with
  | same h => exact h.symm
  | fault h | excused h => exact absurd (hx.symm.trans h) (by simp)

/-- **Two outcomes that differ need an excuse.** -/
theorem SameUnless.excuse_of_ne (h : SameUnless excuse x y) (hne : x.outcome ≠ y.outcome) :
    ∃ f, x.outcome = .error f ∧ excuse f := by
  cases h with
  | same h => exact absurd (congrArg outcome h) hne
  | fault h h' => exact absurd (h.trans h'.symm) hne
  | excused h hf => exact ⟨_, h, hf⟩

end Logged

open Logged

/-! ### Resolvers that know more -/

/-- **The second resolver knows what the first one knows**: the name of this host, and where each
host is that the first one finds. -/
structure Resolver.Knows (r r' : Resolver) : Prop where
  /-- This host has one name for both. -/
  ownName_eq : r.ownName = r'.ownName
  /-- A host that is found stays where it is. -/
  lookup_eq : ∀ host address, r.lookup host = some address → r'.lookup host = some address

theorem Resolver.asks_iff {r : Resolver} {host : String} :
    r.asks host = true ↔ ¬r.IsThisHost host ∧ ¬IsLocalHost host ∧ ¬IsAnyHost host := by
  rw [asks_eq_true_iff, isThisHost_iff, isLocalHost_iff, isAnyHost_iff, Bool.not_eq_true,
    Bool.not_eq_true, Bool.not_eq_true]

/-- The text names a host, in front of its first colon, that only the second resolver finds. -/
def Peer.Learnt (r r' : Resolver) (text : String) : Prop :=
  ∃ host portText, Parts text host portText ∧ r.lookup host = none ∧ r'.lookup host ≠ none

/-- The texts that are read as peers for a request, each with the attribute that it is part of. -/
def Request.peerTexts : Request → List (String × String)
  | start _ _ peers socksproxy =>
    (Text.fields ',' peers).map (Prod.mk "peers") ++ [("socksproxy", socksproxy)]
  | transfer _ _ _ peers => (Text.fields ',' peers).map (Prod.mk "peers")
  | ending .. | pause _ | synchronize => []

/-- **The fault is for want of a host**: it is that of a peer whose host only the second resolver
finds. -/
def Request.Lacks (r r' : Resolver) (q : Request) (f : Fault) : Prop :=
  ∃ p ∈ q.peerTexts, f = .peerHost p.2 p.1 ∧ Peer.Learnt r r' p.2

/-- The reading of texts into a pool that is given up at a fault. -/
def Pool.readInto (attr : String) (r : Resolver) (pool : Pool) (texts : List String) :
    Logged Pool := do
  (fillAll attr r pool texts).report
  return (fillAll attr r pool texts).pool

theorem Pool.readInto_cons (attr : String) (r : Resolver) (pool : Pool) (text : String)
    (texts : List String) :
    readInto attr r pool (text :: texts) =
      Peer.read attr r text >>= fun p => readInto attr r (pool.offer p) texts := by
  rw [readInto, fillAll]
  simp only [readInto]
  rcases Peer.read attr r text with ⟨f | p, events⟩
  · rfl
  · change Logged.andThen _ _ = Logged.mk _ _
    dsimp only
    rcases fillAll attr r (pool.offer p) texts with ⟨filled, g | u, later⟩
    · rfl
    · exact congrArg (Logged.mk _) (List.append_assoc events later [])

section Knows

variable {r r' : Resolver} (h : r.Knows r')

include h

/-- **One peer**: a host that both find, or neither, makes no difference, nor does one that is not
asked for. Any other host is not found by the first resolver, and that is a fault unless the port
is one already. -/
theorem Peer.sameUnless_read (attr text : String) :
    SameUnless (fun f => f = .peerHost text attr ∧ Learnt r r' text) (Peer.read attr r text)
      (Peer.read attr r' text) := by
  rcases hcut : Text.cut? ':' text with _ | ⟨host, portText⟩
  · refine .same (Peer.read_congr (.nil r r') attr fun host hhost => ?_)
    rw [Peer.host?, hcut] at hhost
    cases hhost
  · have hparts : Parts text host portText := parts_iff.mpr hcut
    by_cases hagree : r.asks host = true → r.lookup host = r'.lookup host
    · have hhost : r.AgreeOn r' [host] := by
        refine .of_ownName_eq h.ownName_eq fun host' hhost' => ?_
        rw [List.mem_singleton.mp hhost']
        exact hagree
      refine .same (Peer.read_congr hhost attr fun host' hhost' => ?_)
      rw [Peer.host?, hcut, Option.map_some, Option.some_inj] at hhost'
      exact List.mem_singleton.mpr hhost'.symm
    · obtain ⟨hasks, hne⟩ := Classical.not_imp.mp hagree
      obtain ⟨hthis, hlocal, hany⟩ := Resolver.asks_iff.mp hasks
      have hthis' : ¬r'.IsThisHost host := by
        rwa [Resolver.IsThisHost, ← h.ownName_eq]
      have hmissing : r.lookup host = none := by
        rcases hlookup : r.lookup host with _ | address
        · rfl
        · exact absurd (hlookup.trans (h.lookup_eq host address hlookup).symm) hne
      rcases Nat.lt_or_ge 65535 (Numeral.lenient portText).toNat with hport | hport
      · exact .fault (Decides.outcome_eq (.port hparts hthis hport))
          (Decides.outcome_eq (.port hparts hthis' hport))
      · have hlocated : r.Located host .none := .missing hlocal hany hmissing
        refine .excused (Decides.outcome_eq (.host hparts hthis hport hlocated (Or.inr rfl)))
          ⟨rfl, host, portText, hparts, hmissing, ?_⟩
        rw [← hmissing]
        exact Ne.symm hne

/-- **A list of peers**: the first text at which the two may part is at fault for the first
resolver, and ends its reading. -/
theorem Pool.sameUnless_readInto (attr : String) (texts : List String) (pool : Pool) :
    SameUnless (fun f => ∃ text ∈ texts, f = .peerHost text attr ∧ Peer.Learnt r r' text)
      (readInto attr r pool texts) (readInto attr r' pool texts) := by
  induction texts generalizing pool with
  | nil => exact .same rfl
  | cons text texts ih =>
    rw [readInto_cons, readInto_cons]
    refine .bind ((Peer.sameUnless_read h attr text).mono ?_) fun p => (ih _).mono ?_
    · rintro f ⟨hf, hlearnt⟩
      exact ⟨text, List.mem_cons_self, hf, hlearnt⟩
    · rintro f ⟨text', htext', hf⟩
      exact ⟨text', List.mem_cons_of_mem text htext', hf⟩

theorem Pool.sameUnless_read (attr text : String) :
    SameUnless
      (fun f => ∃ t ∈ Text.fields ',' text, f = .peerHost t attr ∧ Peer.Learnt r r' t)
      (Pool.read attr r text) (Pool.read attr r' text) :=
  Pool.sameUnless_readInto h attr (Text.fields ',' text) empty

/-- **A request**: its outcome is the same, unless it lacks a host. -/
theorem Request.sameUnless_build (q : Request) :
    SameUnless (q.Lacks r r') (q.build r) (q.build r') := by
  cases q with
  | start time serverport peers socksproxy =>
    have hproxy : SameUnless ((start time serverport peers socksproxy).Lacks r r')
        (Start.readProxy r socksproxy) (Start.readProxy r' socksproxy) := by
      rw [Start.readProxy, Start.readProxy]
      split
      · exact .same rfl
      · refine (Peer.sameUnless_read h "socksproxy" socksproxy).mono ?_
        rintro f ⟨hf, hlearnt⟩
        exact ⟨_, List.mem_append_right _ List.mem_cons_self, hf, hlearnt⟩
    have hpool : SameUnless ((start time serverport peers socksproxy).Lacks r r')
        (Pool.read "peers" r peers) (Pool.read "peers" r' peers) := by
      refine (Pool.sameUnless_read h "peers" peers).mono ?_
      rintro f ⟨text, htext, hf, hlearnt⟩
      exact ⟨_, List.mem_append_left _ (List.mem_map_of_mem htext), hf, hlearnt⟩
    rw [Request.build_start, Request.build_start, Start.read, Start.read]
    refine .bind ?_ fun _ => .same rfl
    refine .bind_left _ fun _ => .bind_left _ fun _ => .bind_left _ fun _ =>
      .bind_left _ fun _ => ?_
    exact hproxy.bind fun _ => hpool.bind fun _ => .same rfl
  | transfer direction protocol size peers =>
    have hpeers : SameUnless ((transfer direction protocol size peers).Lacks r r')
        (Transfer.readPeers r peers) (Transfer.readPeers r' peers) := by
      rw [Transfer.readPeers, Transfer.readPeers]
      split
      · exact .same rfl
      · refine .bind ((Pool.sameUnless_read h "peers" peers).mono ?_) fun _ => .same rfl
        rintro f ⟨text, htext, hf, hlearnt⟩
        exact ⟨_, List.mem_map_of_mem htext, hf, hlearnt⟩
    rw [Request.build_transfer, Request.build_transfer, Transfer.read, Transfer.read]
    refine .bind ?_ fun _ => .same rfl
    refine .bind_left _ fun _ => .bind_left _ fun _ => .bind_left _ fun _ =>
      .bind_left _ fun _ => ?_
    exact hpeers.bind fun _ => .same rfl
  | ending | pause | synchronize => exact .same rfl

end Knows

/-! ### One more host in a table -/

namespace HostTable

variable {t : HostTable} {name host : String}

/-- **A new name hides nothing.** -/
theorem knows_add (hnew : ∀ e ∈ t.entries, Text.lower e.1 ≠ Text.lower name) (address : Address) :
    t.resolver.Knows (t.add name address).resolver where
  ownName_eq := rfl
  lookup_eq host found h := by
    change (Address.ofText? host).or (t.find? host) = some found at h
    change (Address.ofText? host).or ((t.add name address).find? host) = some found
    rcases hdotted : Address.ofText? host with _ | x
    · rw [hdotted, Option.none_or] at h
      rw [Option.none_or, find?_add, if_neg, h]
      intro hname
      rw [Text.alike_iff.mp hname] at hnew
      cases h.symm.trans (find?_eq_none_iff.mpr hnew)
    · rwa [hdotted] at h

/-- Only hosts of the new name are learnt. -/
theorem lower_eq_of_learnt {address : Address} (hmissing : t.resolver.lookup host = none)
    (hfound : (t.add name address).resolver.lookup host ≠ none) :
    Text.lower host = Text.lower name := by
  change (Address.ofText? host).or (t.find? host) = none at hmissing
  change (Address.ofText? host).or ((t.add name address).find? host) ≠ none at hfound
  obtain ⟨hdotted, hfind⟩ := Option.or_eq_none_iff.mp hmissing
  rw [hdotted, Option.none_or, find?_add, hfind] at hfound
  by_cases hname : Text.alike name host = true
  · exact (Text.alike_iff.mp hname).symm
  · exact absurd (if_neg hname) hfound

end HostTable

/-! ### Nodes -/

namespace Node

/-- **The fault is for want of a host of the name**, up to letter case: the host is that of one of
the peers, or of the proxy, and has no address that can be used. -/
inductive Wants (n : Node) (name : String) : Fault → Prop
  /-- The host is that of one of the peers. -/
  | peers {text host portText : String} (mem : text ∈ Text.fields ',' n.peers)
      (parts : Peer.Parts text host portText) (h : Text.lower host = Text.lower name) :
      Wants n name (.peerHost text "peers")
  /-- The host is that of the proxy. -/
  | socksproxy {host portText : String} (parts : Peer.Parts n.socksproxy host portText)
      (h : Text.lower host = Text.lower name) : Wants n name (.peerHost n.socksproxy "socksproxy")

/-- What is read as peers for a node are fields of its list of peers, and its proxy. -/
theorem mem_peerTexts_request {n : Node} {k : Kind} {p : String × String}
    (h : p ∈ (n.request k).peerTexts) :
    (∃ text ∈ Text.fields ',' n.peers, p = ("peers", text)) ∨ p = ("socksproxy", n.socksproxy) := by
  cases k with
  | start =>
    rcases List.mem_append.mp h with h | h
    · obtain ⟨text, htext, rfl⟩ := List.mem_map.mp h
      exact Or.inl ⟨text, htext, rfl⟩
    · exact Or.inr (List.mem_singleton.mp h)
  | transfer =>
    obtain ⟨text, htext, rfl⟩ := List.mem_map.mp h
    exact Or.inl ⟨text, htext, rfl⟩
  | ending | pause | synchronize => cases h

/-- A request lacks a host of the new name only. -/
theorem wants_of_lacks {n : Node} {k : Kind} {t : HostTable} {name : String} {address : Address}
    {f : Fault}
    (h : (n.request k).Lacks t.resolver (t.add name address).resolver f) : n.Wants name f := by
  obtain ⟨p, hp, rfl, host, portText, hparts, hmissing, hfound⟩ := h
  have hname := HostTable.lower_eq_of_learnt hmissing hfound
  rcases mem_peerTexts_request hp with ⟨text, htext, rfl⟩ | rfl
  · exact .peers htext hparts hname
  · exact .socksproxy hparts hname

/-- **A new host is no loss.** Enter a host into a table under a name that has no entry yet, in any
letter case, at whatever address. A node that could be made before is made as it was, with the same
log. And if the outcome is another one, it was a fault for want of this host before. -/
theorem build_with_new_host {t : HostTable} {name : String}
    (hnew : ∀ e ∈ t.entries, Text.lower e.1 ≠ Text.lower name) (address : Address) (n : Node) :
    let before := n.build t.resolver
    let after := n.build (t.add name address).resolver
    (∀ x, before.outcome = .ok x → after.outcome = .ok x ∧ after.events = before.events) ∧
      (before.outcome ≠ after.outcome → ∃ f, before.outcome = .error f ∧ n.Wants name f) := by
  intro before after
  have h : SameUnless (n.Wants name) before after := by
    dsimp only [before, after]
    rw [build, build]
    refine .bind_left _ fun k => ?_
    exact (Request.sameUnless_build (HostTable.knows_add hnew address) (n.request k)).mono
      fun f => wants_of_lacks
  refine ⟨fun x hx => ?_, h.excuse_of_ne⟩
  rw [h.eq_of_ok hx]
  exact ⟨hx, rfl⟩

/-- A start that goes through `relay` does not notice that `mars` is learnt, and be it at the
address that stands for none. One that names `mars` and `venus` is still at fault when `mars` is
learnt, but for want of `venus` now; and not even that changes if `mars` is put at the address that
stands for none. -/
theorem build_with_new_host_mars :
    let t := (HostTable.empty (some "me")).add "relay" ⟨10, 0, 0, 1⟩
    let learnt := t.add "Mars" ⟨10, 0, 0, 2⟩
    let n : Node := ⟨"start", "1", "80", "me:1,RELAY:7", "10.0.0.9:9", "", "", "", ""⟩
    let m : Node := ⟨"start", "1", "80", "relay:7,mars:8,venus:9", "", "", "", "", ""⟩
    let x : Action := ⟨.start ⟨1, 80, some ⟨⟨10, 0, 0, 9⟩, 9⟩, ⟨[⟨⟨10, 0, 0, 1⟩, 7⟩]⟩⟩, none⟩
    (∀ e ∈ t.entries, Text.lower e.1 ≠ Text.lower "Mars") ∧
      (n.build t.resolver).outcome = .ok x ∧ (n.build learnt.resolver).outcome = .ok x ∧
      (n.build (t.add "Mars" .none).resolver).outcome = .ok x ∧
      (m.build t.resolver).outcome = .error (.peerHost "mars:8" "peers") ∧
      (m.build learnt.resolver).outcome = .error (.peerHost "venus:9" "peers") ∧
      (∃ f, (m.build t.resolver).outcome = .error f ∧ m.Wants "Mars" f) ∧
      (m.build (t.add "Mars" .none).resolver).outcome = .error (.peerHost "mars:8" "peers") := by
  intro t learnt n m x
  have hnew : ∀ e ∈ t.entries, Text.lower e.1 ≠ Text.lower "Mars" := by
    dsimp only [t]
    decide
  have hmade : (n.build t.resolver).outcome = .ok x := by
    dsimp only [n, t, x]
    rfl
  have hmars : (m.build t.resolver).outcome = .error (.peerHost "mars:8" "peers") := by
    dsimp only [m, t]
    rfl
  have hvenus : (m.build learnt.resolver).outcome = .error (.peerHost "venus:9" "peers") := by
    dsimp only [m, learnt, t]
    rfl
  have hne : (m.build t.resolver).outcome ≠ (m.build learnt.resolver).outcome := by
    rw [hmars, hvenus]
    simp
  refine ⟨hnew, hmade, ((build_with_new_host hnew ⟨10, 0, 0, 2⟩ n).1 x hmade).1,
    ((build_with_new_host hnew .none n).1 x hmade).1, hmars, hvenus,
    (build_with_new_host hnew ⟨10, 0, 0, 2⟩ m).2 hne, ?_⟩
  dsimp only [m, t]
  rfl

end Node

end TrafficGraph
