import TrafficGraph.Proofs.Address.Dotted
import TrafficGraph.Reading.Action

/-!
# The log of a reading

A log that is read later has to be understood without the result that it came with. What
can be relied on is its form: a number of routine events, of which nothing follows about
the result, and then what the outcome calls for (`TrafficGraph.Logged.Closing`) – the
announcement of what was made, if the computation makes anything, or nothing, or the
warning about a host without an address, which only a fault can follow.

`TrafficGraph.Logged.ClosedBy` is that form. It is kept by chains, so it is shown for each
part of a reading once: one peer, a list of peers, a byte count. One peer has to be taken
as a whole, for the warning is logged while its host is located, which cannot fail; the
fault comes later, from the port or from the address that stands for none.

Peers that were read are routine events, and a pool can be put together from them:
`TrafficGraph.Pool.peers_fillAll` says how, also for a list that ends at a fault.

Who reads a log has messages and fields, and nothing else of an event. So announcements are told by
their message, and a peer is what the fields of its event show (`TrafficGraph.Event.shownPeer?`):
the peers that a log shows are those that were read (`TrafficGraph.Event.shownPeers_eq_map`), and
other peers would be shown otherwise (`TrafficGraph.Peer.map_shown_inj`).
-/

namespace TrafficGraph

/-! ### Kinds of event -/

namespace Event

/-- The messages that announce an action. -/
def announcements : List String :=
  ["Created start action", "Created end action", "Created pause action", "Created transfer action"]

/-- The event announces an action that was made, by its message. -/
def isCreation (e : Event) : Bool := announcements.contains e.message

/-- The event is a warning. -/
def isWarning (e : Event) : Bool := e.level == .warn

/-- The event is a step on the way: it neither announces an action nor warns. -/
def isRoutine (e : Event) : Bool := !e.isCreation && !e.isWarning

/-- The peer that was read, according to the event. -/
def peer? : Event → Option Peer
  | readPeer peer _ => some peer
  | _ => none

/-- The peers with a port that were read, according to a log. -/
def peersWithPort (es : List Event) : List Peer := (es.filterMap peer?).filter (·.port != 0)

theorem peersWithPort_append (es es' : List Event) :
    peersWithPort (es ++ es') = peersWithPort es ++ peersWithPort es' := by
  rw [peersWithPort, List.filterMap_append, List.filter_append]
  rfl

theorem isRoutine_iff {e : Event} :
    e.isRoutine = true ↔ e.isCreation = false ∧ e.isWarning = false := by
  rw [isRoutine, Bool.and_eq_true, Bool.not_eq_true', Bool.not_eq_true']

end Event

/-! ### What is shown of a peer -/

/-- What a log shows of a peer: the texts of its address and of its port. -/
def Peer.shown (p : Peer) : String × String := (p.address.text, p.port.toNat.repr)

/-- Ports are told apart by what is shown of them. -/
theorem Peer.repr_port_inj {v w : UInt16} : v.toNat.repr = w.toNat.repr ↔ v = w :=
  @Text.written_inj _ (fun s => Numeral.port? (Numeral.lenient s)) _ Numeral.port?_lenient_repr v w

/-- A port is shown as a zero if it is zero. -/
theorem Peer.shown_snd_eq_zero_iff {p : Peer} : p.shown.2 = "0" ↔ p.port = 0 := by
  have hzero : (0 : UInt16).toNat.repr = "0" := by decide
  rw [shown, ← hzero, repr_port_inj]

/-- **Peers are told apart by what is shown of them.** -/
theorem Peer.map_shown_inj {ps qs : List Peer} : ps.map shown = qs.map shown ↔ ps = qs := by
  refine List.map_inj_right fun p q h => ?_
  obtain ⟨haddress, hport⟩ := Prod.mk.inj h
  rw [Peer.mk.injEq]
  exact ⟨Address.text_inj.mp haddress, Peer.repr_port_inj.mp hport⟩

namespace Event

/-- **The peer that an event shows**, if by its message it is about a peer that was read. -/
def shownPeer? (e : Event) : Option (String × String) :=
  if e.message = "Parsed peer" then do
    let address ← e.fields.lookup "address"
    let port ← e.fields.lookup "port"
    return (address, port)
  else none

/-- The peers that a log shows, without those whose port is zero. -/
def shownPeers (es : List Event) : List (String × String) :=
  (es.filterMap shownPeer?).filter (·.2 != "0")

theorem shownPeer?_eq_map (e : Event) : e.shownPeer? = e.peer?.map Peer.shown := by
  cases e with
  | readPeer => rfl
  | _ => simp [shownPeer?, message, peer?]

/-- **The peers that a log shows are those that were read.** -/
theorem shownPeers_eq_map (es : List Event) :
    shownPeers es = (peersWithPort es).map Peer.shown := by
  have hshown : shownPeer? = fun e => e.peer?.map Peer.shown := funext shownPeer?_eq_map
  have hport : (fun x : String × String => x.2 != "0") ∘ Peer.shown = fun p => p.port != 0 :=
    funext fun p => by
      rw [Bool.eq_iff_iff, Function.comp_apply, bne_iff_ne, bne_iff_ne, ne_eq,
        Peer.shown_snd_eq_zero_iff]
  rw [shownPeers, peersWithPort, hshown, ← List.map_filterMap, List.filter_map, hport]

end Event

/-! ### The form of a log -/

namespace Logged

variable {α β : Type}

/-- **What closes a log.** A value may be announced; a fault may come with the warning that
a host has no address, and is one of content then. -/
inductive Closing (made : α → Option Event) : Except Fault α → List Event → Prop
  /-- The announcement of a value, if there is one. -/
  | value (a : α) : Closing made (.ok a) (made a).toList
  /-- A fault needs no event. -/
  | fault (f : Fault) : Closing made (.error f) []
  /-- A fault of content, after a host without an address. -/
  | unresolved {f : Fault} (host : String) (h : f.kind = .invalidContent) :
    Closing made (.error f) [.unresolved host]

/-- What may come with a fault does not depend on what would have been made. -/
theorem Closing.of_error {made : α → Option Event} {made' : β → Option Event} {f : Fault}
    {es : List Event} (h : Closing made (.error f) es) : Closing made' (.error f) es := by
  cases h with
  | fault => exact .fault f
  | unresolved host hf => exact .unresolved host hf

/-- **The form of a log**: routine events, and then what the outcome calls for. -/
def ClosedBy (made : α → Option Event) (x : Logged α) : Prop :=
  ∃ before closing, x.events = before ++ closing ∧ (∀ e ∈ before, e.isRoutine = true) ∧
    Closing made x.outcome closing

/-- The computation is a step on the way: nothing announces its value. -/
def Inner (x : Logged α) : Prop := x.ClosedBy fun _ => none

variable {made : α → Option Event}

theorem ClosedBy.fail (f : Fault) : (fail f : Logged α).ClosedBy made :=
  ⟨[], [], rfl, by simp, .fault f⟩

theorem Inner.pure (a : α) : (pure a : Logged α).Inner :=
  ⟨[], [], rfl, by simp, .value a⟩

theorem Inner.orFail (f : Fault) (x : Option α) : (orFail f x).Inner := by
  rcases x with _ | a
  · exact .fail f
  · exact .pure a

theorem Inner.require (k : Kind) (attr text : String) : (require k attr text).Inner := by
  rw [Logged.require]
  split
  · exact .fail _
  · exact .pure ()

/-- A routine event in front does not change the form. -/
theorem ClosedBy.note_bind {e : Event} (he : e.isRoutine = true) {f : Unit → Logged α}
    (h : (f ()).ClosedBy made) : (note e >>= f).ClosedBy made := by
  obtain ⟨before, closing, hevents, hbefore, hclosing⟩ := h
  refine ⟨e :: before, closing, ?_, List.forall_mem_cons.mpr ⟨he, hbefore⟩, hclosing⟩
  rw [events_note_bind, hevents, List.cons_append]

/-- A value is announced just before it is given. -/
theorem ClosedBy.announce {e : Event} {a : α} (h : made a = some e) :
    (note e >>= fun _ => Pure.pure a).ClosedBy made := by
  refine ⟨[], [e], rfl, by simp, ?_⟩
  have hclosing : Closing made (.ok a) (made a).toList := .value a
  rwa [h] at hclosing

/-- **Chains keep the form**: if the first part ends at a fault, its log is the whole one;
otherwise it is routine, and the second part closes it. -/
theorem ClosedBy.bind {made : β → Option Event} {x : Logged α} {f : α → Logged β} (hx : x.Inner)
    (hf : ∀ a, (f a).ClosedBy made) : (x >>= f).ClosedBy made := by
  obtain ⟨before, closing, hevents, hbefore, hclosing⟩ := hx
  obtain ⟨fault | a, es⟩ := x
  · exact ⟨before, closing, hevents, hbefore, hclosing.of_error⟩
  · -- nothing announces the value of the first part, so its log is routine throughout
    obtain ⟨before', closing', hevents', hbefore', hclosing'⟩ := hf a
    cases hclosing
    refine ⟨before ++ before', closing', ?_, ?_, hclosing'⟩
    · change es ++ (f a).events = _
      rw [hevents', ← List.append_assoc]
      exact congrArg (· ++ before' ++ closing') (hevents.trans (List.append_nil before))
    · exact List.forall_mem_append.mpr ⟨hbefore, hbefore'⟩

/-- A value that is only wrapped is announced as what it is wrapped into. -/
theorem ClosedBy.map {made : β → Option Event} {x : Logged α} {g : α → β}
    (hx : x.ClosedBy fun a => made (g a)) : (x >>= fun a => Pure.pure (g a)).ClosedBy made := by
  obtain ⟨before, closing, hevents, hbefore, hclosing⟩ := hx
  obtain ⟨fault | a, es⟩ := x
  · exact ⟨before, closing, hevents, hbefore, hclosing.of_error⟩
  · refine ⟨before, closing, (List.append_nil es).trans hevents, hbefore, ?_⟩
    change Closing made (.ok (g a)) closing
    cases hclosing
    exact .value (g a)

/-! ### What the form says -/

/-- **Warnings are last words**: there is at most one, with the message and the field of a host
without an address, nothing follows it, and it comes with a fault of content. -/
def WarnsLast (x : Logged α) : Prop :=
  x.events.filter Event.isWarning = [] ∨
    ∃ e host f, x.events.filter Event.isWarning = [e] ∧ x.events.getLast? = some e ∧
      e.message = "Error resolving host address" ∧ e.fields = [("host", host)] ∧
      x.outcome = .error f ∧ f.kind = .invalidContent

/-- Routine events are neither announcements nor warnings. -/
theorem filter_eq_nil_of_isRoutine {es : List Event} (h : ∀ e ∈ es, e.isRoutine = true) :
    es.filter Event.isCreation = [] ∧ es.filter Event.isWarning = [] := by
  rw [List.filter_eq_nil_iff, List.filter_eq_nil_iff]
  refine ⟨fun e he => ?_, fun e he => ?_⟩
  · rw [(Event.isRoutine_iff.mp (h e he)).1]
    exact Bool.false_ne_true
  · rw [(Event.isRoutine_iff.mp (h e he)).2]
    exact Bool.false_ne_true

/-- A value that is announced is announced once, by the last event. -/
theorem ClosedBy.filter_isCreation_of_ok {x : Logged α} (hx : x.ClosedBy made) {a : α} {e : Event}
    (ha : x.outcome = .ok a) (hmade : made a = some e) (he : e.isCreation = true) :
    x.events.filter Event.isCreation = [e] ∧ x.events.getLast? = some e := by
  obtain ⟨before, closing, hevents, hbefore, hclosing⟩ := hx
  rw [ha] at hclosing
  cases hclosing
  rw [hmade, Option.toList_some] at hevents
  refine ⟨?_, hevents ▸ List.getLast?_concat⟩
  rw [hevents, List.filter_append, (filter_eq_nil_of_isRoutine hbefore).1, List.nil_append,
    List.filter_cons_of_pos he, List.filter_nil]

/-- At a fault nothing is announced. -/
theorem ClosedBy.filter_isCreation_of_error {x : Logged α} (hx : x.ClosedBy made) {f : Fault}
    (hf : x.outcome = .error f) : x.events.filter Event.isCreation = [] := by
  obtain ⟨before, closing, hevents, hbefore, hclosing⟩ := hx
  rw [hf] at hclosing
  rw [hevents, List.filter_append, (filter_eq_nil_of_isRoutine hbefore).1, List.nil_append]
  cases hclosing <;> rfl

/-- A log in this form warns last, if announcements are not taken for warnings. -/
theorem ClosedBy.warnsLast {x : Logged α} (hx : x.ClosedBy made)
    (hmade : ∀ a e, made a = some e → e.isWarning = false) : x.WarnsLast := by
  obtain ⟨before, closing, hevents, hbefore, hclosing⟩ := hx
  obtain ⟨outcome, es⟩ := x
  obtain rfl : es = before ++ closing := hevents
  rw [WarnsLast, List.filter_append, (filter_eq_nil_of_isRoutine hbefore).2, List.nil_append]
  cases hclosing with
  | value a =>
    rw [List.filter_eq_nil_iff]
    refine Or.inl fun e he => ?_
    rw [hmade a e (Option.mem_toList.mp he)]
    exact Bool.false_ne_true
  | fault f => exact Or.inl rfl
  | unresolved host h =>
    exact Or.inr ⟨.unresolved host, host, _, rfl, List.getLast?_concat, rfl, rfl, rfl, h⟩

end Logged

open Logged

/-! ### One peer -/

namespace Peer

/-- What the reading of a peer gives together with what it logs: this host, a peer with an
address that can be talked to, a fault that nothing is logged about, or a fault after a
host without an address. -/
inductive Reading (attr text : String) : Logged (Option Peer) → Prop
  /-- This host is no peer. -/
  | own (host : String) : Reading attr text ⟨.ok none, [.ownHost attr host]⟩
  /-- A peer is logged as it is given. -/
  | peer (p : Peer) (h : p.address.isUsable = true) :
    Reading attr text ⟨.ok (some p), [.readPeer p text]⟩
  /-- The text is at fault. -/
  | fault (f : Fault) (h : f.kind = .invalidContent) : Reading attr text ⟨.error f, []⟩
  /-- The host has no address, so the text is at fault. -/
  | unresolved (f : Fault) (host : String) (h : f.kind = .invalidContent) :
    Reading attr text ⟨.error f, [.unresolved host]⟩

/-- What is left of the reading of a peer when its host has an address. -/
def settle (attr text portText : String) (address : Address) : Logged (Option Peer) := do
  let port ← .orFail (.peerPort text attr) (Numeral.port? (Numeral.lenient portText))
  if address.isUsable then
    .note (.readPeer ⟨address, port⟩ text)
    return some ⟨address, port⟩
  else .fail (.peerHost text attr)

/-- **The reading of a peer in two parts**: its host is located, and the rest depends on
the address only. -/
theorem read_of_cut? {attr text host portText : String} (r : Resolver)
    (hcut : Text.cut? ':' text = some (host, portText)) :
    read attr r text =
      if r.isOwn host then note (.ownHost attr host) >>= fun _ => pure none
      else r.locate host >>= settle attr text portText := by
  rw [read, hcut]
  rfl

theorem reading_settle (attr text portText : String) (address : Address) :
    Reading attr text (settle attr text portText address) := by
  rw [settle]
  rcases Numeral.port? (Numeral.lenient portText) with _ | port
  · exact .fault (.peerPort text attr) rfl
  · change Reading attr text (if address.isUsable then _ else _)
    split
    · exact .peer ⟨address, port⟩ ‹_›
    · exact .fault (.peerHost text attr) rfl

/-- The address that stands for none is reserved, so no port makes a peer of it. -/
theorem settle_none (attr text portText : String) :
    ∃ f : Fault, settle attr text portText .none = fail f ∧ f.kind = .invalidContent := by
  rw [settle]
  rcases Numeral.port? (Numeral.lenient portText) with _ | port
  · exact ⟨.peerPort text attr, rfl, rfl⟩
  · exact ⟨.peerHost text attr, rfl, rfl⟩

/-- **The reading of a peer**, with its log. -/
theorem reading_read (attr : String) (r : Resolver) (text : String) :
    Reading attr text (read attr r text) := by
  rcases hcut : Text.cut? ':' text with _ | ⟨host, portText⟩
  · rw [read, hcut]
    exact .fault (.peerShape attr) rfl
  · rw [read_of_cut? r hcut]
    split
    · exact .own host
    · rw [Resolver.locate]
      split
      · rw [Logged.pure_bind]
        exact reading_settle attr text portText .loopback
      · split
        · rw [Logged.pure_bind]
          exact reading_settle attr text portText .any
        · rcases r.lookup host with _ | address
          · -- the warning is logged before the fault is found, so the two cannot be parted
            obtain ⟨f, hsettle, hf⟩ := settle_none attr text portText
            dsimp only
            rw [Logged.bind_assoc, Logged.pure_bind, hsettle]
            exact .unresolved f host hf
          · dsimp only
            rw [Logged.pure_bind]
            exact reading_settle attr text portText address

variable {attr text : String} {x : Logged (Option Peer)}

/-- One peer is a step on the way, and the warning closes its log. -/
theorem Reading.inner (h : Reading attr text x) : x.Inner := by
  cases h with
  | own host =>
    have hroutine : ∀ e ∈ [Event.ownHost attr host], e.isRoutine = true :=
      List.forall_mem_singleton.mpr rfl
    exact ⟨_, [], rfl, hroutine, .value none⟩
  | peer p =>
    have hroutine : ∀ e ∈ [Event.readPeer p text], e.isRoutine = true :=
      List.forall_mem_singleton.mpr rfl
    exact ⟨_, [], rfl, hroutine, .value (some p)⟩
  | fault f => exact .fail f
  | unresolved f host h => exact ⟨[], [.unresolved host], rfl, by simp, .unresolved host h⟩

/-- **What a peer adds to a pool is what its log says**: the peer that was read, unless it
has no port. -/
theorem Reading.peers_offer (h : Reading attr text x) {p : Option Peer} (hp : x.outcome = .ok p)
    (pool : Pool) : (pool.offer p).peers = pool.peers ++ Event.peersWithPort x.events := by
  cases h with
  | own host =>
    cases hp
    exact (List.append_nil pool.peers).symm
  | peer q hq =>
    cases hp
    have husable : q.isUsable = (q.port != 0) := by rw [isUsable, hq, Bool.true_and]
    have hlog : Event.peersWithPort [.readPeer q text] = [q].filter (·.port != 0) := rfl
    rw [Pool.offer, husable, hlog, List.filter_cons]
    split
    · rfl
    · exact (List.append_nil pool.peers).symm
  | fault f => cases hp
  | unresolved f host => cases hp

/-- A text that is at fault logs no peer. -/
theorem Reading.peersWithPort_of_error (h : Reading attr text x) {f : Fault}
    (hf : x.outcome = .error f) : Event.peersWithPort x.events = [] := by
  cases h with
  | own host => cases hf
  | peer p => cases hf
  | fault f => rfl
  | unresolved f host => rfl

end Peer

/-! ### A list of peers -/

namespace Pool

variable (attr : String) (r : Resolver)

/-- The report of a list is that of its first peer, chained with that of the others. -/
theorem report_fillAll_cons (pool : Pool) (text : String) (texts : List String) :
    (fillAll attr r pool (text :: texts)).report =
      Peer.read attr r text >>= fun p => (fillAll attr r (pool.offer p) texts).report := by
  rw [fillAll]
  dsimp only
  obtain ⟨f | p, es⟩ := Peer.read attr r text <;> rfl

theorem inner_report_fillAll (texts : List String) (pool : Pool) :
    (fillAll attr r pool texts).report.Inner := by
  induction texts generalizing pool with
  | nil => exact .pure ()
  | cons text texts ih =>
    rw [report_fillAll_cons]
    exact .bind (Peer.reading_read attr r text).inner fun p => ih (pool.offer p)

/-- **The pool after a list** is the pool before it, and then the peers with a port that
are in the log, in order. -/
theorem peers_fillAll (texts : List String) (pool : Pool) :
    (fillAll attr r pool texts).pool.peers =
      pool.peers ++ Event.peersWithPort (fillAll attr r pool texts).report.events := by
  induction texts generalizing pool with
  | nil => exact (List.append_nil pool.peers).symm
  | cons text texts ih =>
    have hread := Peer.reading_read attr r text
    rw [fillAll]
    dsimp only
    -- a fault ends the list, and what was read so far stays in the pool
    rcases hfirst : (Peer.read attr r text).outcome with f | p
    · dsimp only
      rw [hread.peersWithPort_of_error hfirst, List.append_nil]
    · dsimp only
      rw [ih, hread.peers_offer hfirst, Event.peersWithPort_append, List.append_assoc]

theorem inner_read (text : String) : (read attr r text).Inner := by
  rw [read]
  exact .bind (inner_report_fillAll attr r _ empty) fun _ => Inner.pure _

end Pool

/-! ### A byte count -/

namespace Size

theorem inner_scale (attr text : String) (number : UInt64) (unit : Option String) :
    (scale attr text number unit).Inner := by
  rcases unit with _ | unit
  · exact .pure number
  · rw [scale]
    exact .bind (.orFail _ _) fun _ => Inner.orFail _ _

theorem inner_read (attr text : String) : (read attr text).Inner := by
  rw [read]
  rcases split text with ⟨number, unit⟩
  dsimp only
  split
  · exact .fail _
  · exact .bind (.orFail _ _) fun n => .bind (inner_scale attr text n unit) fun _ =>
      .note_bind rfl (Inner.pure _)

end Size

end TrafficGraph
