import TrafficGraph.Proofs.Node.Lookup
import TrafficGraph.Proofs.Reading.Start

/-!
# This host among the peers

A text that names this host gives no peer, and that is settled before its port is read and before
anything is looked up. So it might as well not be there: a list without its texts of this kind
(`TrafficGraph.Pool.others`) does the same to a pool and has the same fault as the whole list, be
they in front of the text where the list stops or behind it. All that differs is the log.

What is left may be nothing. A list of nothing is not a list that can be written – the empty text
has a field, and it is at fault –, but it is read as if there were one: without a fault, and into
no peers. A transfer takes that for its peers, and a start does not.

`TrafficGraph.Request.own_host_left_out` says all this for lists as they are written.
-/

namespace TrafficGraph

open Logged

/-! ### One text -/

namespace Peer

theorem namesOwn_iff {r : Resolver} {text : String} :
    NamesOwn r text ↔ (host? text).any r.isOwn = true := by
  rw [NamesOwn, host?]
  simp only [parts_iff, Resolver.isThisHost_iff]
  rcases Text.cut? ':' text with _ | ⟨host, portText⟩ <;> simp

instance (r : Resolver) : DecidablePred (NamesOwn r) := fun _ =>
  decidable_of_iff _ namesOwn_iff.symm

end Peer

namespace Pool

/-- Two ways to fill a pool that differ in their log at most. -/
structure Filled.SameButLog (x y : Filled) : Prop where
  /-- The pools afterwards are the same. -/
  pool_eq : x.pool = y.pool
  /-- So are the outcomes. -/
  outcome_eq : x.report.outcome = y.report.outcome

theorem Filled.SameButLog.trans {x y z : Filled} (h : x.SameButLog y) (h' : y.SameButLog z) :
    x.SameButLog z :=
  ⟨h.pool_eq.trans h'.pool_eq, h.outcome_eq.trans h'.outcome_eq⟩

/-- A step in front is no matter. -/
theorem Filled.SameButLog.andThen_left (x : Filled) {next next' : Pool → Filled}
    (h : ∀ pool, (next pool).SameButLog (next' pool)) :
    (x.andThen next).SameButLog (x.andThen next') := by
  rcases hx : x.report.outcome with f | u
  · rw [andThen_of_error hx, andThen_of_error hx]
    exact ⟨rfl, rfl⟩
  · rw [andThen_of_ok hx, andThen_of_ok hx]
    refine ⟨(h x.pool).pool_eq, ?_⟩
    rw [Logged.outcome_bind, Logged.outcome_bind, (h x.pool).outcome_eq]

/-- The texts of a list that do not name this host. -/
def others (r : Resolver) (texts : List String) : List String :=
  texts.filter fun text => ¬Peer.NamesOwn r text

section Others

variable {attr : String} {r : Resolver}

/-- **A text that names this host does nothing**, and the list goes on. -/
theorem fillAll_cons_of_namesOwn {text : String} (h : Peer.NamesOwn r text) (pool : Pool)
    (texts : List String) :
    (fillAll attr r pool texts).SameButLog (fillAll attr r pool (text :: texts)) := by
  have hpool : (fillOne attr r pool text).pool = pool := by
    rw [fillOne, h.outcome_read]
    rfl
  have houtcome : (fillOne attr r pool text).report.outcome = .ok () := by
    rw [outcome_fillOne, h.outcome_read]
    rfl
  rw [fillAll_cons, Filled.andThen_of_ok houtcome, hpool]
  refine ⟨rfl, ?_⟩
  rw [Logged.outcome_bind, houtcome]

/-- **The texts that name this host may be left out**, wherever they are in the list. -/
theorem fillAll_others (texts : List String) (pool : Pool) :
    (fillAll attr r pool (others r texts)).SameButLog (fillAll attr r pool texts) := by
  induction texts generalizing pool with
  | nil => exact ⟨rfl, rfl⟩
  | cons text texts ih =>
    by_cases hown : Peer.NamesOwn r text
    · have hothers : others r (text :: texts) = others r texts :=
        List.filter_cons_of_neg (by simpa using hown)
      rw [hothers]
      exact (ih pool).trans (fillAll_cons_of_namesOwn hown pool texts)
    · have hothers : others r (text :: texts) = text :: others r texts :=
        List.filter_cons_of_pos (by simpa using hown)
      -- this text is in both lists, and leaves both the same pool to go on with
      rw [hothers, fillAll_cons, fillAll_cons]
      exact .andThen_left _ ih

/-- The rest of a list, joined again, has the texts of the rest for its fields. -/
theorem fields_intercalate_others {list : String} (h : others r (Text.fields ',' list) ≠ []) :
    Text.fields ',' (",".intercalate (others r (Text.fields ',' list))) =
      others r (Text.fields ',' list) :=
  Text.fields_intercalate h fun _ htext => Text.not_mem_of_mem_fields (List.mem_filter.mp htext).1

/-- **Where this host is does not matter.** Two resolvers that agree on what this host is, and on
where the others are, read a list in the same way, down to the log. -/
theorem fill_congr_of_others {r' : Resolver} (hname : r'.ownName = r.ownName)
    (hlookup : ∀ host, ¬r.IsThisHost host → r'.lookup host = r.lookup host) (pool : Pool)
    (list : String) : fill attr r' pool list = fill attr r pool list := by
  have hagree : r.AgreeOn r' (hosts list) :=
    .of_ownName_eq hname.symm fun host _ hasks => by
      have hown := (Resolver.asks_eq_true_iff.mp hasks).1
      refine (hlookup host fun hthis => ?_).symm
      rw [Resolver.isThisHost_iff.mp hthis] at hown
      cases hown
  exact (fillAll_congr hagree attr (fun _ => id) pool).symm

/-! ### A list of this host alone -/

variable {list : String} (h : ∀ text ∈ Text.fields ',' list, Peer.NamesOwn r text)

include h

/-- **A list of this host alone** does nothing to a pool, and is not at fault. -/
theorem fill_of_forall_namesOwn (pool : Pool) :
    (fill attr r pool list).pool = pool ∧ (fill attr r pool list).report.outcome = .ok () := by
  have hnone : others r (Text.fields ',' list) = [] :=
    List.filter_eq_nil_iff.mpr fun text htext => by simpa using h text htext
  have hsame := @fillAll_others attr r (Text.fields ',' list) pool
  rw [hnone] at hsame
  exact ⟨hsame.pool_eq.symm, hsame.outcome_eq.symm⟩

/-- Such a list is not empty, for its first text has a colon. -/
theorem ne_empty_of_forall_namesOwn : list ≠ "" := by
  rintro rfl
  obtain ⟨host, portText, hparts, -⟩ := h "" List.mem_cons_self
  have hlength := congrArg List.length hparts.toList_eq
  simp at hlength

end Others

end Pool

/-! ### Actions -/

section Actions

variable {r : Resolver} {list : String}
  (h : ∀ text ∈ Text.fields ',' list, Peer.NamesOwn r text)

include h

/-- **A start has no use for this host alone**: whatever else is asked of its texts, nothing else
is wrong with them. -/
theorem Start.outcome_build_of_forall_namesOwn {time serverport proxy : String} (htime : time ≠ "")
    (hserverport : serverport ≠ "") (hport : IsServerPort serverport)
    (hproxy : proxy = "" ∨ Peer.Sound "socksproxy" r proxy) :
    ((Request.start time serverport list proxy).build r).outcome =
      .error (.noUsablePeers list) := by
  obtain ⟨hpool, houtcome⟩ := @Pool.fill_of_forall_namesOwn "peers" r list h Pool.empty
  refine outcome_build_eq_error_iff.mpr ⟨6, .unusable (congrArg Pool.peers hpool), ?_⟩
  -- none of the things that would count before this one is wrong
  intro j hj g hwrong
  cases hwrong with
  | time ht => exact htime ht
  | serverport hs => exact hserverport hs
  | peers hp => exact Pool.ne_empty_of_forall_namesOwn h hp
  | port hp => exact hp hport
  | proxy hne hp => exact Peer.not_sound_iff.mpr ⟨g, hp⟩ (hproxy.resolve_left hne)
  | peer hstop =>
    rw [Pool.outcome_fill_of_stopsAt hstop] at houtcome
    cases houtcome
  | unusable => exact Nat.lt_irrefl 6 hj

/-- **A transfer keeps the pool** that this host alone gives, which has no peers. -/
theorem Transfer.outcome_build_of_forall_namesOwn {direction protocol size : String}
    {parameters : TransferParameters}
    (hdirection : Direction.ofText? direction = some parameters.direction)
    (hprotocol : Protocol.ofText? protocol = some parameters.protocol) (hsize : size ≠ "")
    (hbytes : (Size.read "size" size).outcome = .ok parameters.size) :
    ((Request.transfer direction protocol size list).build r).outcome =
      .ok (.ofPayload (.transfer ⟨parameters, some .empty⟩)) := by
  obtain ⟨hpool, houtcome⟩ := @Pool.fill_of_forall_namesOwn "peers" r list h Pool.empty
  have hread : (Pool.read "peers" r list).outcome = .ok .empty :=
    Pool.outcome_read_eq_ok_iff.mpr ⟨houtcome, hpool.symm⟩
  have hpeers : (Transfer.readPeers r list).outcome = .ok (some .empty) := by
    rw [readPeers, if_neg (Pool.ne_empty_of_forall_namesOwn h), outcome_bind, hread]
    rfl
  -- the empty text is none of the words, so the words are there
  have hdirection' : direction ≠ "" := by
    rintro rfl
    cases hdirection
  have hprotocol' : protocol ≠ "" := by
    rintro rfl
    cases hprotocol
  have hmade : (Transfer.read r direction protocol size list).outcome =
      .ok ⟨parameters, some .empty⟩ :=
    read_eq_ok_iff.mpr ⟨⟨hdirection', hdirection⟩, ⟨hprotocol', hprotocol⟩, ⟨hsize, hbytes⟩, hpeers⟩
  rw [Request.build_transfer, outcome_bind, hmade]
  rfl

end Actions

namespace Request

/-- **A node never serves itself.** Leave those texts out of a list of peers that name this host,
whatever stands behind the name: as long as a text is left, the rest of the list does to any pool
what the whole list does, and has the same fault, if any. Where this host is does not matter
either. If no text is left, then reading the list does nothing, and goes well; a start that is all
right otherwise has no usable peers, and a transfer has a pool without peers. -/
theorem own_host_left_out (r : Resolver) (list : String) :
    let others := Pool.others r (Text.fields ',' list)
    (others ≠ [] → ∀ (attr : String) (pool : Pool),
        (pool.fill attr r (",".intercalate others)).SameButLog (pool.fill attr r list)) ∧
      (∀ r' : Resolver, r'.ownName = r.ownName →
        (∀ host, ¬r.IsThisHost host → r'.lookup host = r.lookup host) →
        ∀ (attr : String) (pool : Pool), pool.fill attr r' list = pool.fill attr r list) ∧
      ((∀ text ∈ Text.fields ',' list, Peer.NamesOwn r text) →
        (∀ (attr : String) (pool : Pool),
          (pool.fill attr r list).pool = pool ∧
            (pool.fill attr r list).report.outcome = .ok ()) ∧
        (∀ time serverport proxy : String, time ≠ "" → serverport ≠ "" →
          Start.IsServerPort serverport → (proxy = "" ∨ Peer.Sound "socksproxy" r proxy) →
          ((start time serverport list proxy).build r).outcome = .error (.noUsablePeers list)) ∧
        (Fault.noUsablePeers list).kind = .invalidContent ∧
        ∀ (direction protocol size : String) (parameters : TransferParameters),
          Direction.ofText? direction = some parameters.direction →
          Protocol.ofText? protocol = some parameters.protocol → size ≠ "" →
          (Size.read "size" size).outcome = .ok parameters.size →
          ((transfer direction protocol size list).build r).outcome =
            .ok (.ofPayload (.transfer ⟨parameters, some .empty⟩))) := by
  intro others
  refine ⟨fun hne attr pool => ?_, fun r' hname hlookup attr pool => ?_, fun h => ?_⟩
  · rw [Pool.fill, Pool.fields_intercalate_others hne]
    exact Pool.fillAll_others _ pool
  · exact Pool.fill_congr_of_others hname hlookup pool list
  · exact ⟨fun attr => Pool.fill_of_forall_namesOwn h,
      fun _ _ _ => Start.outcome_build_of_forall_namesOwn h, rfl,
      fun _ _ _ _ => Transfer.outcome_build_of_forall_namesOwn h⟩

/-- This host by its name, with ports that are none, before and behind a text at fault: the list
is at fault as the two texts are that do not name it, and gives the same peer. That another
resolver knows where this host is makes no difference. Alone, this host is enough for a transfer,
and too little for a start. -/
theorem own_host_left_out_around :
    let r : Resolver := ⟨some "me", fun host => if host = "relay" then some ⟨10, 0, 0, 1⟩ else none⟩
    let r' : Resolver := ⟨some "me", fun host =>
      if host = "me" then some ⟨10, 0, 0, 2⟩ else r.lookup host⟩
    let list := "me:99999,relay:7,ME:port,mars:1,me:"
    let rest := Pool.others r (Text.fields ',' list)
    let selves := "Me:99999,me:1:2"
    rest = ["relay:7", "mars:1"] ∧ rest ≠ [] ∧
      (Pool.empty.fill "peers" r (",".intercalate rest)).SameButLog
        (Pool.empty.fill "peers" r list) ∧
      (Pool.empty.fill "peers" r list).report.outcome = .error (.peerHost "mars:1" "peers") ∧
      (Pool.empty.fill "peers" r list).pool = ⟨[⟨⟨10, 0, 0, 1⟩, 7⟩]⟩ ∧
      Pool.empty.fill "peers" r' list = Pool.empty.fill "peers" r list ∧
      (∀ text ∈ Text.fields ',' selves, Peer.NamesOwn r text) ∧
      ((start "1" "80" selves "").build r).outcome = .error (.noUsablePeers selves) ∧
      ((transfer "get" "tcp" "5 kb" selves).build r).outcome =
        .ok (.ofPayload (.transfer ⟨⟨.get, .tcp, 5000⟩, some .empty⟩)) := by
  intro r r' list rest selves
  have hrest : rest = ["relay:7", "mars:1"] := by
    dsimp only [rest, r, list]
    decide
  have hne : rest ≠ [] := by
    rw [hrest]
    exact List.cons_ne_nil _ _
  have hlookup : ∀ host, ¬r.IsThisHost host → r'.lookup host = r.lookup host := by
    intro host hother
    exact if_neg fun hme => hother ⟨"me", rfl, by rw [hme]⟩
  have hselves : ∀ text ∈ Text.fields ',' selves, Peer.NamesOwn r text := by
    dsimp only [selves, r]
    decide
  obtain ⟨hleft, hwhere, -⟩ := own_host_left_out r list
  obtain ⟨-, -, halone⟩ := own_host_left_out r selves
  obtain ⟨-, hstart, -, htransfer⟩ := halone hselves
  have hfault : (Pool.empty.fill "peers" r list).report.outcome =
      .error (.peerHost "mars:1" "peers") := by
    dsimp only [r, list]
    rfl
  have hpool : (Pool.empty.fill "peers" r list).pool = ⟨[⟨⟨10, 0, 0, 1⟩, 7⟩]⟩ := by
    dsimp only [r, list]
    rfl
  have hport : Start.IsServerPort "80" := ⟨by decide, by decide⟩
  exact ⟨hrest, hne, hleft hne "peers" .empty, hfault, hpool,
    hwhere r' rfl hlookup "peers" .empty, hselves,
    hstart "1" "80" "" (by decide) (by decide) hport (Or.inl rfl),
    htransfer "get" "tcp" "5 kb" ⟨.get, .tcp, 5000⟩ rfl rfl (by decide) rfl⟩

end Request

end TrafficGraph
