import TrafficGraph.Proofs.Reading.Peers
import TrafficGraph.Proofs.Text.Join

/-!
# Lists of peers one after the other

A list of peers is read into a pool text by text, up to the first one at fault. This module takes
the reading apart along the list: what a list does to a pool is what its first part does, and
then, if that went well, what its second part does (`TrafficGraph.Pool.Filled.andThen`). Commas
come into it only because the fields of two texts with a comma between them are the fields of the
one and then those of the other.

From this it follows what a list does as a whole. Either all of its texts are sound, and the pool
gains the usable peers that they give; or there is a first one that is not
(`TrafficGraph.Pool.StopsAt`), and then the pool gains the usable peers of the texts before it,
its fault is the fault of the list, and nothing behind it matters.

`TrafficGraph.Pool.fill_sequential` puts this together for the texts as they are written.
-/

namespace TrafficGraph

/-! ### One text -/

namespace Peer

variable (attr : String) (r : Resolver)

/-- **The text is sound**: it is read without a fault, whether or not it gives a peer. -/
def Sound (text : String) : Prop := ∃ p, (read attr r text).outcome = .ok p

/-- The usable peer that a text gives, if it gives one. -/
def usable? (text : String) : Option Peer :=
  (read attr r text).outcome.toOption.join.filter isUsable

variable {attr r}

theorem not_sound_iff {text : String} :
    ¬Sound attr r text ↔ ∃ f, (read attr r text).outcome = .error f := by
  rw [Sound]
  rcases (read attr r text).outcome with f | p
  · exact iff_of_true (fun ⟨p, h⟩ => by cases h) ⟨f, rfl⟩
  · exact iff_of_false (fun h => h ⟨p, rfl⟩) (fun ⟨f, h⟩ => by cases h)

end Peer

namespace Pool

/-! ### Filling in steps -/

/-- **Filling in two steps.** The second step takes the pool that the first one left, and is taken
only if there was no fault. -/
def Filled.andThen (x : Filled) (next : Pool → Filled) : Filled :=
  match x.report.outcome with
  | .ok () => ⟨(next x.pool).pool, x.report >>= fun _ => (next x.pool).report⟩
  | .error _ => x

theorem Filled.andThen_of_ok {x : Filled} (h : x.report.outcome = .ok ()) (next : Pool → Filled) :
    x.andThen next = ⟨(next x.pool).pool, x.report >>= fun _ => (next x.pool).report⟩ := by
  rw [andThen, h]

theorem Filled.andThen_of_error {x : Filled} {f : Fault} (h : x.report.outcome = .error f)
    (next : Pool → Filled) : x.andThen next = x := by
  rw [andThen, h]

/-- Steps may be grouped in any way. -/
theorem Filled.andThen_assoc (x : Filled) (next last : Pool → Filled) :
    (x.andThen next).andThen last = x.andThen fun pool => (next pool).andThen last := by
  rcases hx : x.report.outcome with f | u
  · rw [andThen_of_error hx, andThen_of_error hx, andThen_of_error hx]
  · rw [andThen_of_ok hx, andThen_of_ok hx]
    have hchain : (x.report >>= fun _ => (next x.pool).report).outcome =
        (next x.pool).report.outcome := by
      rw [Logged.outcome_bind, hx]
    rcases hnext : (next x.pool).report.outcome with f | v
    · rw [andThen_of_error (hchain.trans hnext), andThen_of_error hnext]
    · rw [andThen_of_ok (hchain.trans hnext), andThen_of_ok hnext, Logged.bind_assoc]

/-- **One text into a pool**: the peer is read, and added if it is usable. -/
def fillOne (attr : String) (r : Resolver) (pool : Pool) (text : String) : Filled where
  pool := match (Peer.read attr r text).outcome with
    | .ok p => pool.offer p
    | .error _ => pool
  report := Peer.read attr r text >>= fun _ => pure ()

section Steps

variable {attr : String} {r : Resolver}

theorem peers_fillOne (pool : Pool) (text : String) :
    (fillOne attr r pool text).pool.peers = pool.peers ++ (Peer.usable? attr r text).toList := by
  rw [fillOne, Peer.usable?]
  rcases (Peer.read attr r text).outcome with f | p
  · exact (List.append_nil pool.peers).symm
  · refine (peers_offer pool p).trans (congrArg (pool.peers ++ ·) ?_)
    cases p with
    | none => rfl
    | some p => exact Option.toList_filter.symm

theorem outcome_fillOne (pool : Pool) (text : String) :
    (fillOne attr r pool text).report.outcome =
      (Peer.read attr r text).outcome.map fun _ => () := by
  rw [fillOne, Logged.outcome_bind]
  cases (Peer.read attr r text).outcome <;> rfl

/-- A list is its first text and then the others. -/
theorem fillAll_cons (pool : Pool) (text : String) (texts : List String) :
    fillAll attr r pool (text :: texts) =
      (fillOne attr r pool text).andThen fun pool' => fillAll attr r pool' texts := by
  rw [fillAll, Filled.andThen, fillOne]
  obtain ⟨f | p, es⟩ := Peer.read attr r text
  · rfl
  · -- the peer is forgotten before the list goes on, which the log does not notice
    have hchain := Logged.bind_assoc (⟨.ok p, es⟩ : Logged (Option Peer)) (fun _ => pure ())
      fun _ => (fillAll attr r (pool.offer p) texts).report
    exact congrArg (Filled.mk _) hchain.symm

/-- **A list in two parts** is the one and then the other. -/
theorem fillAll_append (texts texts' : List String) (pool : Pool) :
    fillAll attr r pool (texts ++ texts') =
      (fillAll attr r pool texts).andThen fun pool' => fillAll attr r pool' texts' := by
  induction texts generalizing pool with
  | nil => rfl
  | cons text texts ih =>
    -- the hypothesis is about every pool, and so about the one that the first text leaves
    rw [List.cons_append, fillAll_cons, fillAll_cons, Filled.andThen_assoc]
    exact congrArg _ (funext ih)

theorem fillAll_singleton (pool : Pool) (text : String) :
    fillAll attr r pool [text] = fillOne attr r pool text := by
  rw [fillAll_cons]
  rcases h : (fillOne attr r pool text).report.outcome with f | u
  · rw [Filled.andThen_of_error h]
  · rw [Filled.andThen_of_ok h]
    exact congrArg (Filled.mk _) (Logged.bind_pure _)

/-- Nothing is read behind a text at fault. -/
theorem fillAll_cons_of_error {text : String} {f : Fault}
    (h : (Peer.read attr r text).outcome = .error f) (pool : Pool) (texts : List String) :
    fillAll attr r pool (text :: texts) = fillOne attr r pool text := by
  rw [fillAll_cons]
  refine Filled.andThen_of_error (f := f) ?_ _
  rw [outcome_fillOne, h]
  rfl

end Steps

/-! ### What a list does -/

/-- **Where a list stops**: at its first text that is not sound, with what is wrong with it. -/
structure StopsAt (attr : String) (r : Resolver) (texts before : List String) (bad : String)
    (f : Fault) : Prop where
  /-- The list begins with the texts before it, and it. -/
  begins : before ++ [bad] <+: texts
  /-- The texts before it are sound. -/
  sound : ∀ text ∈ before, Peer.Sound attr r text
  /-- It is at fault. -/
  outcome_read : (Peer.read attr r bad).outcome = .error f

section Lists

variable {attr : String} {r : Resolver} {texts before : List String} {bad : String} {f : Fault}

/-- **A list of sound texts** is read without a fault, and adds the usable peers that they
give. -/
theorem fillAll_of_sound (h : ∀ text ∈ texts, Peer.Sound attr r text) (pool : Pool) :
    (fillAll attr r pool texts).report.outcome = .ok () ∧
      (fillAll attr r pool texts).pool.peers =
        pool.peers ++ texts.filterMap (Peer.usable? attr r) := by
  induction texts generalizing pool with
  | nil => exact ⟨rfl, (List.append_nil pool.peers).symm⟩
  | cons text texts ih =>
    obtain ⟨⟨p, hp⟩, htexts⟩ := List.forall_mem_cons.mp h
    have hfirst : (fillOne attr r pool text).report.outcome = .ok () := by
      rw [outcome_fillOne, hp]
      rfl
    obtain ⟨houtcome, hpeers⟩ := ih htexts (fillOne attr r pool text).pool
    rw [fillAll_cons, Filled.andThen_of_ok hfirst]
    refine ⟨?_, ?_⟩
    · rw [Logged.outcome_bind, hfirst]
      exact houtcome
    · dsimp only
      rw [hpeers, peers_fillOne, List.append_assoc, List.filterMap_cons]
      cases Peer.usable? attr r text <;> rfl

/-- **A list that stops** does what the texts up to there do, whatever stands behind them: it adds
the usable peers of the texts before the one at fault, and has the fault of that one. -/
theorem fillAll_of_stopsAt (h : StopsAt attr r texts before bad f) (pool : Pool) :
    fillAll attr r pool texts =
        (fillAll attr r pool before).andThen (fun pool' => fillOne attr r pool' bad) ∧
      (fillAll attr r pool texts).report.outcome = .error f ∧
      (fillAll attr r pool texts).pool.peers =
        pool.peers ++ before.filterMap (Peer.usable? attr r) := by
  obtain ⟨⟨after, rfl⟩, hsound, hbad⟩ := h
  obtain ⟨hbefore, hpeers⟩ := fillAll_of_sound hsound pool
  have hfill : fillAll attr r pool (before ++ [bad] ++ after) =
      (fillAll attr r pool before).andThen fun pool' => fillOne attr r pool' bad := by
    rw [List.append_assoc, fillAll_append]
    exact congrArg _ (funext fun pool' => fillAll_cons_of_error hbad pool' after)
  refine ⟨hfill, ?_, ?_⟩
  · rw [hfill, Filled.andThen_of_ok hbefore, Logged.outcome_bind, hbefore]
    dsimp only
    rw [outcome_fillOne, hbad]
    rfl
  · have hnone : Peer.usable? attr r bad = none := by
      rw [Peer.usable?, hbad]
      rfl
    rw [hfill, Filled.andThen_of_ok hbefore]
    dsimp only
    rw [peers_fillOne, hnone, hpeers]
    exact List.append_nil _

/-- **Every list is sound throughout, or stops somewhere.** -/
theorem sound_or_stopsAt (attr : String) (r : Resolver) (texts : List String) :
    (∀ text ∈ texts, Peer.Sound attr r text) ∨
      ∃ before bad f, StopsAt attr r texts before bad f := by
  induction texts with
  | nil => exact Or.inl fun text h => absurd h List.not_mem_nil
  | cons text texts ih =>
    by_cases hsound : Peer.Sound attr r text
    · rcases ih with h | ⟨before, bad, f, hbegins, hbefore, hbad⟩
      · exact Or.inl (List.forall_mem_cons.mpr ⟨hsound, h⟩)
      · exact Or.inr ⟨text :: before, bad, f, List.cons_prefix_cons.mpr ⟨rfl, hbegins⟩,
          List.forall_mem_cons.mpr ⟨hsound, hbefore⟩, hbad⟩
    · obtain ⟨f, hf⟩ := Peer.not_sound_iff.mp hsound
      exact Or.inr ⟨[], text, f, List.cons_prefix_cons.mpr ⟨rfl, List.nil_prefix⟩,
        fun text h => absurd h List.not_mem_nil, hf⟩

/-- A list has no fault if and only if none of its texts has. -/
theorem outcome_fillAll_eq_ok_iff {pool : Pool} :
    (fillAll attr r pool texts).report.outcome = .ok () ↔
      ∀ text ∈ texts, Peer.Sound attr r text := by
  refine ⟨fun h => ?_, fun h => (fillAll_of_sound h pool).1⟩
  rcases sound_or_stopsAt attr r texts with hsound | ⟨before, bad, f, hstop⟩
  · exact hsound
  · rw [(fillAll_of_stopsAt hstop pool).2.1] at h
    cases h

/-- The fault of a list is that of the text where it stops. -/
theorem outcome_fillAll_eq_error_iff {pool : Pool} :
    (fillAll attr r pool texts).report.outcome = .error f ↔
      ∃ before bad, StopsAt attr r texts before bad f := by
  refine ⟨fun h => ?_, fun ⟨before, bad, hstop⟩ => (fillAll_of_stopsAt hstop pool).2.1⟩
  rcases sound_or_stopsAt attr r texts with hsound | ⟨before, bad, f', hstop⟩
  · rw [(fillAll_of_sound hsound pool).1] at h
    cases h
  · rw [(fillAll_of_stopsAt hstop pool).2.1] at h
    cases h
    exact ⟨before, bad, hstop⟩

theorem outcome_fill_of_stopsAt {text : String} {pool : Pool}
    (h : StopsAt attr r (Text.fields ',' text) before bad f) :
    (fill attr r pool text).report.outcome = .error f :=
  (fillAll_of_stopsAt h pool).2.1

/-- A new pool cannot be read if the list stops, and its fault is the one there. -/
theorem outcome_read_eq_error_iff {text : String} :
    (read attr r text).outcome = .error f ↔
      ∃ before bad, StopsAt attr r (Text.fields ',' text) before bad f := by
  have hfill : (empty.fill attr r text).report.outcome = .error f ↔
      ∃ before bad, StopsAt attr r (Text.fields ',' text) before bad f :=
    outcome_fillAll_eq_error_iff
  rw [outcome_read, ← hfill]
  rcases (empty.fill attr r text).report.outcome with g | u <;> simp

theorem exists_outcome_fillAll_eq_error (h : ¬∀ text ∈ texts, Peer.Sound attr r text)
    (pool : Pool) : ∃ f, (fillAll attr r pool texts).report.outcome = .error f := by
  obtain ⟨before, bad, f, hstop⟩ := (sound_or_stopsAt attr r texts).resolve_left h
  exact ⟨f, (fillAll_of_stopsAt hstop pool).2.1⟩

end Lists

/-! ### Texts as they are written -/

/-- **Reading peers turns commas into sequence.** A text of two parts with a comma between them
does to any pool, and reports, what the first part does and then, if that went well, the second;
a text without a comma is read as one peer, which is added if it is usable. So when the reading
ends at a fault, it is at the first text between commas that is not sound: the pool has gained the
usable peers of the texts before it, and any other text that begins in the same way does and
reports the same. -/
theorem fill_sequential (attr : String) (r : Resolver) :
    (∀ (pool : Pool) (a b : String), fill attr r pool (a ++ "," ++ b) =
        (fill attr r pool a).andThen fun pool' => fill attr r pool' b) ∧
      (∀ (pool : Pool) (text : String), ',' ∉ text.toList →
        fill attr r pool text = fillOne attr r pool text) ∧
      ∀ (pool : Pool) (text : String) (f : Fault),
        (fill attr r pool text).report.outcome = .error f → ∃ before bad,
          StopsAt attr r (Text.fields ',' text) before bad f ∧
          (fill attr r pool text).pool.peers =
            pool.peers ++ before.filterMap (Peer.usable? attr r) ∧
          ∀ text' : String, before ++ [bad] <+: Text.fields ',' text' →
            fill attr r pool text' = fill attr r pool text := by
  refine ⟨fun pool a b => ?_, fun pool text hcomma => ?_, fun pool text f hf => ?_⟩
  · have hfields : Text.fields ',' (a ++ "," ++ b) = Text.fields ',' a ++ Text.fields ',' b :=
      Text.fields_append ',' a b
    rw [fill, hfields]
    exact fillAll_append _ _ pool
  · rw [fill, Text.fields_of_not_mem hcomma, fillAll_singleton]
  · obtain ⟨before, bad, hstop⟩ := outcome_fillAll_eq_error_iff.mp hf
    obtain ⟨hfill, -, hpeers⟩ := fillAll_of_stopsAt hstop pool
    refine ⟨before, bad, hstop, hpeers, fun text' hbegins => ?_⟩
    have hstop' : StopsAt attr r (Text.fields ',' text') before bad f :=
      ⟨hbegins, hstop.sound, hstop.outcome_read⟩
    exact (fillAll_of_stopsAt hstop' pool).1.trans hfill.symm

/-- The fourth peer of this list has no address. Of the three before it one has no port and one is
this host, so one is left; it stands in the pool behind the one that was there. What comes after
the fourth could be anything, as it could after a comma that nothing stands in front of. -/
theorem fill_sequential_unresolved :
    let r := ((HostTable.empty (some "me")).add "relay" ⟨10, 0, 0, 1⟩).resolver
    let old : Peer := ⟨⟨10, 0, 0, 9⟩, 1⟩
    let list := "relay:7,relay:0,me:1,mars:2,relay:8"
    let empties := "" ++ "," ++ ",relay:7"
    (fill "peers" r ⟨[old]⟩ list).report.outcome = .error (.peerHost "mars:2" "peers") ∧
      (∃ before bad,
        StopsAt "peers" r (Text.fields ',' list) before bad (.peerHost "mars:2" "peers") ∧
          (fill "peers" r ⟨[old]⟩ list).pool.peers =
            [old] ++ before.filterMap (Peer.usable? "peers" r) ∧
          ∀ text' : String, before ++ [bad] <+: Text.fields ',' text' →
            fill "peers" r ⟨[old]⟩ text' = fill "peers" r ⟨[old]⟩ list) ∧
      (fill "peers" r ⟨[old]⟩ list).pool.peers = [old, ⟨⟨10, 0, 0, 1⟩, 7⟩] ∧
      ',' ∉ "relay:7".toList ∧
      fill "peers" r ⟨[old]⟩ "relay:7" = fillOne "peers" r ⟨[old]⟩ "relay:7" ∧
      fill "peers" r ⟨[old]⟩ empties =
        (fill "peers" r ⟨[old]⟩ "").andThen (fun pool' => fill "peers" r pool' ",relay:7") ∧
      (fill "peers" r ⟨[old]⟩ empties).report.outcome = .error (.peerShape "peers") := by
  intro r old list empties
  obtain ⟨hparts, hone, hstop⟩ := fill_sequential "peers" r
  have hfault : (fill "peers" r ⟨[old]⟩ list).report.outcome =
      .error (.peerHost "mars:2" "peers") := by
    dsimp only [r, old, list]
    rfl
  have hpeers : (fill "peers" r ⟨[old]⟩ list).pool.peers = [old, ⟨⟨10, 0, 0, 1⟩, 7⟩] := by
    dsimp only [r, old, list]
    rfl
  have hempties : (fill "peers" r ⟨[old]⟩ empties).report.outcome =
      .error (.peerShape "peers") := by
    dsimp only [r, old, empties]
    rfl
  have hcomma : ',' ∉ "relay:7".toList := by decide
  exact ⟨hfault, hstop ⟨[old]⟩ list _ hfault, hpeers, hcomma, hone ⟨[old]⟩ "relay:7" hcomma,
    hparts ⟨[old]⟩ "" ",relay:7", hempties⟩

end Pool

end TrafficGraph
