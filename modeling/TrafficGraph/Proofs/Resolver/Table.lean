import TrafficGraph.Proofs.Address.Dotted
import TrafficGraph.Resolver

/-!
# What a table of hosts answers

A table is filled by entering hosts one after the other, and what it answers depends on the whole
sequence of them: the latest host of a name counts, and a name is the same in any letter case.
Dotted addresses are in front of all this. They answer for themselves, so a host that is entered
under such a name is never found.

`TrafficGraph.HostTable.Answers` puts this into rows, which speak of the sequence and of the
dotted forms of addresses, and not of the table. That the third row is left for the other hosts
needs the reading of addresses to accept dotted forms and nothing else
(`TrafficGraph.Address.ofText?_eq_some_iff`).

The table itself does not keep the sequence: a host takes the place of an earlier one of its name.
That nothing is lost by this, and that the names may be kept in lower case, is
`TrafficGraph.HostTable.find?_ofHosts`: what the table finds is the latest host of the sequence
(`TrafficGraph.HostTable.latest?`). What can be done to a sequence without being noticed is a matter
of latest hosts then, and part of `TrafficGraph.HostTable.lookup_answers_latest`.
-/

namespace TrafficGraph

namespace HostTable

/-- **What is answered for a host** after hosts have been entered in a sequence. -/
inductive Answers (hosts : List (String × Address)) (host : String) : Option Address → Prop
  /-- The host is an address as it is written. -/
  | dotted {x : Address} (h : host = x.text) : Answers hosts host (some x)
  /-- The host has been entered, and this was the last time. -/
  | latest {before after : List (String × Address)} {name : String} {x : Address}
      (hdotted : ∀ y : Address, host ≠ y.text) (hhosts : hosts = before ++ (name, x) :: after)
      (hname : Text.lower name = Text.lower host)
      (hafter : ∀ e ∈ after, Text.lower e.1 ≠ Text.lower host) : Answers hosts host (some x)
  /-- The host has not been entered. -/
  | missing (hdotted : ∀ y : Address, host ≠ y.text)
      (h : ∀ e ∈ hosts, Text.lower e.1 ≠ Text.lower host) : Answers hosts host none

/-- **A name is not found if it has no entry**, in any letter case. -/
theorem find?_eq_none_iff {t : HostTable} {host : String} :
    t.find? host = none ↔ ∀ e ∈ t.entries, Text.lower e.1 ≠ Text.lower host := by
  rw [find?, List.lookup_eq_none_iff]
  refine forall₂_congr fun e he => ?_
  rw [t.lower_of_mem e he, bne_iff_ne, ne_comm]

/-! ### Hosts in a sequence -/

section Latest

/-- **The latest host of a name** in a sequence, in any letter case. -/
def latest? (hosts : List (String × Address)) (host : String) : Option Address :=
  (hosts.reverse.find? fun e => Text.alike e.1 host).map Prod.snd

/-- Hosts that come later are looked through first. -/
theorem latest?_append (hosts later : List (String × Address)) (host : String) :
    latest? (hosts ++ later) host = (latest? later host).or (latest? hosts host) := by
  rw [latest?, List.reverse_append, List.find?_append, Option.map_or]
  rfl

theorem latest?_singleton (e : String × Address) (host : String) :
    latest? [e] host = if Text.alike e.1 host then some e.2 else none := by
  rw [latest?, List.reverse_singleton, List.find?_singleton]
  split <;> rfl

theorem latest?_cons (e : String × Address) (later : List (String × Address)) (host : String) :
    latest? (e :: later) host =
      (latest? later host).or (if Text.alike e.1 host then some e.2 else none) := by
  rw [← latest?_singleton]
  exact latest?_append [e] later host

theorem latest?_eq_none_iff {hosts : List (String × Address)} {host : String} :
    latest? hosts host = none ↔ ∀ e ∈ hosts, Text.lower e.1 ≠ Text.lower host := by
  rw [latest?, Option.map_eq_none_iff, List.find?_eq_none]
  simp only [List.mem_reverse, Text.alike_iff, ne_eq]

end Latest

/-! ### From the sequence to the table -/

section Sequence

variable {ownName : Option String} {hosts : List (String × Address)}

theorem ownName_ofHosts (hosts : List (String × Address)) :
    (ofHosts ownName hosts).ownName = ownName := by
  have hfold : ∀ t : HostTable, (hosts.foldl (fun t h => t.add h.1 h.2) t).ownName = t.ownName := by
    induction hosts with
    | nil => exact fun t => rfl
    | cons h hosts ih => exact fun t => ih (t.add h.1 h.2)
  exact hfold (empty ownName)

/-- Hosts that are entered into a table are found before what was in it. -/
theorem find?_foldl_add (hosts : List (String × Address)) (t : HostTable) (host : String) :
    (hosts.foldl (fun t h => t.add h.1 h.2) t).find? host =
      (latest? hosts host).or (t.find? host) := by
  induction hosts generalizing t with
  | nil => rfl
  | cons e hosts ih =>
    rw [List.foldl_cons, ih, find?_add, latest?_cons, Option.or_assoc]
    split <;> rfl

/-- **What a table finds is the latest host of its sequence.** -/
theorem find?_ofHosts (host : String) : (ofHosts ownName hosts).find? host = latest? hosts host :=
  (find?_foldl_add hosts (empty ownName) host).trans (Option.or_none ..)

/-- Sequences with the same latest hosts, names of addresses apart, make the same resolver. -/
theorem resolver_ofHosts_congr {hosts' : List (String × Address)}
    (h : ∀ host, (∀ x : Address, host ≠ x.text) → latest? hosts host = latest? hosts' host) :
    (ofHosts ownName hosts).resolver = (ofHosts ownName hosts').resolver := by
  rw [resolver, resolver, ownName_ofHosts, ownName_ofHosts]
  simp only [find?_ofHosts]
  refine congrArg (Resolver.mk ownName) (funext fun host => ?_)
  rcases hread : Address.ofText? host with _ | x
  · refine h host fun x hx => ?_
    rw [hx, Address.ofText?_text] at hread
    cases hread
  · rfl

end Sequence

/-! ### What is answered -/

variable {ownName : Option String} {hosts : List (String × Address)} {host : String}

/-- **Something is answered for every host**, and be it that there is no address. -/
theorem exists_answers (hosts : List (String × Address)) (host : String) :
    ∃ answer, Answers hosts host answer := by
  by_cases hdotted : ∃ x : Address, host = x.text
  · obtain ⟨x, hx⟩ := hdotted
    exact ⟨some x, .dotted hx⟩
  · have hnone := not_exists.mp hdotted
    rcases hfind : hosts.reverse.find? fun e => Text.alike e.1 host with _ | ⟨name, x⟩
    · refine ⟨none, .missing hnone fun e he hname => ?_⟩
      exact List.find?_eq_none.mp hfind e (List.mem_reverse.mpr he) (Text.alike_iff.mpr hname)
    · -- what is found first from behind has only other names behind it
      obtain ⟨hname, after, before, hsplit, hafter⟩ := List.find?_eq_some_iff_append.mp hfind
      have hhosts : hosts = before.reverse ++ (name, x) :: after.reverse := by
        rw [← List.reverse_reverse hosts, hsplit]
        simp
      refine ⟨some x, .latest hnone hhosts (Text.alike_iff.mp hname) fun e he hlower => ?_⟩
      have hnot := hafter e (List.mem_reverse.mp he)
      rw [Text.alike_iff.mpr hlower] at hnot
      cases hnot

/-- **What is answered is what the table finds.** -/
theorem Answers.lookup_eq {answer : Option Address} (h : Answers hosts host answer) :
    (ofHosts ownName hosts).resolver.lookup host = answer := by
  have hread : (∀ y : Address, host ≠ y.text) → Address.ofText? host = none := fun hdotted =>
    Option.eq_none_iff_forall_ne_some.mpr fun y hy =>
      hdotted y (Address.ofText?_eq_some_iff.mp hy)
  change (Address.ofText? host).or ((ofHosts ownName hosts).find? host) = answer
  rw [find?_ofHosts]
  cases h with
  | dotted h => rw [h, Address.ofText?_text, Option.some_or]
  | latest hdotted hhosts hname hafter =>
    rw [hread hdotted, Option.none_or, hhosts, latest?_append, latest?_cons,
      latest?_eq_none_iff.mpr hafter, Option.none_or, if_pos (Text.alike_iff.mpr hname),
      Option.some_or]
  | missing hdotted h => rw [hread hdotted, Option.none_or, latest?_eq_none_iff.mpr h]

/-! ### What is not noticed -/

section Unnoticed

variable (before between after : List (String × Address)) {a b : String × Address}

/-- Two hosts of different names may be entered in either order. -/
theorem resolver_ofHosts_swap (h : Text.lower a.1 ≠ Text.lower b.1) :
    (ofHosts ownName (before ++ a :: b :: after)).resolver =
      (ofHosts ownName (before ++ b :: a :: after)).resolver := by
  refine resolver_ofHosts_congr fun host _ => ?_
  rw [latest?_append, latest?_append, latest?_cons, latest?_cons, latest?_cons, latest?_cons]
  by_cases ha : Text.alike a.1 host = true
  · have hb : ¬Text.alike b.1 host = true := fun hb =>
      h ((Text.alike_iff.mp ha).trans (Text.alike_iff.mp hb).symm)
    rw [if_neg hb, Option.or_none, Option.or_none]
  · rw [if_neg ha, Option.or_none, Option.or_none]

/-- A host that is entered again need not have been entered before. -/
theorem resolver_ofHosts_again (h : Text.lower a.1 = Text.lower b.1) :
    (ofHosts ownName (before ++ a :: (between ++ b :: after))).resolver =
      (ofHosts ownName (before ++ (between ++ b :: after))).resolver := by
  refine resolver_ofHosts_congr fun host _ => ?_
  rw [latest?_append, latest?_append, latest?_cons, latest?_append, latest?_cons]
  by_cases hb : Text.alike b.1 host = true
  · -- the host is found behind the place in question
    rw [if_pos hb]
    cases latest? after host <;> rfl
  · have ha : ¬Text.alike a.1 host = true := fun ha =>
      hb (Text.alike_iff.mpr (h.symm.trans (Text.alike_iff.mp ha)))
    rw [if_neg ha, Option.or_none]

/-- A host under the name of an address might as well not have been entered. -/
theorem resolver_ofHosts_dotted (x y : Address) :
    (ofHosts ownName (before ++ (x.text, y) :: after)).resolver =
      (ofHosts ownName (before ++ after)).resolver := by
  refine resolver_ofHosts_congr fun host hdotted => ?_
  have hother : ¬Text.alike x.text host = true := by
    intro h
    rw [Text.alike_iff, Address.lower_text, eq_comm, Address.lower_eq_text_iff] at h
    exact hdotted x h
  rw [latest?_append, latest?_append, latest?_cons, if_neg hother, Option.or_none]

end Unnoticed

/-! ### The table -/

/-- **A table answers with the latest host**, dotted addresses apart. It finds an address if and
only if the rows say so. Two hosts next to each other can therefore change places if their names
are different; a host need not be entered if one of the same name is entered later; and a host
under the name of an address need not be entered at all. -/
theorem lookup_answers_latest (ownName : Option String) :
    (∀ (hosts : List (String × Address)) (host : String) (answer : Option Address),
        (ofHosts ownName hosts).resolver.lookup host = answer ↔ Answers hosts host answer) ∧
      (∀ (before after : List (String × Address)) (a b : String × Address),
        Text.lower a.1 ≠ Text.lower b.1 →
        (ofHosts ownName (before ++ a :: b :: after)).resolver =
          (ofHosts ownName (before ++ b :: a :: after)).resolver) ∧
      (∀ (before between after : List (String × Address)) (a b : String × Address),
        Text.lower a.1 = Text.lower b.1 →
        (ofHosts ownName (before ++ a :: (between ++ b :: after))).resolver =
          (ofHosts ownName (before ++ (between ++ b :: after))).resolver) ∧
      ∀ (before after : List (String × Address)) (x y : Address),
        (ofHosts ownName (before ++ (x.text, y) :: after)).resolver =
          (ofHosts ownName (before ++ after)).resolver := by
  refine ⟨fun hosts host answer => ⟨fun h => ?_, Answers.lookup_eq⟩,
    fun before after a b => resolver_ofHosts_swap before after,
    fun before between after a b => resolver_ofHosts_again before between after,
    resolver_ofHosts_dotted⟩
  obtain ⟨found, hfound⟩ := exists_answers hosts host
  rw [← h, hfound.lookup_eq]
  exact hfound

/-- A host that is entered twice has its second address, and the first time might be left out. An
address answers for itself, but not with a zero in front. Letters beyond ASCII have no case, so two
names that differ in one are two names, and may be entered in either order. -/
theorem lookup_answers_latest_relay :
    let first : String × Address := ("Relay", ⟨10, 0, 0, 1⟩)
    let second : String × Address := ("RELAY", ⟨10, 0, 0, 2⟩)
    let upper : String × Address := ("É", ⟨10, 0, 0, 3⟩)
    let lower : String × Address := ("é", ⟨10, 0, 0, 4⟩)
    let address : Address := ⟨10, 0, 0, 9⟩
    let hosts := [first, (address.text, .none), upper, lower, second]
    let table := ofHosts (some "me") hosts
    Answers hosts "relaY" (some second.2) ∧ Answers hosts "10.0.0.9" (some address) ∧
      Answers hosts "010.0.0.9" none ∧ Answers hosts "É" (some upper.2) ∧
      Text.lower upper.1 ≠ Text.lower lower.1 ∧
      table.resolver =
        (ofHosts (some "me") [first, (address.text, .none), lower, upper, second]).resolver ∧
      Text.lower first.1 = Text.lower second.1 ∧
      table.resolver =
        (ofHosts (some "me") [(address.text, .none), upper, lower, second]).resolver ∧
      table.resolver = (ofHosts (some "me") [first, upper, lower, second]).resolver := by
  intro first second upper lower address hosts table
  obtain ⟨hanswers, hswap, hagain, hdotted⟩ := lookup_answers_latest (some "me")
  have hne : Text.lower upper.1 ≠ Text.lower lower.1 := by decide
  have heq : Text.lower first.1 = Text.lower second.1 := by decide
  exact ⟨(hanswers hosts "relaY" _).mp (by decide), (hanswers hosts "10.0.0.9" _).mp (by decide),
    (hanswers hosts "010.0.0.9" _).mp (by decide), (hanswers hosts "É" _).mp (by decide), hne,
    hswap [first, (address.text, .none)] [second] upper lower hne, heq,
    hagain [] [(address.text, .none), upper, lower] [] first second heq,
    hdotted [first] [upper, lower, second] address .none⟩

end HostTable

end TrafficGraph
