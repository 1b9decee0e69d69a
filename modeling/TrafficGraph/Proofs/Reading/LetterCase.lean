import TrafficGraph.Proofs.Fault.LetterCase
import TrafficGraph.Reading.Size

/-!
# Reading in lower case

Every reading of a traffic graph, of a text in lower case, is the reading of the text
in lower case (`TrafficGraph.Logged.InLowerCase`): the same value, or the same fault in
lower case. Words are looked up without regard to letter case, and everything else that
is read – numbers, addresses, separators – has no letters in it.

For peers this needs a resolver that does the same (`TrafficGraph.Resolver.InLowerCase`).
A table does, if its names are taken to lower case too.
-/

namespace TrafficGraph

open Text Logged

/-! ### Words -/

theorem Kind.ofText?_lower (s : String) : ofText? (lower s) = ofText? s := by
  simp only [ofText?, alike_lower]

theorem Direction.ofText?_lower (s : String) : ofText? (lower s) = ofText? s := by
  simp only [ofText?, alike_lower]

theorem Protocol.ofText?_lower (s : String) : ofText? (lower s) = ofText? s := by
  simp only [ofText?, alike_lower]

theorem Size.unit?_lower (s : String) : unit? (lower s) = unit? s := by
  simp only [unit?, alike_lower]

/-! ### Addresses -/

namespace Address

/-- A numeral is made of digits. -/
theorem isDigit_of_isNumeral {cs : List Char} (h : isNumeral cs = true) :
    ∀ c ∈ cs, c.isDigit = true := by
  unfold isNumeral at h
  split at h
  · cases h
  · intro c hc
    rw [List.mem_singleton.mp hc]
    rfl
  · rename_i c cs _
    rw [Bool.and_eq_true, Bool.and_eq_true, List.all_eq_true] at h
    exact List.forall_mem_cons.mpr ⟨h.1.2, h.2⟩

theorem octet?_map_toLower (cs : List Char) : octet? (cs.map Char.toLower) = octet? cs := by
  by_cases hcs : ∀ c ∈ cs, c.isDigit = true
  · rw [map_toLower_of_isDigit hcs]
  · -- what holds something else than digits is no numeral, and neither is its lower case
    have hnumeral : isNumeral cs = false := by
      rw [Bool.eq_false_iff]
      exact fun h => hcs (isDigit_of_isNumeral h)
    have hlower : isNumeral (cs.map Char.toLower) = false := by
      rw [Bool.eq_false_iff]
      refine fun h => hcs fun c hc => ?_
      rw [← isDigit_toLower]
      exact isDigit_of_isNumeral h _ (List.mem_map_of_mem hc)
    rw [octet?, octet?, hnumeral, hlower, Bool.false_and, Bool.false_and,
      if_neg Bool.false_ne_true, if_neg Bool.false_ne_true]

theorem ofText?_lower (s : String) : ofText? (lower s) = ofText? s := by
  rw [ofText?, ofText?, toList_lower, fieldsList_map_toLower rfl]
  rcases fieldsList '.' s.toList with _ | ⟨w, _ | ⟨x, _ | ⟨y, _ | ⟨z, _ | _⟩⟩⟩⟩
  all_goals simp only [List.map_nil, List.map_cons, octet?_map_toLower]

end Address

/-! ### Resolvers -/

/-- **One resolver is the other in lower case**: hosts in lower case are to the one what
the hosts themselves are to the other. -/
structure Resolver.InLowerCase (r' r : Resolver) : Prop where
  /-- This host is known by the same names. -/
  isOwn : ∀ host, r'.isOwn (lower host) = r.isOwn host
  /-- Hosts have the same addresses. -/
  lookup : ∀ host, r'.lookup (lower host) = r.lookup host

theorem Resolver.InLowerCase.addressOf {r' r : Resolver} (hr : r'.InLowerCase r) (host : String) :
    r'.addressOf (lower host) = r.addressOf host := by
  have hzeros : ∀ c ∈ "0.0.0.0".toList, c.isAlpha = false := by simp
  rw [Resolver.addressOf, Resolver.addressOf, beginsLike_lower, beginsWith_lower hzeros,
    hr.lookup]

/-- The table with the name of this host in lower case; those of the others are anyway. -/
def HostTable.lower (t : HostTable) : HostTable := { t with ownName := t.ownName.map Text.lower }

/-- **A table in lower case is the table**, for hosts in lower case. -/
theorem HostTable.inLowerCase_resolver (t : HostTable) :
    t.lower.resolver.InLowerCase t.resolver where
  isOwn host := by
    rw [Resolver.isOwn, Resolver.isOwn]
    rcases h : t.ownName with _ | name
    · simp only [resolver, lower, h, Option.map_none]
    · simp only [resolver, lower, h, Option.map_some, alike_lower]
      rw [alike, alike, lower_lower]
  lookup host := by
    have hfind : t.lower.find? (Text.lower host) = t.find? host := by
      rw [find?, find?, lower_lower]
      rfl
    simp only [resolver, Address.ofText?_lower, hfind]

/-! ### Peers -/

section Peers

variable {r' r : Resolver} (hr : r'.InLowerCase r)

include hr

theorem Peer.inLowerCase_read (attr text : String) :
    InLowerCase (read attr r' (lower text)) (read attr r text) := by
  rw [InLowerCase, outcome_read, outcome_read, cut?_lower rfl]
  rcases cut? ':' text with _ | ⟨host, portText⟩
  · rfl
  · rw [Option.map_some]
    dsimp only
    rw [hr.isOwn, Numeral.lenient_lower, hr.addressOf]
    by_cases hown : r.isOwn host
    · rw [if_pos hown, if_pos hown]
      rfl
    · rw [if_neg hown, if_neg hown]
      rcases Numeral.port? (Numeral.lenient portText) with _ | port
      · rfl
      · dsimp only
        split <;> rfl

/-- **A list of peers in lower case** leaves the same pool, and ends at the same peer if
it ends at one. -/
theorem Pool.inLowerCase_fillAll (attr : String) (texts : List String) (pool : Pool) :
    (fillAll attr r' pool (texts.map lower)).pool = (fillAll attr r pool texts).pool ∧
      InLowerCase (fillAll attr r' pool (texts.map lower)).report
        (fillAll attr r pool texts).report := by
  induction texts generalizing pool with
  | nil => exact ⟨rfl, rfl⟩
  | cons text texts ih =>
    have hfirst : (Peer.read attr r' (lower text)).outcome = _ :=
      Peer.inLowerCase_read hr attr text
    rw [List.map_cons, fillAll, fillAll]
    dsimp only
    rw [hfirst]
    rcases (Peer.read attr r text).outcome with f | p
    · exact ⟨rfl, rfl⟩
    · exact ih (pool.offer p)

theorem Pool.inLowerCase_read (attr text : String) :
    InLowerCase (read attr r' (lower text)) (read attr r text) := by
  obtain ⟨hpool, hreport⟩ := inLowerCase_fillAll hr attr (fields ',' text) empty
  have hfields : fields ',' (lower text) = (fields ',' text).map lower := fields_lower rfl text
  rw [read, read, fill, fill, hfields, hpool]
  exact hreport.bind fun _ => .pure _

end Peers

/-! ### Byte counts -/

namespace Size

theorem split_lower (text : String) :
    split (lower text) = (lower (split text).1, (split text).2.map lower) := by
  rw [split, split, cut?_lower rfl]
  cases cut? ' ' text <;> rfl

/-- The first character that is no digit stands in the same place. -/
theorem find?_not_isDigit_map_toLower (cs : List Char) :
    ((cs.map Char.toLower).find? fun c => !c.isDigit) =
      (cs.find? fun c => !c.isDigit).map Char.toLower := by
  rw [List.find?_map]
  refine congrArg (fun p => Option.map Char.toLower (List.find? p cs)) (funext fun c => ?_)
  simp only [Function.comp_apply, isDigit_toLower]

theorem inLowerCase_scale (attr text : String) (number : UInt64) (unit : Option String) :
    InLowerCase (scale attr (lower text) number (unit.map lower))
      (scale attr text number unit) := by
  rcases unit with _ | unit
  · rfl
  · rw [Option.map_some, scale, scale, unit?_lower]
    exact (InLowerCase.orFail (.sizeUnit unit text attr) _).bind
      fun _ => .orFail (.sizeRange text attr) _

theorem inLowerCase_read (attr text : String) :
    InLowerCase (read attr (lower text)) (read attr text) := by
  rw [read, read, split_lower]
  rcases split text with ⟨number, unit⟩
  dsimp only
  rw [toList_lower, find?_not_isDigit_map_toLower]
  rcases hfind : number.toList.find? fun c => !c.isDigit with _ | c
  · have hdigits : ∀ c ∈ number.toList, c.isDigit = true := by
      intro c hc
      simpa using List.find?_eq_none.mp hfind c hc
    rw [hfind, Option.map_none, map_toLower_of_isDigit hdigits]
    exact (InLowerCase.orFail (.sizeRange text attr) _).bind fun n =>
      (inLowerCase_scale attr text n unit).bind fun _ => .note_bind (.pure _)
  · rw [hfind, Option.map_some]
    exact .fail (.sizeDigit c text attr)

end Size

end TrafficGraph
