import TrafficGraph.Proofs.Address.Dotted
import TrafficGraph.Proofs.Reading.Size
import TrafficGraph.Proofs.Text.Join

/-!
# Peers and byte counts are read back from their written form

A peer is written as its address and its port with a colon between them, a pool as its
peers with commas. Over a resolver that knows dotted addresses both are read back – if
no peer is taken for this host, and, for a pool, if there is a peer at all: the pool
without peers is written as the empty text, which is read as one peer and is at fault.

A number of bytes is written in decimal and without a unit; its strict reading gives it
back as the lenient one does.
-/

namespace TrafficGraph

/-! ### One peer -/

namespace Peer

theorem toList_text (p : Peer) :
    p.text.toList = p.address.text.toList ++ ':' :: Nat.toDigits 10 p.port.toNat := by
  simp [text, Nat.toList_repr]

/-- A written peer holds no comma. -/
theorem comma_not_mem_text (p : Peer) : ',' ∉ p.text.toList := by
  rw [toList_text, List.mem_append, List.mem_cons]
  rintro (h | h | h)
  · rcases Address.isDigit_or_eq_of_mem_text h with h | h <;> cases h
  · cases h
  · exact Address.not_mem_toDigits_of_not_isDigit rfl _ h

/-- **A written peer is cut between its address and its port.** -/
theorem cut?_text (p : Peer) :
    Text.cut? ':' p.text = some (p.address.text, p.port.toNat.repr) := by
  have hcolon : ':' ∉ p.address.text.toList := by
    intro h
    rcases Address.isDigit_or_eq_of_mem_text h with h | h <;> cases h
  rw [Text.cut?_eq_some_iff, Nat.toList_repr]
  exact ⟨toList_text p, hcolon⟩

/-- No peer is written as the empty text. -/
theorem text_ne_empty (p : Peer) : p.text ≠ "" := by
  intro h
  have hcut := p.cut?_text
  rw [h] at hcut
  cases hcut

/-- **A written peer is read back**, unless it is taken for this host. -/
theorem outcome_read_text {r : Resolver} {p : Peer} (attr : String) (hr : r.ReadsDotted)
    (hown : r.ownName ≠ some p.address.text) (hp : p.address.isUsable = true) :
    (read attr r p.text).outcome = .ok (some p) := by
  rw [outcome_read, cut?_text]
  dsimp only
  rw [Resolver.isOwn_text hown, if_neg Bool.false_ne_true, Numeral.port?_lenient_repr,
    Resolver.addressOf_text hr]
  exact if_pos hp

end Peer

/-! ### Pools -/

namespace Pool

/-- The written form of a pool: its peers in order, with commas between them. -/
def text (pool : Pool) : String := (String.singleton ',').intercalate (pool.peers.map Peer.text)

/-- **The fields of a written pool are its written peers**, if it has any. -/
theorem fields_text {pool : Pool} (hne : pool.peers ≠ []) :
    Text.fields ',' pool.text = pool.peers.map Peer.text := by
  refine Text.fields_intercalate (mt List.map_eq_nil_iff.mp hne) fun t ht => ?_
  obtain ⟨p, -, rfl⟩ := List.mem_map.mp ht
  exact p.comma_not_mem_text

/-- Only the pool without peers is written as the empty text. -/
theorem text_ne_empty {pool : Pool} (hne : pool.peers ≠ []) : pool.text ≠ "" := by
  intro h
  have hfields := fields_text hne
  rw [h] at hfields
  -- the empty text has one field, which is empty, and no peer is written so
  have hmem : "" ∈ pool.peers.map Peer.text := by
    rw [← hfields]
    exact List.mem_singleton.mpr rfl
  obtain ⟨p, -, hp⟩ := List.mem_map.mp hmem
  exact p.text_ne_empty hp

/-- Written peers are read into a pool one after the other. -/
theorem fillAll_text {r : Resolver} (attr : String) (hr : r.ReadsDotted) {ps : List Peer}
    (hown : ∀ p ∈ ps, r.ownName ≠ some p.address.text) (hps : ∀ p ∈ ps, p.isUsable = true)
    (pool : Pool) :
    (fillAll attr r pool (ps.map Peer.text)).pool = ⟨pool.peers ++ ps⟩ ∧
      (fillAll attr r pool (ps.map Peer.text)).report.outcome = .ok () := by
  induction ps generalizing pool with
  | nil => exact ⟨congrArg Pool.mk (List.append_nil _).symm, rfl⟩
  | cons p ps ih =>
    have husable := hps p List.mem_cons_self
    have hread := Peer.outcome_read_text attr hr (hown p List.mem_cons_self)
      (Peer.isUsable_iff.mp husable).1
    have hoffer : pool.offer (some p) = pool.add p := if_pos husable
    obtain ⟨hpool, hreport⟩ := ih (fun q hq => hown q (List.mem_cons_of_mem p hq))
      (fun q hq => hps q (List.mem_cons_of_mem p hq)) (pool.add p)
    -- the first peer is read and taken in, and the rest goes into the larger pool
    rw [List.map_cons, fillAll]
    simp only [hread, hoffer]
    refine ⟨?_, hreport⟩
    rw [hpool, peers_add, List.append_assoc]
    rfl

/-- **A written pool is read back**, if it has a peer. -/
theorem outcome_read_text {r : Resolver} {pool : Pool} (attr : String) (hr : r.ReadsDotted)
    (hne : pool.peers ≠ []) (hown : ∀ p ∈ pool.peers, r.ownName ≠ some p.address.text)
    (husable : ∀ p ∈ pool.peers, p.isUsable = true) :
    (read attr r pool.text).outcome = .ok pool := by
  obtain ⟨hpool, hreport⟩ := fillAll_text attr hr hown husable empty
  rw [outcome_read, fill, fields_text hne, hreport]
  dsimp only
  rw [hpool]
  rfl

end Pool

/-! ### Byte counts -/

namespace Size

/-- **A written number stands for itself**: all of it is digits, and there is no unit. -/
theorem denotes_repr (n : Nat) : Denotes n.repr n := by
  have hparts : Parts n.repr (Nat.toDigits 10 n) none := by
    refine ⟨?_, Address.not_mem_toDigits_of_not_isDigit rfl n⟩
    rw [Nat.toList_repr]
    exact (List.append_nil _).symm
  have h := Denotes.of_parts hparts (Numeral.isDigit_toDigits n) .plain
  rwa [Nat.ofDigitChars_ten_toDigits, Nat.mul_one] at h

/-- **A byte count is read back from its decimal form.** -/
theorem outcome_read_repr (attr : String) (w : UInt64) :
    (read attr w.toNat.repr).outcome = .ok w :=
  outcome_read_of_denotes (denotes_repr w.toNat)

end Size

end TrafficGraph
