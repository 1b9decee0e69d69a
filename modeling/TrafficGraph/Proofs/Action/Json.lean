import TrafficGraph.Action.Json
import TrafficGraph.Proofs.Json.Compact
import TrafficGraph.Proofs.Node.Written

/-!
# The JSON form of an action determines the action

Actions leave the program as JSON texts, and whoever reads such a text has nothing else to
know the action by. This module says that nothing is lost: two actions with the same text are
the same, key included, and so are two pools (`TrafficGraph.Action.compact_toJson_eq_iff`).

There are two halves. That a text determines the JSON value is the matter of
`TrafficGraph.Json.compact_inj`. That the value determines the action is shown here from the
parts up: the words and the dotted addresses are read back by functions that exist anyway,
what is absent is `null` and nothing that is present is, and the kind in front says which
members a payload has, so that a key behind them is not taken for one of them.
-/

namespace TrafficGraph

/-! ### Words and numbers -/

theorem Kind.name_inj {k l : Kind} : k.name = l.name ↔ k = l := Text.written_inj ofText?_name

theorem Direction.name_inj {d e : Direction} : d.name = e.name ↔ d = e :=
  Text.written_inj ofText?_name

theorem Protocol.name_inj {p q : Protocol} : p.name = q.name ↔ p = q :=
  Text.written_inj ofText?_name

namespace Json

theorem ofNat_inj {m n : Nat} : ofNat m = ofNat n ↔ m = n := by
  rw [ofNat, ofNat, integer.injEq, Int.natCast_inj]

theorem ofWord_inj {v w : UInt64} : ofWord v = ofWord w ↔ v = w := by
  rw [ofWord, ofWord, ofNat_inj, UInt64.toNat_inj]

/-- What may be absent is determined if it is when it is present, and is not `null` then. -/
theorem ofOption_inj {α : Type} {f : α → Json} (hf : ∀ a b, f a = f b ↔ a = b)
    (hnull : ∀ a, f a ≠ null) {x y : Option α} : ofOption f x = ofOption f y ↔ x = y := by
  cases x with
  | none =>
    cases y with
    | none => exact iff_of_true rfl rfl
    | some b => exact iff_of_false (hnull b).symm nofun
  | some a =>
    cases y with
    | none => exact iff_of_false (hnull a) nofun
    | some b => exact (hf a b).trans Option.some_inj.symm

/-! ### All numbers are integers -/

theorem Integral.ofNat (n : Nat) : Integral (ofNat n) := .integer n

theorem Integral.ofOption {α : Type} {f : α → Json} (hf : ∀ a, Integral (f a)) (x : Option α) :
    Integral (ofOption f x) := by
  cases x with
  | none => exact .null
  | some a => exact hf a

end Json

open Json

theorem Peer.integral_toJson (p : Peer) : Integral p.toJson := by
  refine .object ?_
  simp only [List.forall_mem_cons]
  exact ⟨.string _, .ofNat _, nofun⟩

theorem Pool.integral_toJson (pool : Pool) : Integral pool.toJson := by
  refine .array fun v hv => ?_
  obtain ⟨p, -, rfl⟩ := List.mem_map.mp hv
  exact p.integral_toJson

theorem Payload.integral_members (p : Payload) : ∀ m ∈ p.members, Integral m.2 := by
  cases p with
  | start s =>
    simp only [members, List.forall_mem_cons]
    exact ⟨.ofNat _, .ofNat _, .ofOption Peer.integral_toJson _, s.peers.integral_toJson, nofun⟩
  | ending e =>
    simp only [members, List.forall_mem_cons]
    exact ⟨.ofNat _, .ofNat _, .ofNat _, nofun⟩
  | pause p =>
    simp only [members, List.forall_mem_cons]
    exact ⟨.ofNat _, nofun⟩
  | synchronize => exact nofun
  | transfer t =>
    simp only [members, List.forall_mem_cons]
    exact ⟨.string _, .string _, .ofNat _, .ofOption Pool.integral_toJson _, nofun⟩

theorem Action.integral_toJson (x : Action) : Integral x.toJson := by
  have hkey : ∀ m ∈ keyMember x.key, Integral m.2 := by
    cases x.key with
    | none => exact nofun
    | some key => exact List.forall_mem_singleton.mpr (.ofNat key)
  refine .object (List.forall_mem_cons.mpr ⟨.string _, ?_⟩)
  exact List.forall_mem_append.mpr ⟨x.payload.integral_members, hkey⟩

/-! ### Values determine what they are made from -/

theorem Peer.toJson_inj {p q : Peer} : p.toJson = q.toJson ↔ p = q := by
  refine ⟨fun h => ?_, congrArg toJson⟩
  simp only [toJson, object.injEq, List.cons.injEq, Prod.mk.injEq, string.injEq, Address.text_inj,
    ofNat_inj, UInt16.toNat_inj, true_and, and_true] at h
  obtain ⟨haddress, hport⟩ := h
  cases p
  exact Peer.mk.injEq .. ▸ ⟨haddress, hport⟩

theorem Pool.toJson_inj {p q : Pool} : p.toJson = q.toJson ↔ p = q := by
  have hinj : Function.Injective Peer.toJson := fun _ _ => Peer.toJson_inj.mp
  rw [toJson, toJson, array.injEq, (List.map_injective_iff.mpr hinj).eq_iff, Pool.mk.injEq]

/-- The proxy of a start is determined, and so is whether there is one. -/
theorem Peer.ofOption_toJson_inj {p q : Option Peer} :
    ofOption Peer.toJson p = ofOption Peer.toJson q ↔ p = q :=
  ofOption_inj (fun _ _ => toJson_inj) nofun

/-- The pool of a transfer is determined, and so is whether there is one: no pool is `null`,
and a pool without peers is an empty sequence. -/
theorem Pool.ofOption_toJson_inj {p q : Option Pool} :
    ofOption Pool.toJson p = ofOption Pool.toJson q ↔ p = q :=
  ofOption_inj (fun _ _ => toJson_inj) nofun

namespace Payload

/-- **A payload of a known kind is determined by its members.** -/
theorem eq_of_members_eq {p q : Payload} (hkind : p.kind = q.kind) (h : p.members = q.members) :
    p = q := by
  cases p with
  | start s =>
    cases q with
    | start t =>
      simp only [members, List.cons.injEq, Prod.mk.injEq, ofWord_inj, ofNat_inj, UInt16.toNat_inj,
        Peer.ofOption_toJson_inj, Pool.toJson_inj, true_and, and_true] at h
      rw [start.injEq, Start.mk.injEq]
      exact h
    | ending | pause | synchronize | transfer => cases hkind
  | ending e =>
    cases q with
    | ending f =>
      simp only [members, List.cons.injEq, Prod.mk.injEq, ofWord_inj, true_and, and_true] at h
      rw [ending.injEq, Ending.mk.injEq]
      exact h
    | start | pause | synchronize | transfer => cases hkind
  | pause p =>
    cases q with
    | pause q =>
      simp only [members, List.cons.injEq, Prod.mk.injEq, ofWord_inj, true_and, and_true] at h
      rw [pause.injEq, Pause.mk.injEq]
      exact h
    | start | ending | synchronize | transfer => cases hkind
  | synchronize =>
    cases q with
    | synchronize => rfl
    | start | ending | pause | transfer => cases hkind
  | transfer t =>
    cases q with
    | transfer u =>
      simp only [members, List.cons.injEq, Prod.mk.injEq, string.injEq, Direction.name_inj,
        Protocol.name_inj, ofWord_inj, Pool.ofOption_toJson_inj, true_and, and_true] at h
      obtain ⟨hdirection, hprotocol, hsize, hpeers⟩ := h
      rw [transfer.injEq, Transfer.mk.injEq, TransferParameters.mk.injEq]
      exact ⟨⟨hdirection, hprotocol, hsize⟩, hpeers⟩
    | start | ending | pause | synchronize => cases hkind

end Payload

/-- The number of members that a payload of the kind has. -/
def Kind.arity : Kind → Nat
  | start => 4
  | ending => 3
  | pause => 1
  | synchronize => 0
  | transfer => 4

theorem Payload.length_members (p : Payload) : p.members.length = p.kind.arity := by
  cases p <;> rfl

namespace Action

theorem keyMember_inj {k l : Option Nat} : keyMember k = keyMember l ↔ k = l := by
  refine ⟨fun h => ?_, congrArg keyMember⟩
  cases k with
  | none =>
    cases l with
    | none => rfl
    | some l => cases h
  | some k =>
    cases l with
    | none => cases h
    | some l => exact congrArg some (ofNat_inj.mp (Prod.mk.inj (List.cons.inj h).1).2)

/-- **The JSON value determines the action**: the kind says where the payload ends and the key
begins. -/
theorem toJson_inj {x y : Action} : x.toJson = y.toJson ↔ x = y := by
  refine ⟨fun h => ?_, congrArg toJson⟩
  rw [toJson, toJson, object.injEq] at h
  obtain ⟨hkind, h⟩ := List.cons.inj h
  have hkind : x.payload.kind = y.payload.kind :=
    Kind.name_inj.mp (Json.string.inj (Prod.mk.inj hkind).2)
  have hlength : x.payload.members.length = y.payload.members.length := by
    rw [Payload.length_members, Payload.length_members, hkind]
  obtain ⟨hmembers, hkey⟩ := List.append_inj h hlength
  obtain ⟨p, k⟩ := x
  obtain ⟨q, l⟩ := y
  rw [Action.mk.injEq]
  exact ⟨Payload.eq_of_members_eq hkind hmembers, keyMember_inj.mp hkey⟩

/-- **The JSON text determines the action**: two actions have the same compact text if and
only if they have the same payload – number by number, peer by peer, and with the same pool or
none – and the same key. Two pools have the same text if and only if they hold the same peers
in the same order. -/
theorem compact_toJson_eq_iff :
    (∀ x y : Action, x.toJson.compact = y.toJson.compact ↔ x = y) ∧
      ∀ p q : Pool, p.toJson.compact = q.toJson.compact ↔ p = q := by
  refine ⟨fun x y => ?_, fun p q => ?_⟩
  · rw [compact_inj x.integral_toJson y.integral_toJson, toJson_inj]
  · rw [compact_inj p.integral_toJson q.integral_toJson, Pool.toJson_inj]

end Action

end TrafficGraph
