import TrafficGraph.Address

/-!
# Peers and pools of peers

A peer is an address together with a port; a pool is a sequence of peers, in the
order in which they were added and with repetitions. A pool holds what an action
may talk to, so a constructor puts in usable peers only; the pool itself takes
any peer.
-/

namespace TrafficGraph

/-- A remote endpoint. -/
structure Peer where
  /-- Where the endpoint is. -/
  address : Address
  /-- The port it listens on; zero means that none was given. -/
  port : UInt16
deriving DecidableEq, Repr

namespace Peer

/-- **A peer that may enter a pool**: its address is not reserved and its port is
not zero. -/
def isUsable (p : Peer) : Bool := p.address.isUsable && p.port != 0

/-- The written form of a peer: address, colon, port. -/
def text (p : Peer) : String := p.address.text ++ ":" ++ p.port.toNat.repr

end Peer

/-- **A choice from a list**, as a generator of random numbers makes it. Which item is chosen is a
matter of the generator; that there is one, and that it is in the list, is not. -/
structure Choice (α : Type) where
  /-- What is chosen from a list. -/
  pick : List α → Option α
  /-- Nothing is chosen from the empty list, and something from any other. -/
  pick_eq_none_iff : ∀ {l : List α}, pick l = none ↔ l = []
  /-- What is chosen is in the list. -/
  mem_of_pick : ∀ {l : List α} {a : α}, pick l = some a → a ∈ l

/-- The choice by a number: the item at this place, counted round and round the list. Numbers below
the length choose each place once. -/
def Choice.byNumber {α : Type} (n : Nat) : Choice α where
  pick l := l[n % l.length]?
  pick_eq_none_iff {l} := by
    rw [List.getElem?_eq_none_iff, ← List.length_eq_zero_iff]
    refine ⟨fun h => ?_, fun h => h ▸ Nat.zero_le _⟩
    rcases Nat.eq_zero_or_pos l.length with hzero | hpos
    · exact hzero
    · exact absurd h (Nat.not_le_of_lt (Nat.mod_lt n hpos))
  mem_of_pick := List.mem_of_getElem?

/-- A pool of peers, in the order of their arrival. -/
structure Pool where
  /-- The peers, the oldest first. -/
  peers : List Peer
deriving DecidableEq, Repr

namespace Pool

/-- The pool without peers. -/
def empty : Pool := ⟨[]⟩

/-- The pool with one more peer at its end. -/
def add (pool : Pool) (p : Peer) : Pool := ⟨pool.peers ++ [p]⟩

/-- The number of peers, repetitions counted. -/
def size (pool : Pool) : Nat := pool.peers.length

/-- No peer has been added. -/
def isEmpty (pool : Pool) : Bool := pool.peers.isEmpty

/-- The peer occurs in the pool. -/
def contains (pool : Pool) (p : Peer) : Bool := pool.peers.contains p

/-- The number of peers that are usable. -/
def usable (pool : Pool) : Nat := pool.peers.countP Peer.isUsable

/-- A pick from the pool: a choice from its peers. -/
def pick (pool : Pool) (choice : Choice Peer) : Option Peer := choice.pick pool.peers

@[simp] theorem peers_empty : empty.peers = [] := rfl

@[simp] theorem peers_add (pool : Pool) (p : Peer) :
    (pool.add p).peers = pool.peers ++ [p] := rfl

end Pool

end TrafficGraph
