import TrafficGraph.Logged
import TrafficGraph.Numeral
import TrafficGraph.Resolver
import TrafficGraph.Text.Cut

/-!
# Reading peers

A peer is written as a host and a port with a colon between them, a list of peers
with commas. Both are read over a `TrafficGraph.Resolver`.

* `TrafficGraph.Resolver.locate` – the address of a host. Two beginnings are
  answered without a look-up: `localhost`, and the reserved address `0.0.0.0`. A
  host without an address gets the reserved address `255.255.255.255`.
* `TrafficGraph.Peer.read` – one peer. A host that is this one gives no peer,
  whatever its port; otherwise the port must fit and the address must not be
  reserved, in this order.
* `TrafficGraph.Pool.fill` – a list of peers, into a pool. Usable peers enter the
  pool, peers without a port do not, and the first fault ends the reading and
  leaves the pool as it is then.
-/

namespace TrafficGraph

/-- **The address of a host**, with a warning when there is none. -/
def Resolver.locate (r : Resolver) (host : String) : Logged Address :=
  if Text.beginsLike "localhost" host then pure .loopback
  else if Text.beginsWith "0.0.0.0" host then pure .any
  else match r.lookup host with
    | some address => pure address
    | none => do
      .note (.unresolved host)
      return .none

namespace Peer

/-- **The reading of a peer**; `none` when the peer is this host. -/
def read (attr : String) (r : Resolver) (text : String) : Logged (Option Peer) := do
  let (host, portText) ← .orFail (.peerShape attr) (Text.cut? ':' text)
  if r.isOwn host then
    .note (.ownHost attr host)
    return none
  else
    let address ← r.locate host
    let port ← .orFail (.peerPort text attr) (Numeral.port? (Numeral.lenient portText))
    if address.isUsable then
      .note (.readPeer ⟨address, port⟩ text)
      return some ⟨address, port⟩
    else .fail (.peerHost text attr)

end Peer

namespace Pool

/-- The pool after a peer has been offered to it: only a usable one is added. -/
def offer (pool : Pool) : Option Peer → Pool
  | some p => if p.isUsable then pool.add p else pool
  | none => pool

/-- A pool after a list of peers has been read into it, and how the reading went. -/
structure Filled where
  /-- The pool afterwards. -/
  pool : Pool
  /-- The fault that ended the reading, if any, and what was logged. -/
  report : Logged Unit

/-- **The reading of peers into a pool**, one after the other up to the first
fault. -/
def fillAll (attr : String) (r : Resolver) (pool : Pool) : List String → Filled
  | [] => ⟨pool, pure ()⟩
  | text :: texts =>
    let first := Peer.read attr r text
    match first.outcome with
    | .error fault => ⟨pool, ⟨.error fault, first.events⟩⟩
    | .ok p =>
      let rest := fillAll attr r (pool.offer p) texts
      ⟨rest.pool, ⟨rest.report.outcome, first.events ++ rest.report.events⟩⟩

/-- The reading of a comma-separated list of peers into a pool. -/
def fill (attr : String) (r : Resolver) (pool : Pool) (text : String) : Filled :=
  fillAll attr r pool (Text.fields ',' text)

/-- The reading of a list of peers into a new pool, which is given up at a fault. -/
def read (attr : String) (r : Resolver) (text : String) : Logged Pool := do
  let filled := empty.fill attr r text
  filled.report
  return filled.pool

end Pool

end TrafficGraph
