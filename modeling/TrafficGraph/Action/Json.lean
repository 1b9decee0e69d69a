import TrafficGraph.Action
import TrafficGraph.Json.Text

/-!
# Actions as JSON

The JSON form of peers, pools and actions. An action is one object: its kind
first, then the members of its payload in a fixed order, and the key at the end
if there is one. Numbers are JSON integers, addresses are dotted texts, and what
is absent in a payload is `null`.
-/

namespace TrafficGraph

/-- A word as a JSON integer. -/
def Json.ofWord (w : UInt64) : Json := .ofNat w.toNat

/-- The JSON form of a peer. -/
def Peer.toJson (p : Peer) : Json :=
  .object [("address", .string p.address.text), ("port", .ofNat p.port.toNat)]

/-- The JSON form of a pool: its peers in order. -/
def Pool.toJson (pool : Pool) : Json := .array (pool.peers.map Peer.toJson)

/-- The JSON form of something that may be absent. -/
def Json.ofOption {α : Type} (f : α → Json) : Option α → Json
  | some a => f a
  | none => .null

/-- The members of a payload after its kind. -/
def Payload.members : Payload → List (String × Json)
  | start s =>
    [("time", .ofWord s.time), ("server_port", .ofNat s.serverPort.toNat),
      ("socks_proxy", .ofOption Peer.toJson s.proxy), ("peers", s.peers.toJson)]
  | ending e =>
    [("time", .ofWord e.time), ("count", .ofWord e.count), ("size", .ofWord e.size)]
  | pause p => [("time", .ofWord p.time)]
  | synchronize => []
  | transfer t =>
    [("transfer_type", .string t.parameters.direction.name),
      ("protocol", .string t.parameters.protocol.name), ("size", .ofWord t.parameters.size),
      ("peers", .ofOption Pool.toJson t.peers)]

/-- The member for the key of an action. -/
def Action.keyMember : Option Nat → List (String × Json)
  | some key => [("key", .ofNat key)]
  | none => []

/-- **The JSON form of an action.** -/
def Action.toJson (x : Action) : Json :=
  .object (("kind", .string x.kind.name) :: (x.payload.members ++ Action.keyMember x.key))

end TrafficGraph
