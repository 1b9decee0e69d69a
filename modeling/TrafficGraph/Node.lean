import TrafficGraph.Reading.Action

/-!
# Nodes

A node of a traffic graph as it is written: nine texts, of which each kind of
action uses some. An attribute that is not written is the empty text.

`TrafficGraph.Node.build` reads a node as the action its kind stands for. Any
kind of action can also be asked for by its own texts, and both ways are put
together in `TrafficGraph.Request`.
-/

namespace TrafficGraph

/-- A node of a traffic graph as it is written. -/
structure Node where
  /-- The kind of action. -/
  kind : String
  /-- Seconds. -/
  time : String
  /-- The port this host serves on. -/
  serverport : String
  /-- A comma-separated list of peers. -/
  peers : String
  /-- The peer to go through. -/
  socksproxy : String
  /-- A number of transfers. -/
  count : String
  /-- A byte count. -/
  size : String
  /-- Which way the bytes of a transfer go; the attribute is called `type`. -/
  direction : String
  /-- How the bytes of a transfer are carried. -/
  protocol : String
deriving DecidableEq, Repr

/-- The texts from which an action is made. -/
inductive Request where
  /-- A start action. -/
  | start (time serverport peers socksproxy : String)
  /-- An end action. -/
  | ending (time count size : String)
  /-- A pause. -/
  | pause (time : String)
  /-- A meeting of walks. -/
  | synchronize
  /-- A transfer. -/
  | transfer (direction protocol size peers : String)
deriving DecidableEq, Repr

namespace Request

/-- The payload that is asked for. -/
def payload (r : Resolver) : Request → Logged Payload
  | start time serverport peers socksproxy => do
    let s ← Start.read r time serverport peers socksproxy
    return .start s
  | ending time count size => do
    let e ← Ending.read time count size
    return .ending e
  | pause time => do
    let p ← Pause.read time
    return .pause p
  | synchronize => return .synchronize
  | transfer direction protocol size peers => do
    let t ← Transfer.read r direction protocol size peers
    return .transfer t

/-- **The action that is asked for**, without a key. -/
def build (r : Resolver) (q : Request) : Logged Action := do
  let p ← q.payload r
  return .ofPayload p

end Request

namespace Node

/-- The texts that an action of the given kind takes from a node. -/
def request (n : Node) : Kind → Request
  | .start => .start n.time n.serverport n.peers n.socksproxy
  | .ending => .ending n.time n.count n.size
  | .pause => .pause n.time
  | .synchronize => .synchronize
  | .transfer => .transfer n.direction n.protocol n.size n.peers

/-- **The action a node stands for.** -/
def build (r : Resolver) (n : Node) : Logged Action := do
  let kind ← .orFail (.unknownKind n.kind) (Kind.ofText? n.kind)
  (n.request kind).build r

end Node

end TrafficGraph
