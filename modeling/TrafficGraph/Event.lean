import TrafficGraph.Fault
import TrafficGraph.Peer
import TrafficGraph.Text.Quoted

/-!
# Log events

What is logged while nodes are read, as data: an event says what happened and
with which values, and its level, message and fields follow from that. The
events of a computation are part of its result
(`TrafficGraph.Logged`), so a log can be compared with what was computed.
-/

namespace TrafficGraph

/-- How much an event matters. -/
inductive Level where
  /-- A detail. -/
  | debug
  /-- A step of the work. -/
  | info
  /-- Something that needs attention. -/
  | warn
deriving DecidableEq, Repr

/-- The name of a level in a log. -/
def Level.name : Level → String
  | .debug => "DEBUG"
  | .info => "INFO"
  | .warn => "WARN"

/-- Something that is logged. -/
inductive Event where
  /-- A peer was left out because it names this host. -/
  | ownHost (attr host : String)
  /-- A host has no address. -/
  | unresolved (host : String)
  /-- A peer was read. -/
  | readPeer (peer : Peer) (text : String)
  /-- A byte count was read. -/
  | readSize (size : UInt64) (text : String)
  /-- A truth value was read. -/
  | readFlag (value : Bool) (text : String)
  /-- A start action was made, with so many peers. -/
  | madeStart (time : UInt64) (serverPort : UInt16) (peers : Nat) (proxy : Option Peer)
  /-- An end action was made. -/
  | madeEnding (time count size : UInt64)
  /-- A pause was made. -/
  | madePause (time : UInt64)
  /-- A transfer was made, with so many peers of its own. -/
  | madeTransfer (direction : Direction) (protocol : Protocol) (size : UInt64) (peers : Nat)
  /-- The nodes of a document are about to be read. -/
  | checking (path : String) (nodes : Nat) (host : Option String)
  /-- A node is an action. -/
  | accepted (index : Nat) (kind : Kind)
  /-- A node is no action. -/
  | rejected (index : Nat) (kind : String) (fault : Fault)
  /-- Every node is an action. -/
  | allAccepted (nodes : Nat)
deriving DecidableEq, Repr

namespace Event

/-- The level of an event. -/
def level : Event → Level
  | ownHost .. => .info
  | unresolved .. => .warn
  | readPeer .. | readSize .. | readFlag .. => .debug
  | madeStart .. | madeEnding .. | madePause .. | madeTransfer .. => .debug
  | checking .. | accepted .. | allAccepted .. => .info
  | rejected .. => .warn

/-- The fixed text of an event. -/
def message : Event → String
  | ownHost .. => "Refusing to place my address in server pool"
  | unresolved .. => "Error resolving host address"
  | readPeer .. => "Parsed peer"
  | readSize .. => "Parsed byte string"
  | readFlag .. => "Parsed boolean"
  | madeStart .. => "Created start action"
  | madeEnding .. => "Created end action"
  | madePause .. => "Created pause action"
  | madeTransfer .. => "Created transfer action"
  | checking .. => "Validating action nodes"
  | accepted .. => "Action node is valid"
  | rejected .. => "Action node rejected"
  | allAccepted .. => "All action nodes valid"

/-- A proxy as an event shows it: absent, or a record with its two fields. -/
def proxyText : Option Peer → String
  | none => "None"
  | some p =>
    "Some(Peer \x7b address: " ++ p.address.text ++ ", port: " ++ p.port.toNat.repr ++ " \x7d)"

/-- A name as an event shows it: absent, or in quotation marks. -/
def nameText : Option String → String
  | none => "None"
  | some name => "Some(" ++ Text.inQuotes name ++ ")"

/-- The values of an event by name, as texts. -/
def fields : Event → List (String × String)
  | ownHost attr host => [("attribute", attr), ("host", host)]
  | unresolved host => [("host", host)]
  | readPeer peer text =>
    [("address", peer.address.text), ("port", peer.port.toNat.repr), ("peer", text)]
  | readSize size text => [("bytes", size.toNat.repr), ("input", text)]
  | readFlag value text => [("value", if value then "true" else "false"), ("input", text)]
  | madeStart time serverPort peers proxy =>
    [("time", time.toNat.repr), ("server_port", serverPort.toNat.repr), ("peers", peers.repr),
      ("socks_proxy", proxyText proxy)]
  | madeEnding time count size =>
    [("time", time.toNat.repr), ("count", count.toNat.repr), ("size", size.toNat.repr)]
  | madePause time => [("time", time.toNat.repr)]
  | madeTransfer direction protocol size peers =>
    [("transfer_type", direction.name), ("protocol", protocol.name), ("size", size.toNat.repr),
      ("peers", peers.repr)]
  | checking path nodes host =>
    [("config_path", path), ("actions", nodes.repr), ("hostname", nameText host)]
  | accepted index kind => [("index", index.repr), ("kind", kind.name)]
  | rejected index kind fault =>
    [("index", index.repr), ("node_kind", kind), ("error", fault.message)]
  | allAccepted nodes => [("actions", nodes.repr)]

end Event

end TrafficGraph
