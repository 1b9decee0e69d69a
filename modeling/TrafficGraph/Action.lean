import TrafficGraph.Kind
import TrafficGraph.Numeral
import TrafficGraph.Peer

/-!
# Actions

An action is a node of a traffic graph whose attributes have been read. What an
action does is its payload; beside it stands the key under which a graph refers
to it, which is set once the graph knows it.

The payload holds seconds, and its times are asked for in milliseconds; a time
that is too large for a word of milliseconds is the largest word.
-/

namespace TrafficGraph

/-- Where a walk begins: what this host serves, and the peers its transfers go
to. -/
structure Start where
  /-- Seconds to wait before the first step. -/
  time : UInt64
  /-- The port this host serves on. -/
  serverPort : UInt16
  /-- The proxy to go through, if there is one. -/
  proxy : Option Peer
  /-- The peers of transfers that name none. -/
  peers : Pool
deriving DecidableEq, Repr

/-- Conditions under which a walk ends; a zero is no condition. -/
structure Ending where
  /-- Seconds since the start. -/
  time : UInt64
  /-- Number of transfers. -/
  count : UInt64
  /-- Number of bytes. -/
  size : UInt64
deriving DecidableEq, Repr

/-- A wait. -/
structure Pause where
  /-- Seconds to wait. -/
  time : UInt64
deriving DecidableEq, Repr

/-- What a transfer needs to know apart from its peers. -/
structure TransferParameters where
  /-- Which way the bytes go. -/
  direction : Direction
  /-- How the bytes are carried. -/
  protocol : Protocol
  /-- The number of bytes. -/
  size : UInt64
deriving DecidableEq, Repr

/-- A transfer of bytes. -/
structure Transfer where
  /-- Which way, how and how much. -/
  parameters : TransferParameters
  /-- The peers of this transfer; without them it uses those of the start. -/
  peers : Option Pool
deriving DecidableEq, Repr

/-- What an action does. -/
inductive Payload where
  /-- Begins a walk. -/
  | start (s : Start)
  /-- May end a walk. -/
  | ending (e : Ending)
  /-- Waits. -/
  | pause (p : Pause)
  /-- Waits for other walks. -/
  | synchronize
  /-- Transfers bytes. -/
  | transfer (t : Transfer)
deriving DecidableEq, Repr

/-- A node of a traffic graph whose attributes have been read. -/
structure Action where
  /-- What the action does. -/
  payload : Payload
  /-- What the graph calls the action. -/
  key : Option Nat
deriving DecidableEq, Repr

/-- The kind of a payload. -/
def Payload.kind : Payload → Kind
  | start _ => .start
  | ending _ => .ending
  | pause _ => .pause
  | synchronize => .synchronize
  | transfer _ => .transfer

/-- The peers a payload holds: those of a start, or a transfer's own. -/
def Payload.peers? : Payload → Option Pool
  | start s => some s.peers
  | transfer t => t.peers
  | _ => none

namespace Action

/-- The action without a key. -/
def ofPayload (p : Payload) : Action := ⟨p, none⟩

/-- The same action under a key. -/
def withKey (x : Action) (key : Nat) : Action := { x with key := some key }

/-- The kind of an action. -/
def kind (x : Action) : Kind := x.payload.kind

/-- Milliseconds before the first step of a start. -/
def startMillis? (x : Action) : Option UInt64 :=
  match x.payload with
  | .start s => some (Numeral.thousandfold s.time)
  | _ => none

/-- The port a start serves on. -/
def serverPort? (x : Action) : Option UInt16 :=
  match x.payload with
  | .start s => some s.serverPort
  | _ => none

/-- The proxy of a start. -/
def proxy? (x : Action) : Option Peer :=
  match x.payload with
  | .start s => s.proxy
  | _ => none

/-- Milliseconds of a pause. -/
def pauseMillis? (x : Action) : Option UInt64 :=
  match x.payload with
  | .pause p => some (Numeral.thousandfold p.time)
  | _ => none

/-- Milliseconds after which a walk ends. -/
def endMillis? (x : Action) : Option UInt64 :=
  match x.payload with
  | .ending e => some (Numeral.thousandfold e.time)
  | _ => none

/-- Transfers after which a walk ends. -/
def endCount? (x : Action) : Option UInt64 :=
  match x.payload with
  | .ending e => some e.count
  | _ => none

/-- Bytes after which a walk ends. -/
def endSize? (x : Action) : Option UInt64 :=
  match x.payload with
  | .ending e => some e.size
  | _ => none

/-- Which way, how and how much a transfer moves. -/
def transferParameters? (x : Action) : Option TransferParameters :=
  match x.payload with
  | .transfer t => some t.parameters
  | _ => none

/-- The peers of a start, or a transfer's own. -/
def peers? (x : Action) : Option Pool := x.payload.peers?

end Action

end TrafficGraph
