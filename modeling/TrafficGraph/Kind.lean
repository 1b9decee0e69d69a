import TrafficGraph.Text.Letters

/-!
# Kinds of action

The closed sets of words of a traffic graph: the kinds of action, and the
directions and protocols of a transfer. Each is a type with a name for every
member, and is read by looking the name up without regard to letter case.
-/

namespace TrafficGraph

/-- The kinds of action a node can stand for. -/
inductive Kind where
  /-- Where a walk of the graph begins. -/
  | start
  /-- Where a walk may end. -/
  | ending
  /-- A wait. -/
  | pause
  /-- A point where walks wait for each other. -/
  | synchronize
  /-- A transfer of bytes. -/
  | transfer
deriving DecidableEq, Repr

namespace Kind

/-- Every kind of action. -/
def all : List Kind := [start, ending, pause, synchronize, transfer]

/-- The word for a kind of action. -/
def name : Kind → String
  | start => "start"
  | ending => "end"
  | pause => "pause"
  | synchronize => "synchronize"
  | transfer => "transfer"

/-- The kind of action a word stands for, in any letter case. -/
def ofText? (s : String) : Option Kind := all.find? fun k => Text.alike k.name s

end Kind

/-- The directions of a transfer. -/
inductive Direction where
  /-- Bytes are fetched. -/
  | get
  /-- Bytes are sent. -/
  | put
deriving DecidableEq, Repr

namespace Direction

/-- Both directions. -/
def all : List Direction := [get, put]

/-- The word for a direction. -/
def name : Direction → String
  | get => "get"
  | put => "put"

/-- The direction a word stands for, in any letter case. -/
def ofText? (s : String) : Option Direction := all.find? fun d => Text.alike d.name s

end Direction

/-- The protocols of a transfer. -/
inductive Protocol where
  /-- A byte stream over the network. -/
  | tcp
  /-- Datagrams over the network. -/
  | udp
  /-- A pipe on this host. -/
  | pipe
  /-- A pair of connected sockets on this host. -/
  | socketpair
deriving DecidableEq, Repr

namespace Protocol

/-- Every protocol. -/
def all : List Protocol := [tcp, udp, pipe, socketpair]

/-- The word for a protocol. -/
def name : Protocol → String
  | tcp => "tcp"
  | udp => "udp"
  | pipe => "pipe"
  | socketpair => "socketpair"

/-- The protocol a word stands for, in any letter case. -/
def ofText? (s : String) : Option Protocol := all.find? fun p => Text.alike p.name s

end Protocol

end TrafficGraph
