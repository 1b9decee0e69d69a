import TrafficGraph.Kind

/-!
# Faults of a node

Why a node of the graph is no action. Each constructor of `TrafficGraph.Fault`
is one cause and carries the texts that its message repeats; the messages are
written in one place, `TrafficGraph.Fault.message`, and the three classes of
fault are told apart by `TrafficGraph.Fault.kind`.
-/

namespace TrafficGraph

/-- The classes of fault. -/
inductive FaultKind where
  /-- A required attribute is absent. -/
  | missingAttribute
  /-- An attribute is present and not of its form. -/
  | invalidContent
  /-- An attribute is none of the words it may be. -/
  | unknownAttribute
deriving DecidableEq, Repr

/-- The name of a class of fault. -/
def FaultKind.name : FaultKind → String
  | .missingAttribute => "MissingAttribute"
  | .invalidContent => "InvalidContent"
  | .unknownAttribute => "UnknownAttribute"

/-- Why a node is no action. -/
inductive Fault where
  /-- An action lacks an attribute it needs. -/
  | missing (action : Kind) (attr : String)
  /-- The server port of a start action is no port number. -/
  | serverPort (text : String)
  /-- No peer of a start action is left to talk to. -/
  | noUsablePeers (peers : String)
  /-- A peer has no colon. -/
  | peerShape (attr : String)
  /-- The port of a peer has more than sixteen bits. -/
  | peerPort (peer attr : String)
  /-- The host of a peer has no address, or a reserved one. -/
  | peerHost (peer attr : String)
  /-- A byte count has something else where its digits should be. -/
  | sizeDigit (found : Char) (text attr : String)
  /-- A byte count is too large. -/
  | sizeRange (text attr : String)
  /-- A byte count has a unit that is not known. -/
  | sizeUnit (unit text attr : String)
  /-- A truth value is neither true nor false. -/
  | notBoolean (attr : String)
  /-- An attribute of a transfer is none of its words. -/
  | unknownWord (value attr : String)
  /-- A node is of no known kind. -/
  | unknownKind (kind : String)
deriving DecidableEq, Repr

namespace Fault

/-- The class of a fault. -/
def kind : Fault → FaultKind
  | missing .. => .missingAttribute
  | unknownWord .. => .unknownAttribute
  | unknownKind .. => .unknownAttribute
  | serverPort .. | noUsablePeers .. | peerShape .. | peerPort .. | peerHost .. => .invalidContent
  | sizeDigit .. | sizeRange .. | sizeUnit .. | notBoolean .. => .invalidContent

/-- **The message of a fault**: the attribute, the offending text as it was
written, and what was expected instead. -/
def message : Fault → String
  | missing action attr => action.name ++ s!" action missing required attribute '{attr}'"
  | serverPort text =>
    s!"invalid value '{text}' for start action attribute 'serverport', " ++
      "expected port number between 1 and 65535"
  | noUsablePeers peers =>
    s!"start action attribute 'peers' value '{peers}' contains no usable peers, " ++
      "expected at least one 'hostname:port' other than this host"
  | peerShape attr => s!"expected peer syntax 'hostname:port' for attribute '{attr}'"
  | peerPort peer attr =>
    s!"invalid peer '{peer}' for port part of attribute '{attr}', " ++
      "expected 16 bit unsigned integer"
  | peerHost peer attr =>
    s!"invalid peer '{peer}' for host part of attribute '{attr}', " ++
      "expected 'localhost', '127.0.0.1', or valid node hostname"
  | sizeDigit found text attr =>
    s!"non-digit byte '{found}' in byte string '{text}' for attribute '{attr}', " ++
      "expected format like '10240' or '10 KiB'"
  | sizeRange text attr =>
    s!"byte string '{text}' for attribute '{attr}' does not fit in 64 bits"
  | sizeUnit unit text attr =>
    s!"invalid bytes suffix '{unit}' in byte string '{text}' for attribute '{attr}', " ++
      "expected one of: 'kib','mib','gib','tib','kb','mb','gb', or 'tb'"
  | notBoolean attr =>
    s!"invalid content for attribute '{attr}', expected boolean value 'true' or 'false'"
  | unknownWord value attr =>
    s!"transfer action has unknown value '{value}' for '{attr}' attribute"
  | unknownKind kind =>
    s!"node has unknown action kind '{kind}', " ++
      "expected one of: 'start','end','pause','synchronize', or 'transfer'"

end Fault

end TrafficGraph
