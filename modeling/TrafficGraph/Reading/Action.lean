import TrafficGraph.Action
import TrafficGraph.Reading.Peers
import TrafficGraph.Reading.Size

/-!
# Reading actions

Each kind of action is read from the texts of its attributes, an absent attribute
being the empty text. The reading stops at the first fault, in the order in which
the attributes are taken below, and a complete action is logged at the end.

* `TrafficGraph.Start.read` asks for all its required attributes before it looks
  into any of them; `TrafficGraph.Transfer.read` takes one attribute after the
  other.
* A start needs a peer to talk to. A transfer that names peers keeps its pool even
  when none of them is left.
* Times and counts are read leniently and are never a fault.
-/

namespace TrafficGraph

/-- A fault when the attribute is absent. -/
def Logged.require (action : Kind) (attr text : String) : Logged Unit :=
  if text = "" then .fail (.missing action attr) else pure ()

/-- The port a start action serves on: the lenient number must be a port, and not
zero. -/
def Start.port? (text : String) : Option UInt16 :=
  (Numeral.port? (Numeral.lenient text)).filter (· != 0)

/-- The proxy of a start action; an empty text is none. -/
def Start.readProxy (r : Resolver) (text : String) : Logged (Option Peer) :=
  if text = "" then pure none else Peer.read "socksproxy" r text

/-- **The reading of a start action.** -/
def Start.read (r : Resolver) (time serverPort peers proxy : String) : Logged Start := do
  .require .start "time" time
  .require .start "serverport" serverPort
  .require .start "peers" peers
  let port ← .orFail (.serverPort serverPort) (Start.port? serverPort)
  let proxy? ← Start.readProxy r proxy
  let pool ← Pool.read "peers" r peers
  if pool.isEmpty then .fail (.noUsablePeers peers)
  else
    let start : Start := ⟨Numeral.lenient time, port, proxy?, pool⟩
    .note (.madeStart start.time start.serverPort start.peers.size start.proxy)
    return start

/-- The byte count of an end action; an empty text is zero. -/
def Ending.readSize (text : String) : Logged UInt64 :=
  if text = "" then pure 0 else Size.read "size" text

/-- **The reading of an end action.** -/
def Ending.read (time count size : String) : Logged Ending := do
  let bytes ← Ending.readSize size
  let ending : Ending := ⟨Numeral.lenient time, Numeral.lenient count, bytes⟩
  .note (.madeEnding ending.time ending.count ending.size)
  return ending

/-- **The reading of a pause.** -/
def Pause.read (time : String) : Logged Pause := do
  .require .pause "time" time
  let pause : Pause := ⟨Numeral.lenient time⟩
  .note (.madePause pause.time)
  return pause

/-- A required attribute of a transfer that is one of a set of words. -/
def Transfer.readWord {α : Type} (attr : String) (words : String → Option α) (text : String) :
    Logged α := do
  .require .transfer attr text
  .orFail (.unknownWord text attr) (words text)

/-- The peers of a transfer; an empty text is none, which differs from a pool
without peers. -/
def Transfer.readPeers (r : Resolver) (text : String) : Logged (Option Pool) :=
  if text = "" then pure none
  else do
    let pool ← Pool.read "peers" r text
    return some pool

/-- **The reading of a transfer.** -/
def Transfer.read (r : Resolver) (direction protocol size peers : String) : Logged Transfer := do
  let direction ← Transfer.readWord "type" Direction.ofText? direction
  let protocol ← Transfer.readWord "protocol" Protocol.ofText? protocol
  .require .transfer "size" size
  let bytes ← Size.read "size" size
  let pool? ← Transfer.readPeers r peers
  .note (.madeTransfer direction protocol bytes ((pool?.map Pool.size).getD 0))
  return ⟨⟨direction, protocol, bytes⟩, pool?⟩

end TrafficGraph
