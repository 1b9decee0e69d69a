import TrafficGraph.Report
import TrafficGraph.Settings.Toml

/-!
# The command

The command reads a settings file and reports on its nodes. What it does is a
function of its arguments, of the files it can read, and of what the network and the
system answer: an exit status, a text on standard output, a log, and an error.

* Without an argument the file is `config.toml`; arguments after the first do not
  matter.
* Settings that are not accepted end the command at once, without output and
  without a log.
* Otherwise the report is printed, also when nodes are rejected; these make the
  status 1 and are counted in the error.
* The log is the part of one fixed sequence of events that the level of the
  settings admits. The format and the console only decide how it is written.
* This host is called what the settings say, and otherwise what the system says. If
  neither gives a name, no host is taken for this one. The program warns of this once,
  which is the one event that is not in the log here.
-/

namespace TrafficGraph

namespace Command

/-- Why the command fails. -/
inductive Failure where
  /-- The settings are not accepted. -/
  | settings (path : String) (cause : Settings.Refusal)
  /-- Some of the nodes are no actions. -/
  | nodes (rejected total : Nat)
deriving DecidableEq, Repr

namespace Failure

/-- The message of a failure. -/
def message : Failure → String
  | settings path _ => s!"Failed to load configuration from '{path}'"
  | nodes rejected total =>
    rejected.repr ++ " of " ++ total.repr ++ " action nodes failed validation"

/-- The message of what caused a failure, if something else did. -/
def cause? : Failure → Option String
  | settings _ cause => some cause.message
  | nodes .. => none

end Failure

/-- What the command does. -/
structure Outcome where
  /-- The text on standard output. -/
  stdout : String
  /-- The events that are logged. -/
  log : List Event
  /-- How the log is written; there is none before the settings are accepted. -/
  style : Option LogFormat
  /-- Why the command fails, if it does. -/
  failure : Option Failure
deriving DecidableEq, Repr

/-- The exit status. -/
def Outcome.status (o : Outcome) : Nat := if o.failure.isSome then 1 else 0

/-- How the log is written, if anything is logged. -/
def Outcome.visibleStyle (o : Outcome) : Option LogFormat :=
  if o.log.isEmpty then none else o.style

/-- The path of the settings file. -/
def path : List String → String
  | [] => "config.toml"
  | first :: _ => first

/-- The resolver that settings ask for. If they do not name this host, its name is what the system
answers. -/
def resolver (network : String → Option Address) (system : ByteArray) (s : Settings) : Resolver :=
  .system (s.hostname.or (Resolver.nameOf? system)) network

/-- Why the command fails after a report, if it does. -/
def failure? (report : Report) : Option Failure :=
  if 0 < report.failures then some (.nodes report.failures report.entries.length) else none

/-- Every event of the command on accepted settings, whatever the level: the
beginning, what is logged for the nodes, and the end if no node is rejected. -/
def events (path : String) (s : Settings) (report : Report) : List Event :=
  .checking path s.nodes.length s.hostname ::
    (report.log ++ if 0 < report.failures then [] else [.allAccepted report.entries.length])

/-- What the command does on accepted settings. -/
def report (path : String) (r : Resolver) (s : Settings) : Outcome :=
  let done := Report.ofNodes r s.nodes
  { stdout := done.toJson.indented ++ "\n"
    log := (events path s done).filter fun e => s.logging.level.admits e.level
    style := some s.logging.style
    failure := failure? done }

/-- What the command does on a file: the path, and the bytes if it can be read. -/
def onFile (network : String → Option Address) (system : ByteArray) (path : String)
    (bytes : Option ByteArray) : Outcome :=
  match Settings.ofFile path bytes with
  | .error cause => ⟨"", [], none, some (.settings path cause)⟩
  | .ok s => report path (resolver network system s) s

/-- **The command**: what it does on its arguments, given the bytes of every file
that can be read. The last of all is what the system answers when it is asked for the name of this
host; a system need not answer anything. -/
def run (network : String → Option Address) (files : String → Option ByteArray)
    (args : List String) (system : ByteArray := .empty) : Outcome :=
  onFile network system (path args) (files (path args))

end Command

end TrafficGraph
