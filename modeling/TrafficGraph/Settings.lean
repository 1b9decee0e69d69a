import TrafficGraph.Event
import TrafficGraph.Node
import TrafficGraph.Text.Blank

/-!
# Settings

A settings document says how to log, what this host is called, and which nodes
there are. This module holds settings in two states: as they are written, with
texts where words from a closed set are expected, and as they are accepted.

`TrafficGraph.Settings.check` leads from the one to the other. It looks at the
level, the format and the name of the host in this order and says what is wrong
with the first that is not acceptable.
-/

namespace TrafficGraph

/-- From which level on events are logged. -/
inductive Threshold where
  /-- Everything. -/
  | trace
  /-- Details and above. -/
  | debug
  /-- Steps and above. -/
  | info
  /-- What needs attention. -/
  | warn
  /-- Failures, of which there are no events. -/
  | error
deriving DecidableEq, Repr

namespace Threshold

/-- Every threshold. -/
def all : List Threshold := [trace, debug, info, warn, error]

/-- The word for a threshold. -/
def name : Threshold → String
  | trace => "trace"
  | debug => "debug"
  | info => "info"
  | warn => "warn"
  | error => "error"

/-- The threshold a word stands for. -/
def ofText? (s : String) : Option Threshold := all.find? fun t => t.name == s

/-- An event of the level is logged. -/
def admits : Threshold → Level → Bool
  | trace, _ => true
  | debug, _ => true
  | info, level => level != .debug
  | warn, level => level == .warn
  | error, _ => false

end Threshold

/-- How a log is written. -/
inductive LogFormat where
  /-- One JSON object for each event. -/
  | json
  /-- One line of text for each event. -/
  | console
deriving DecidableEq, Repr

namespace LogFormat

/-- Both formats. -/
def all : List LogFormat := [json, console]

/-- The word for a format. -/
def name : LogFormat → String
  | json => "json"
  | console => "console"

/-- The format a word stands for. -/
def ofText? (s : String) : Option LogFormat := all.find? fun f => f.name == s

end LogFormat

/-- How to log. -/
structure Logging where
  /-- From which level on. -/
  level : Threshold
  /-- In which format. -/
  format : LogFormat
  /-- On the console, whatever the format. -/
  console : Bool
deriving DecidableEq, Repr

/-- The format that a log is written in: the console comes first. -/
def Logging.style (l : Logging) : LogFormat := if l.console then .console else l.format

/-- Accepted settings. -/
structure Settings where
  /-- How to log. -/
  logging : Logging
  /-- The name of this host, if it is set. -/
  hostname : Option String
  /-- The nodes, in order. -/
  nodes : List Node
deriving DecidableEq, Repr

namespace Settings

/-- Settings as they are written. -/
structure Written where
  /-- The word for the level. -/
  level : String
  /-- The word for the format. -/
  format : String
  /-- On the console, whatever the format. -/
  console : Bool
  /-- The name of this host, if it is set. -/
  hostname : Option String
  /-- The nodes, in order. -/
  nodes : List Node
deriving DecidableEq, Repr

/-- Why settings are not accepted. -/
inductive Refusal where
  /-- There is no text at the path. -/
  | unreadable (path : String)
  /-- The text is no settings document. -/
  | malformed
  /-- The level is none of the words for it. -/
  | level (text : String)
  /-- The format is none of the words for it. -/
  | format (text : String)
  /-- The name of the host is set and blank. -/
  | blankHostname
deriving DecidableEq, Repr

/-- The message of a refusal. -/
def Refusal.message : Refusal → String
  | unreadable path => "Failed to read config file: " ++ path
  | malformed => "Failed to parse config file"
  | level text =>
    s!"Invalid log level '{text}'. Must be one of: trace, debug, info, warn, error"
  | format text => s!"Invalid log format '{text}'. Must be one of: json, console"
  | blankHostname => "host.hostname must not be empty when set"

/-- **The acceptance of settings.** -/
def check (w : Written) : Except Refusal Settings :=
  match Threshold.ofText? w.level with
  | none => .error (.level w.level)
  | some level =>
    match LogFormat.ofText? w.format with
    | none => .error (.format w.format)
    | some format =>
      if w.hostname.any Text.allWhite then .error .blankHostname
      else .ok ⟨⟨level, format, w.console⟩, w.hostname, w.nodes⟩

end Settings

end TrafficGraph
