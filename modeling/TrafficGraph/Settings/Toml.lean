import TrafficGraph.Node.Json
import TrafficGraph.Settings
import TrafficGraph.Toml.Document

/-!
# Settings from TOML

Settings are written as a TOML document with a table `logging`, a table `host` and
a sequence `actions` of tables, one for each node. Each of them may be missing,
and what is missing in them has a default; names that are not known do not matter.

Wherever a table with known names is expected, an array with the values in the
order of the names will do (`TrafficGraph.Toml.record?`). Items beyond the last
name do not matter, and items that are missing count as absent – except that an
array for the host must name it. A moment in time counts as a table without any
of the names.
-/

namespace TrafficGraph

namespace Toml

/-- The text of a value. -/
def text? : Toml → Option String
  | string s => some s
  | _ => none

/-- The truth value of a value. -/
def boolean? : Toml → Option Bool
  | boolean b => some b
  | _ => none

/-- **A value as a record** with the given names: named values, by name or by
position. -/
def record? (names : List String) : Toml → Option (List (String × Toml))
  | table entries => some entries
  | array items => some (names.zip items)
  | moment _ => some []
  | _ => none

/-- A field that may be absent, and that is of the right sort otherwise. -/
def field? {α : Type} (name : String) (read : Toml → Option α)
    (fields : List (String × Toml)) : Option (Option α) :=
  match fields.lookup name with
  | none => some none
  | some v => (read v).map some

end Toml

namespace Settings

/-- How to log, as it is written: level, format, and whether on the console. -/
def readLogging : Option Toml → Option (String × String × Bool)
  | none => some ("info", "console", false)
  | some v => do
    let fields ← v.record? ["level", "format", "console"]
    let level ← Toml.field? "level" Toml.text? fields
    let format ← Toml.field? "format" Toml.text? fields
    let console ← Toml.field? "console" Toml.boolean? fields
    some (level.getD "info", format.getD "console", console.getD false)

/-- The name of this host. -/
def readHost : Option Toml → Option (Option String)
  | none => some none
  | some (.array []) => none
  | some v => do
    let fields ← v.record? ["hostname"]
    Toml.field? "hostname" Toml.text? fields

/-- One node: every attribute absent or a text, and the kind present. -/
def readNode (v : Toml) : Option Node := do
  let fields ← v.record? Node.attributes
  let texts ← Node.attributes.mapM fun name =>
    (Toml.field? name Toml.text? fields).map fun text => (name, text)
  Node.ofTexts? fun name => (texts.lookup name).join

/-- The nodes, in order. -/
def readNodes : Option Toml → Option (List Node)
  | none => some []
  | some (.array items) => items.mapM readNode
  | some _ => none

/-- The settings that the table of a document holds, as they are written. -/
def ofToml? : Toml → Option Written
  | .table entries => do
    let (level, format, console) ← readLogging (entries.lookup "logging")
    let hostname ← readHost (entries.lookup "host")
    let nodes ← readNodes (entries.lookup "actions")
    some ⟨level, format, console, hostname, nodes⟩
  | _ => none

/-- **The settings in a text.** -/
def ofText (text : String) : Except Refusal Settings :=
  match (Toml.parse text).bind ofToml? with
  | none => .error .malformed
  | some w => check w

/-- **The settings in a file**: its path, and its bytes if it can be read. The
bytes must be UTF-8. -/
def ofFile (path : String) (bytes : Option ByteArray) : Except Refusal Settings :=
  match bytes.bind String.fromUTF8? with
  | none => .error (.unreadable path)
  | some text => ofText text

end Settings

end TrafficGraph
