import TrafficGraph.Command

/-!
# The program

Reads the settings file, prints the report, and writes the log and the error to
standard error. Hosts are resolved without a network: only dotted addresses have
one.
-/

namespace TrafficGraph

/-- The bytes of a file, if it can be read. -/
def readBytes? (path : String) : IO (Option ByteArray) :=
  try
    return some (← IO.FS.readBinFile path)
  catch _ => return none

/-- What the system answers when it is asked for the name of this host, where it keeps the answer in
a file. -/
def systemName : IO ByteArray := do
  let some bytes ← readBytes? "/proc/sys/kernel/hostname" | return .empty
  -- the file ends its one line, which is no part of the name
  return ⟨bytes.data.filter (· != '\n'.toUInt8)⟩

/-- A log event as a line of text or as a JSON object. -/
def Event.line (format : LogFormat) (e : Event) : String :=
  match format with
  | .console =>
    e.fields.foldl (fun line field => line ++ " " ++ field.1 ++ "=" ++ field.2)
      (e.level.name ++ " " ++ e.message)
  | .json =>
    let fields := e.fields.map fun field => (field.1, Json.string field.2)
    (Json.object [("level", .string e.level.name),
      ("fields", .object (("message", .string e.message) :: fields))]).compact

/-- A failure as it is written to standard error. -/
def Command.Failure.report (f : Failure) : String :=
  "Error: " ++ f.message ++
    match f.cause? with
    | some cause => "\n\nCaused by:\n    " ++ cause
    | none => ""

end TrafficGraph

open TrafficGraph in
/-- The program: its exit status is that of the command. -/
def main (args : List String) : IO UInt32 := do
  let path := Command.path args
  let outcome := Command.onFile (fun _ => none) (← systemName) path (← readBytes? path)
  if let some format := outcome.style then
    for e in outcome.log do
      IO.eprintln (e.line format)
  IO.print outcome.stdout
  if let some failure := outcome.failure then
    IO.eprintln failure.report
  return outcome.status.toUInt32
