import TrafficGraph.Toml.Number
import TrafficGraph.Toml.Section

/-!
# TOML documents

A document is read line by line. A heading opens a section, the keys after it
belong to that section, and the section is put into its place in the document
when the next heading comes or the document ends.

Arrays and tables written in one place may be nested 79 deep. The readers that
call each other take a number that bounds their calls; the one that
`TrafficGraph.Toml.parse` starts with is never used up, because every second call
takes a character of the document.
-/

namespace TrafficGraph

namespace Toml

/-! ### Values -/

mutual

/-- A value, with so many arrays and tables in one another as `depth` says. -/
def value? : Nat → Nat → List Char → Option (Toml × List Char)
  | 0, _, _ => none
  | calls + 1, depth, cs =>
    match cs with
    | '"' :: _ => (quoted? cs).map fun p => (.string p.1, p.2)
    | '\'' :: _ => (quoted? cs).map fun p => (.string p.1, p.2)
    | '[' :: r =>
      match depth with
      | 0 => none
      | depth + 1 => (items? calls depth r).map fun p => (.array p.1, p.2)
    | '\x7b' :: r =>
      match depth with
      | 0 => none
      | depth + 1 =>
        match skipSpaces r with
        | '\x7d' :: r => some (.table [], r)
        | _ => (pairs? calls depth [] r).map fun p => (.table (finishEntries p.1), p.2)
    | _ => plain? cs

/-- The items of an array up to its closing bracket. Lines may end anywhere
between them, and a comma may follow the last. -/
def items? : Nat → Nat → List Char → Option (List Toml × List Char)
  | 0, _, _ => none
  | calls + 1, depth, cs =>
    match skipLines false cs with
    | ']' :: r => some ([], r)
    | r => do
      let (v, r) ← value? calls depth r
      match skipLines false r with
      | ']' :: r => some ([v], r)
      | ',' :: r =>
        let (vs, r) ← items? calls depth r
        some (v :: vs, r)
      | _ => none

/-- The keys and values of a table in one place, up to its closing brace. -/
def pairs? : Nat → Nat → Entries → List Char → Option (Entries × List Char)
  | 0, _, _, _ => none
  | calls + 1, depth, entries, cs => do
    let (key, r) ← key? cs
    let (v, r) ← value? calls depth (skipSpaces (← skip? '=' r))
    let entries ← addKey key v entries
    match skipSpaces r with
    | '\x7d' :: r => some (entries, r)
    | ',' :: r => pairs? calls depth entries r
    | _ => none

end

/-! ### Sections -/

/-- The place of a section: the path and the name in its heading, and whether the
heading adds an item to a sequence. -/
structure Heading where
  /-- The section is an item of a sequence. -/
  isItem : Bool
  /-- The names before the last. -/
  path : List String
  /-- The last name. -/
  name : String

/-- A document while it is read: what is in place, and the section that is open.
Before the first heading, the open section is the document itself. -/
structure Draft where
  /-- The entries that are in place. -/
  placed : Entries
  /-- The heading of the open section, if there is one. -/
  heading : Option Heading
  /-- The entries of the open section. -/
  entries : Entries

namespace Draft

/-- The document before its first line. -/
def empty : Draft := ⟨[], none, []⟩

/-- The change that puts a finished section into its place. -/
def place (h : Heading) (section' : Entries) (_ : Origin) (entries : Entries) :
    Option (Unit × Entries) :=
  match h.isItem, entries.lookup h.name with
  | true, none => some ((), Entries.put h.name (.tables [section']) entries)
  | true, some (.tables items) =>
    some ((), Entries.put h.name (.tables (section' :: items)) entries)
  | false, none => some ((), Entries.put h.name (.table .declared section') entries)
  | _, _ => none

/-- All entries of the document, the open section put into its place. -/
def close (d : Draft) : Option Entries :=
  match d.heading with
  | none => some d.entries
  | some h => (edit false (place h d.entries) h.path .declared d.placed).map (·.2)

/-- The change that takes out what a heading may continue: an implied table, of
which the entries are kept. A sequence stays where it is. -/
def release (h : Heading) (_ : Origin) (entries : Entries) : Option (Entries × Entries) :=
  match h.isItem, entries.lookup h.name with
  | _, none => some ([], entries)
  | true, some (.tables _) => some ([], entries)
  | false, some (.table .implied sub) => some (sub, Entries.remove h.name entries)
  | _, _ => none

/-- The document after a heading. -/
def open? (d : Draft) (h : Heading) : Option Draft := do
  let placed ← d.close
  let (entries, placed) ← edit false (release h) h.path .declared placed
  some ⟨placed, some h, entries⟩

/-- The document after a key and its value. -/
def add? (d : Draft) (key : List String × String) (v : Toml) : Option Draft :=
  (addKey key v d.entries).map fun entries => { d with entries }

end Draft

/-! ### Lines -/

/-- A line that is a heading, after its opening brackets. -/
def heading? (d : Draft) (isItem : Bool) (cs : List Char) : Option (Draft × List Char) := do
  let ((path, name), r) ← key? cs
  let r ← skip? ']' r
  let r ← if isItem then skip? ']' r else some r
  let r ← endOfLine? r
  let d ← d.open? ⟨isItem, path, name⟩
  some (d, r)

/-- A line that gives a value to a key. -/
def assignment? (calls : Nat) (d : Draft) (cs : List Char) : Option (Draft × List Char) := do
  let (key, r) ← key? cs
  let (v, r) ← value? calls 79 (skipSpaces (← skip? '=' r))
  let r ← endOfLine? r
  let d ← d.add? key v
  some (d, r)

/-- One line; an empty one changes nothing. -/
def line? (calls : Nat) (d : Draft) (cs : List Char) : Option (Draft × List Char) :=
  match cs with
  | '[' :: '[' :: r => heading? d true r
  | '[' :: r => heading? d false r
  | '#' :: _ => (endOfLine? cs).map fun r => (d, r)
  | '\n' :: _ => (endOfLine? cs).map fun r => (d, r)
  | '\r' :: _ => (endOfLine? cs).map fun r => (d, r)
  | _ => assignment? calls d cs

/-- The lines of a document, no more than the first number says. -/
def lines? : Nat → Nat → Draft → List Char → Option Draft
  | 0, _, _, _ => none
  | n + 1, calls, d, cs =>
    match skipSpaces cs with
    | [] => some d
    | r => do
      let (d, r) ← line? calls d r
      lines? n calls d r

/-- **The table that a document holds**, if it is one. A byte order mark in front
is not part of it. -/
def parse (text : String) : Option Toml := do
  let cs :=
    match text.toList with
    | '\ufeff' :: cs => cs
    | cs => cs
  let d ← lines? (cs.length + 1) (2 * cs.length + 2) .empty cs
  let entries ← d.close
  some (.table (finishEntries entries))

end Toml

end TrafficGraph
