import TrafficGraph.Toml.Value

/-!
# Sections under construction

The tables of a TOML document are written in pieces: under headings, through keys
with dots, one item of a sequence after the other. Which piece may add to which
table depends on how the table came about, so a table under construction carries
its origin.

* A table with a heading of its own, and the document itself, is *declared*. It is
  never declared again, and a key with dots does not reach into it.
* A table that stands only in the heading of another is *implied*. It may still be
  declared.
* A table that stands only in the dots of a key is *dotted*. More keys with dots
  may add to it, and no heading may declare it.
* A sequence of tables grows by an item with each heading in double brackets, and
  a path that leads through it leads through its last item.

`TrafficGraph.Toml.edit` is the one way into a table: it follows a path, makes the
tables that are missing on the way, and changes the entries at its end.
-/

namespace TrafficGraph

namespace Toml

/-- How a table came about. -/
inductive Origin where
  /-- It has a heading of its own. -/
  | declared
  /-- It stands in the heading of another table. -/
  | implied
  /-- It stands in the dots of a key. -/
  | dotted
deriving DecidableEq, Repr

/-- What a name stands for in a table under construction. -/
inductive Entry where
  /-- A value that was written in one place. -/
  | value (v : Toml)
  /-- A table. -/
  | table (origin : Origin) (entries : List (String × Entry))
  /-- A sequence of tables, the latest first. -/
  | tables (items : List (List (String × Entry)))

/-- The entries of a table under construction. -/
abbrev Entries : Type := List (String × Entry)

/-- The entries with the first one of a name replaced, or with a new one at the
end. -/
def Entries.put (name : String) (e : Entry) : Entries → Entries
  | [] => [(name, e)]
  | (key, old) :: rest => if key = name then (key, e) :: rest else (key, old) :: put name e rest

/-- The entries without the first one of a name. -/
def Entries.remove (name : String) : Entries → Entries
  | [] => []
  | (key, old) :: rest => if key = name then rest else (key, old) :: remove name rest

/-- **Reaching into a table.** The path is followed from a table with the given
origin and entries, tables that are missing are made, and the change is applied
to the table at the end of the path. A path for a key is `dotted`: the tables it
makes are dotted, and it is refused at a declared table. No path leads through a
value. -/
def edit {α : Type} (dotted : Bool) (change : Origin → Entries → Option (α × Entries)) :
    List String → Origin → Entries → Option (α × Entries)
  | [], origin, entries => change origin entries
  | name :: path, _, entries =>
    match entries.lookup name with
    | none => do
      let origin := if dotted then .dotted else .implied
      let (a, sub) ← edit dotted change path origin []
      some (a, Entries.put name (.table origin sub) entries)
    | some (.table origin sub) =>
      if dotted && origin == .declared then none
      else do
        let (a, sub) ← edit dotted change path origin sub
        some (a, Entries.put name (.table origin sub) entries)
    | some (.tables (last :: earlier)) => do
      let (a, last) ← edit dotted change path .declared last
      some (a, Entries.put name (.tables (last :: earlier)) entries)
    | some (.tables []) => none
    | some (.value _) => none

/-- The change that adds a value under a new name. A key without dots does not add
to a dotted table, and a key with dots adds to no other. -/
def addValue (viaDots : Bool) (name : String) (v : Toml) (origin : Origin) (entries : Entries) :
    Option (Unit × Entries) :=
  if (origin == .dotted) != viaDots then none
  else match entries.lookup name with
    | some _ => none
    | none => some ((), Entries.put name (.value v) entries)

/-- The entries of a declared table with the value of one more key. -/
def addKey (key : List String × String) (v : Toml) (entries : Entries) : Option Entries :=
  (edit true (addValue (!key.1.isEmpty) key.2 v) key.1 .declared entries).map (·.2)

/-! ### Finished tables -/

mutual

/-- The value that an entry has become. -/
def Entry.finish : Entry → Toml
  | .value v => v
  | .table _ entries => .table (finishEntries entries)
  | .tables items => .array (finishItems items).reverse

/-- The values that named entries have become. -/
def finishEntries : List (String × Entry) → List (String × Toml)
  | [] => []
  | (name, e) :: rest => (name, e.finish) :: finishEntries rest

/-- The tables that the items of a sequence have become. -/
def finishItems : List (List (String × Entry)) → List Toml
  | [] => []
  | entries :: rest => .table (finishEntries entries) :: finishItems rest

end

end Toml

end TrafficGraph
