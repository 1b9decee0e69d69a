import TrafficGraph.Action.Json
import TrafficGraph.Node

/-!
# Reports

A report on a list of nodes is made in one pass over them. Each node in turn is added to what is
there (`TrafficGraph.Report.add`): there is one more entry, which is the action the node stands for,
under its index as key, or the fault that keeps it from being one; a node that is no action is
counted; and the events of its reading are logged, with the verdict behind them.
-/

namespace TrafficGraph

/-- What became of one node. -/
inductive Verdict where
  /-- The node is an action. -/
  | valid (x : Action)
  /-- The node is no action. -/
  | rejected (fault : Fault)
deriving DecidableEq, Repr

namespace Report

/-- One entry of a report. -/
structure Entry where
  /-- The place of the node in the list. -/
  index : Nat
  /-- What became of the node. -/
  verdict : Verdict
deriving DecidableEq, Repr

/-- The JSON form of an entry. -/
def Entry.toJson (e : Entry) : Json :=
  match e.verdict with
  | .valid x =>
    .object [("status", .string "valid"), ("index", .ofNat e.index), ("action", x.toJson)]
  | .rejected fault =>
    .object [("status", .string "rejected"), ("index", .ofNat e.index),
      ("kind", .string fault.kind.name), ("error", .string fault.message)]

end Report

/-- **A report** on the nodes so far. -/
structure Report where
  /-- The entries, one for each node. -/
  entries : List Report.Entry
  /-- The number of nodes that are no actions. -/
  failures : Nat
  /-- What has been logged. -/
  log : List Event
deriving DecidableEq, Repr

namespace Report

/-- The report on no nodes. -/
def empty : Report := ⟨[], 0, []⟩

/-- **The report with one more node**, at its index. -/
def add (r : Resolver) (report : Report) (index : Nat) (n : Node) : Report :=
  let built := n.build r
  match built.outcome with
  | .ok x =>
    let action := x.withKey index
    { report with
      entries := report.entries ++ [⟨index, .valid action⟩]
      log := report.log ++ (built.events ++ [.accepted index action.kind]) }
  | .error fault =>
    { entries := report.entries ++ [⟨index, .rejected fault⟩]
      failures := report.failures + 1
      log := report.log ++ (built.events ++ [.rejected index n.kind fault]) }

/-- The report with more nodes, of which the first is at the given index. -/
def addAll (r : Resolver) (report : Report) (index : Nat) : List Node → Report
  | [] => report
  | n :: nodes => addAll r (report.add r index n) (index + 1) nodes

/-- **The report on a list of nodes.** -/
def ofNodes (r : Resolver) (nodes : List Node) : Report := empty.addAll r 0 nodes

/-- The JSON form of a report: its entries in order. -/
def toJson (report : Report) : Json := .array (report.entries.map Entry.toJson)

end Report

end TrafficGraph
