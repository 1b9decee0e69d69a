import TrafficGraph.Command

/-!
# One pass over the nodes

A report is made node by node, and three things have to stay in step while actions and nodes that
are none alternate: the entries, the number of nodes that are no actions, and the index, which is in
the entry and the key of the action as well. The log grows along with them.

What all this comes to is said from the nodes alone. The entry of a node
(`TrafficGraph.Report.entry`) and what is logged for it (`TrafficGraph.Report.events`) depend on the
node and its index, and a report accounts for nodes (`TrafficGraph.Report.Accounts`) if it holds the
entries and the events of each in turn, and counts those that are no actions. One more node keeps
this, if it comes with the index that is next (`TrafficGraph.Report.Accounts.add`), so a report
accounts for the nodes it is made from (`TrafficGraph.Report.accounts_ofNodes`).
-/

namespace TrafficGraph

/-- The node is an action. -/
def Node.isAction (r : Resolver) (n : Node) : Bool :=
  match (n.build r).outcome with
  | .ok _ => true
  | .error _ => false

namespace Report

variable {r : Resolver}

/-! ### One node -/

/-- The entry for one node: the index is also the key of the action. -/
def entry (r : Resolver) (index : Nat) (n : Node) : Entry :=
  match (n.build r).outcome with
  | .ok x => ⟨index, .valid ⟨x.payload, some index⟩⟩
  | .error fault => ⟨index, .rejected fault⟩

/-- What is logged for one node: the events of its reading, and the verdict. -/
def events (r : Resolver) (index : Nat) (n : Node) : List Event :=
  (n.build r).events ++
    [match (n.build r).outcome with
      | .ok x => .accepted index x.kind
      | .error fault => .rejected index n.kind fault]

theorem entries_add (report : Report) (index : Nat) (n : Node) :
    (report.add r index n).entries = report.entries ++ [entry r index n] := by
  rw [add, entry]
  cases (n.build r).outcome <;> rfl

theorem failures_add (report : Report) (index : Nat) (n : Node) :
    (report.add r index n).failures = report.failures + if n.isAction r then 0 else 1 := by
  rw [add, Node.isAction]
  cases (n.build r).outcome <;> rfl

theorem log_add (report : Report) (index : Nat) (n : Node) :
    (report.add r index n).log = report.log ++ events r index n := by
  rw [add, events]
  cases (n.build r).outcome <;> rfl

/-! ### The nodes in turn -/

/-- **A report accounts for nodes.** -/
structure Accounts (r : Resolver) (report : Report) (nodes : List Node) : Prop where
  /-- There is the entry of each node, at its own index. -/
  entries_eq : report.entries = nodes.zipIdx.map fun p => entry r p.2 p.1
  /-- The nodes that are no actions are counted. -/
  failures_eq : report.failures = nodes.countP fun n => !n.isAction r
  /-- There are the events of each node in turn, and no others. -/
  log_eq : report.log = nodes.zipIdx.flatMap fun p => events r p.2 p.1

/-- **One more node** is accounted for if it has the index that is next. -/
theorem Accounts.add {report : Report} {nodes : List Node} (h : Accounts r report nodes)
    (n : Node) : Accounts r (report.add r nodes.length n) (nodes ++ [n]) := by
  have hindex : (nodes ++ [n]).zipIdx = nodes.zipIdx ++ [(n, nodes.length)] := by
    rw [List.zipIdx_append, Nat.zero_add, List.zipIdx_singleton]
  refine ⟨?_, ?_, ?_⟩
  · rw [entries_add, h.entries_eq, hindex, List.map_append, List.map_singleton]
  · rw [failures_add, h.failures_eq, List.countP_append, List.countP_singleton]
    cases n.isAction r <;> rfl
  · rw [log_add, h.log_eq, hindex, List.flatMap_append, List.flatMap_singleton]

/-- More nodes are accounted for if the first of them has the index that is next. -/
theorem Accounts.addAll {report : Report} {before : List Node} (h : Accounts r report before)
    (nodes : List Node) : Accounts r (report.addAll r before.length nodes) (before ++ nodes) := by
  induction nodes generalizing report before with
  | nil => rwa [List.append_nil]
  | cons n nodes ih =>
    have hrest := ih (h.add n)
    rwa [List.length_append, List.append_assoc] at hrest

/-- **A report accounts for the nodes it is made from.** -/
theorem accounts_ofNodes (r : Resolver) (nodes : List Node) :
    Accounts r (ofNodes r nodes) nodes := by
  have hempty : Accounts r empty [] := ⟨rfl, rfl, rfl⟩
  exact hempty.addAll nodes

end Report

end TrafficGraph
