import TrafficGraph.Proofs.Action.Json
import TrafficGraph.Proofs.Command.Log
import TrafficGraph.Proofs.Json.Indented

/-!
# Nothing but its findings can be read from a report

A report is all that the command leaves behind about its nodes, and the messages in it repeat
texts that anybody may have written: such a text can hold marks, line ends, and whatever else
an entry is made of. Nevertheless no report reads as another one. What is read from it is its
list of findings (`TrafficGraph.Report.Finding`), which are less than what is behind them: the
message of a fault remains, and the texts that made the message are gone.

* `TrafficGraph.Report.print_inj` – lists of findings with the same text are equal, whatever
  messages they hold.
* `TrafficGraph.Command.run_unambiguous` – two accepted files give the same output if and only
  if they lead to the same findings.
-/

namespace TrafficGraph

theorem FaultKind.name_inj {k l : FaultKind} : k.name = l.name ↔ k = l := by
  cases k <;> cases l <;> decide

namespace Report

/-! ### Findings -/

/-- **The findings on a list of nodes**, in order. -/
def findings (r : Resolver) (nodes : List Node) : List Finding := nodes.mapIdx (finding r)

theorem length_findings {r : Resolver} {nodes : List Node} :
    (findings r nodes).length = nodes.length := List.length_mapIdx

/-- The text of a report with the given findings. -/
def print (findings : List Finding) : String :=
  (Json.array (findings.mapIdx Finding.toJson)).indented ++ "\n"

/-! ### From the text back to the findings -/

/-- The status comes first and tells what the other members are. -/
theorem Finding.toJson_inj {i : Nat} {f g : Finding} : f.toJson i = g.toJson i ↔ f = g := by
  refine ⟨fun h => ?_, congrArg (toJson i)⟩
  rcases f with x | ⟨kind, message⟩ <;> rcases g with y | ⟨kind', message'⟩ <;>
    simp only [toJson, Json.object.injEq, List.cons.injEq, Prod.mk.injEq, Json.string.injEq,
      Action.toJson_inj, FaultKind.name_inj, true_and, and_true] at h
  · rw [h]
  · exact absurd h.1 (by decide)
  · exact absurd h.1 (by decide)
  · obtain ⟨rfl, rfl⟩ := h
    rfl

theorem integral_findings (fs : List Finding) :
    (Json.array (fs.mapIdx Finding.toJson)).Integral := by
  refine .array fun v hv => ?_
  obtain ⟨i, hi, rfl⟩ := List.mem_mapIdx.mp hv
  exact Finding.integral_toJson i _

/-- **The text of a report determines its findings.** -/
theorem print_inj {fs gs : List Finding} : print fs = print gs ↔ fs = gs := by
  refine ⟨fun h => ?_, congrArg print⟩
  have hvalue := (Json.indented_inj (integral_findings fs) (integral_findings gs)).mp
    ((String.append_left_inj "\n").mp h)
  have hitems : fs.mapIdx Finding.toJson = gs.mapIdx Finding.toJson := Json.array.inj hvalue
  -- an entry holds its index, so entries are compared place by place
  refine List.ext_getElem? fun i => ?_
  have hitem : fs[i]?.map (Finding.toJson i) = gs[i]?.map (Finding.toJson i) := by
    rw [← List.getElem?_mapIdx, ← List.getElem?_mapIdx, hitems]
  exact Option.map_injective (fun _ _ => Finding.toJson_inj.mp) hitem

/-! ### The entries that are printed -/

variable {r : Resolver} {nodes : List Node}

theorem items_eq_mapIdx : items r nodes = (findings r nodes).mapIdx Finding.toJson := by
  refine List.ext_getElem? fun i => ?_
  rw [getElem?_items, List.getElem?_mapIdx, findings, List.getElem?_mapIdx, Option.map_map]
  rfl

end Report

namespace Command

theorem stdout_report (path : String) (r : Resolver) (s : Settings) :
    (report path r s).stdout = Report.print (Report.findings r s.nodes) := by
  rw [(reports_report path r s).stdout_eq, Report.items_eq_mapIdx, Report.print]

/-- **Reports are unambiguous.** On a file that is accepted the command prints its findings, and
two lists of findings have the same text if and only if they are equal, whatever is written in
their messages. So two accepted files give the same output if and only if they lead to the same
actions under the same keys, and to faults of the same class and with the same message, node by
node. -/
theorem run_unambiguous (network network' : String → Option Address) (system system' : ByteArray) :
    (∀ (files : String → Option ByteArray) (args : List String) (s : Settings),
        Settings.ofFile (path args) (files (path args)) = .ok s →
        (run network files args system).stdout =
          Report.print (Report.findings (resolver network system s) s.nodes)) ∧
      (∀ fs gs : List Report.Finding, Report.print fs = Report.print gs ↔ fs = gs) ∧
      ∀ (files files' : String → Option ByteArray) (args args' : List String) (s s' : Settings),
        Settings.ofFile (path args) (files (path args)) = .ok s →
        Settings.ofFile (path args') (files' (path args')) = .ok s' →
        ((run network files args system).stdout = (run network' files' args' system').stdout ↔
          Report.findings (resolver network system s) s.nodes =
            Report.findings (resolver network' system' s') s'.nodes) := by
  refine ⟨?_, fun _ _ => Report.print_inj, ?_⟩
  · intro files args s hs
    rw [run_of_accepted hs, stdout_report]
  · intro files files' args args' s s' hs hs'
    rw [run_of_accepted hs, run_of_accepted hs', stdout_report, stdout_report, Report.print_inj]

/-- A file with one node, whose kind is made for the report: it is all that a report holds from
the kind of one unknown node to that of the next, with the end of an entry and the beginning of
another. A second file has these two nodes, and a third has them too, the first with a time that
is not looked at, and gives a name to this host. The first report is none of the others, and
these are the same. -/
theorem run_unambiguous_forged_entry :
    let forgery := "x', expected one of: 'start','end','pause','synchronize', or 'transfer'\"\n" ++
      "  \x7d,\n  \x7b\n    \"status\": \"rejected\",\n    \"index\": 1,\n" ++
      "    \"kind\": \"UnknownAttribute\",\n    \"error\": \"node has unknown action kind 'y"
    let forged := "[[actions]]\nkind = '''" ++ forgery ++ "'''\n"
    let two := "[[actions]]\nkind = \"x\"\n[[actions]]\nkind = \"y\"\n"
    let timed := "[host]\nhostname = \"me\"\n" ++
      "[[actions]]\nkind = \"x\"\ntime = \"1\"\n[[actions]]\nkind = \"y\"\n"
    let unknown (kind time : String) : Node := ⟨kind, time, "", "", "", "", "", "", ""⟩
    let accepted (hostname : Option String) (nodes : List Node) : Settings :=
      ⟨⟨.info, .console, false⟩, hostname, nodes⟩
    let network : String → Option Address := fun _ => none
    let stdout (text : String) : String := (run network (fun _ => some text.toUTF8) []).stdout
    Settings.ofText forged = .ok (accepted none [unknown forgery ""]) ∧
      Settings.ofText two = .ok (accepted none [unknown "x" "", unknown "y" ""]) ∧
      Settings.ofText timed = .ok (accepted (some "me") [unknown "x" "1", unknown "y" ""]) ∧
      stdout forged ≠ stdout two ∧ stdout two = stdout timed := by
  intro forgery forged two timed unknown accepted network stdout
  have hforged : Settings.ofText forged = .ok (accepted none [unknown forgery ""]) := by
    refine Settings.ofText_eq_ok_of_toOption ?_
    dsimp only [forged, forgery, accepted, unknown]
    decide +kernel
  have htwo : Settings.ofText two = .ok (accepted none [unknown "x" "", unknown "y" ""]) := by
    refine Settings.ofText_eq_ok_of_toOption ?_
    dsimp only [two, accepted, unknown]
    decide +kernel
  have htimed : Settings.ofText timed =
      .ok (accepted (some "me") [unknown "x" "1", unknown "y" ""]) := by
    refine Settings.ofText_eq_ok_of_toOption ?_
    dsimp only [timed, accepted, unknown]
    decide +kernel
  obtain ⟨-, -, hiff⟩ := run_unambiguous network network .empty .empty
  have hstdout : ∀ (text text' : String) (s s' : Settings), Settings.ofText text = .ok s →
      Settings.ofText text' = .ok s' → (stdout text = stdout text' ↔
        Report.findings (resolver network .empty s) s.nodes =
          Report.findings (resolver network .empty s') s'.nodes) := fun text text' s s' hs hs' =>
    hiff _ _ [] [] s s' ((Settings.ofFile_toUTF8 _ text).trans hs)
      ((Settings.ofFile_toUTF8 _ text').trans hs')
  refine ⟨hforged, htwo, htimed, fun h => ?_, (hstdout _ _ _ _ htwo htimed).mpr ?_⟩
  · -- there is one finding on the one hand, and there are two on the other
    have hfindings := congrArg List.length ((hstdout _ _ _ _ hforged htwo).mp h)
    rw [Report.length_findings, Report.length_findings] at hfindings
    cases hfindings
  · dsimp only [resolver, accepted, unknown, network]
    decide +kernel

end Command

end TrafficGraph
