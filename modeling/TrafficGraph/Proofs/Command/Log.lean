import TrafficGraph.Proofs.Command.Report
import TrafficGraph.Proofs.Settings.Document

/-!
# Logging and the outcome

How to log is a matter of the settings, and it must not be more than that: who turns the
log down has to get the same output, the same exit status and the same error, and what is
left of the log has to be a part of what was there before. Nothing that happens to a node
may go missing from the whole log or turn up in it twice, so the whole log is described
from the nodes alone (`TrafficGraph.Command.levels`), without the level of the settings,
without indexes and without counting failures.

* `TrafficGraph.Report.map_level_log` – the levels that are logged for a list of nodes.
* `TrafficGraph.Command.logging_selects` – settings that differ in how to log have the
  same result, and each way to log selects from one and the same log.
-/

namespace TrafficGraph

/-! ### Levels in order -/

/-- The place of a level among the thresholds. -/
def Level.rank : Level → Nat
  | debug => 1
  | info => 2
  | warn => 3

/-- The place of a threshold, the one that admits everything first. -/
def Threshold.rank : Threshold → Nat
  | trace => 0
  | debug => 1
  | info => 2
  | warn => 3
  | error => 4

/-- **A threshold admits the levels at or above it.** -/
theorem Threshold.admits_eq_decide (t : Threshold) (level : Level) :
    t.admits level = decide (t.rank ≤ level.rank) := by
  cases t <;> cases level <;> rfl

/-! ### The nodes -/

namespace Report

/-- **The levels that are logged for a node**: those of its reading, and one more that
tells whether it is an action. -/
def levels (r : Resolver) (n : Node) : List Level :=
  (n.build r).events.map Event.level ++ [if n.isAction r then .info else .warn]

variable {r : Resolver} {nodes : List Node}

theorem map_level_events (i : Nat) (n : Node) :
    (events r i n).map Event.level = levels r n := by
  rw [events, List.map_append, levels, Node.isAction]
  cases (n.build r).outcome <;> rfl

/-- **The levels that are logged for a list of nodes** are those of each node in turn,
whatever its index. -/
theorem map_level_log : (ofNodes r nodes).log.map Event.level = nodes.flatMap (levels r) := by
  rw [(accounts_ofNodes r nodes).log_eq, List.map_flatMap]
  simp only [map_level_events]
  rw [← List.flatMap_map Prod.fst (levels r), List.zipIdx_map_fst]

/-- No failure is counted if every node is an action, and only then. -/
theorem failures_pos_iff :
    0 < (ofNodes r nodes).failures ↔ ¬nodes.all (Node.isAction r) = true := by
  rw [(accounts_ofNodes r nodes).failures_eq, List.countP_pos_iff, List.all_eq_true]
  simp only [Bool.not_eq_true', Bool.not_eq_true, not_forall, exists_prop]

end Report

namespace Command

/-! ### The whole log -/

/-- **The levels of the whole log**: a step at the beginning, the levels of each node in
turn, and a step at the end if every node is an action. -/
def levels (r : Resolver) (nodes : List Node) : List Level :=
  .info :: (nodes.flatMap (Report.levels r) ++ if nodes.all (Node.isAction r) then [.info] else [])

/-- **The levels of the whole log** do not depend on what is written in the events. -/
theorem map_level_events (path : String) (r : Resolver) (s : Settings) :
    (events path s (Report.ofNodes r s.nodes)).map Event.level = levels r s.nodes := by
  have hend : (if 0 < (Report.ofNodes r s.nodes).failures then []
        else [Event.allAccepted (Report.ofNodes r s.nodes).entries.length]).map Event.level =
      if s.nodes.all (Node.isAction r) then [.info] else [] := by
    simp only [Report.failures_pos_iff, ite_not]
    split <;> rfl
  rw [events, levels, List.map_cons, List.map_append, Report.map_level_log, hend]
  rfl

/-- What is logged is what the threshold of the settings lets through. -/
theorem log_report (path : String) (r : Resolver) (s : Settings) :
    (report path r s).log = (events path s (Report.ofNodes r s.nodes)).filter fun e =>
      s.logging.level.rank ≤ e.level.rank := by
  simp only [report, Threshold.admits_eq_decide]

theorem map_level_log_report (path : String) (r : Resolver) (s : Settings) :
    (report path r s).log.map Event.level =
      (levels r s.nodes).filter fun level => s.logging.level.rank ≤ level.rank := by
  rw [log_report, ← map_level_events path, List.filter_map]
  rfl

/-! ### Two ways to log -/

/-- **Outcomes that differ in their log at most.** -/
structure Outcome.SameResult (o o' : Outcome) : Prop where
  /-- The texts on standard output are the same. -/
  stdout_eq : o.stdout = o'.stdout
  /-- The exit statuses are the same. -/
  status_eq : o.status = o'.status
  /-- The errors are the same, or there is none. -/
  failure_eq : o.failure = o'.failure

/-- **The section on logging selects from one log.** Accepted settings that differ in how to
log have the same output, exit status and error, whatever the file that they are read from,
and documents that agree beside a valid section on logging are such settings. The levels
that are logged are those at or above the level of the settings among the levels of the
whole log. And for each path, name of this host, and list of nodes there is one log from
which every way to log selects. -/
theorem logging_selects (network : String → Option Address) (system : ByteArray) :
    (∀ (files files' : String → Option ByteArray) (args args' : List String)
        (s : Settings) (l : Logging),
        Settings.ofFile (path args) (files (path args)) = .ok s →
        Settings.ofFile (path args') (files' (path args')) = .ok { s with logging := l } →
        (run network files args system).SameResult (run network files' args' system)) ∧
      (∀ (text text' : String) (entries entries' : List (String × Toml)) (s s' : Settings),
        Toml.parse text = some (.table entries) → Toml.parse text' = some (.table entries') →
        Settings.AgreeBesidesLogging entries entries' → Settings.ofText text = .ok s →
        (Settings.ofText text' = .ok s' ↔
          ∃ l, Settings.ReadsLogging (entries'.lookup "logging") l ∧
            s' = { s with logging := l })) ∧
      (∀ (files : String → Option ByteArray) (args : List String) (s : Settings),
        Settings.ofFile (path args) (files (path args)) = .ok s →
        (run network files args system).log.map Event.level =
          (levels (resolver network system s) s.nodes).filter fun level =>
            s.logging.level.rank ≤ level.rank) ∧
      ∀ (args : List String) (hostname : Option String) (nodes : List Node),
        ∃ whole : List Event,
          whole.map Event.level =
            levels (.system (hostname.or (Resolver.nameOf? system)) network) nodes ∧
          ∀ (files : String → Option ByteArray) (l : Logging),
            Settings.ofFile (path args) (files (path args)) = .ok ⟨l, hostname, nodes⟩ →
            (run network files args system).log =
              whole.filter fun e => l.level.rank ≤ e.level.rank := by
  refine ⟨?_, ?_, ?_, ?_⟩
  · intro files files' args args' s l hs hs'
    rw [run_of_accepted hs, run_of_accepted hs']
    exact ⟨rfl, rfl, rfl⟩
  · intro text text' entries entries' s s' hparse hparse' hagree hs
    obtain ⟨_, hentries, hread⟩ := Settings.ofText_eq_ok_iff.mp hs
    rw [hparse] at hentries
    cases hentries
    rw [← hread.iff_of_agree hagree, Settings.ofText_eq_ok_iff, hparse']
    simp only [Option.some.injEq, Toml.table.injEq, exists_eq_left']
  · intro files args s hs
    rw [run_of_accepted hs]
    exact map_level_log_report _ _ s
  · intro args hostname nodes
    -- how to log does not enter the whole log, so any will do here
    let s : Settings := ⟨⟨.trace, .json, false⟩, hostname, nodes⟩
    refine ⟨events (path args) s (Report.ofNodes (resolver network system s) nodes),
      map_level_events _ _ s, ?_⟩
    intro files l hs
    rw [run_of_accepted hs]
    exact log_report _ _ _

/-- A file with one rejected node and one action, which asks for details, and the file that
asks for warnings only instead, in its last lines. The peers of the rejected node are this
host, a peer that is read, and a host without an address. Of its three events and the verdict
two warnings are left, and there is no last step. -/
theorem logging_selects_warnings :
    let host := "[host]\nhostname = \"me\"\n"
    let actions := "[[actions]]\nkind = \"start\"\ntime = \"1\"\nserverport = \"80\"\n" ++
      "peers = \"me:1,10.0.0.1:80,mars:2\"\n[[actions]]\nkind = \"pause\"\ntime = \"3\"\n"
    let loud := "[logging]\nlevel = \"debug\"\nformat = \"json\"\n" ++ host ++ actions
    let quiet := host ++ actions ++ "[logging]\nlevel = \"warn\"\n"
    let start : Node := ⟨"start", "1", "80", "me:1,10.0.0.1:80,mars:2", "", "", "", "", ""⟩
    let pause : Node := ⟨"pause", "3", "", "", "", "", "", "", ""⟩
    let s : Settings := ⟨⟨.debug, .json, false⟩, some "me", [start, pause]⟩
    let s' : Settings := { s with logging := ⟨.warn, .console, false⟩ }
    let files : String → Option ByteArray := fun _ => some loud.toUTF8
    let files' : String → Option ByteArray := fun _ => some quiet.toUTF8
    let system := "you".toUTF8
    let o := run (fun _ => none) files [] system
    let o' := run (fun _ => none) files' [] system
    Settings.ofText loud = .ok s ∧ Settings.ofText quiet = .ok s' ∧ o.SameResult o' ∧
      o.log.map Event.level = [.info, .info, .debug, .warn, .warn, .debug, .info] ∧
      o'.log.map Event.level = [.warn, .warn] ∧
      ∃ whole : List Event, o.log = whole.filter (fun e => 1 ≤ e.level.rank) ∧
        o'.log = whole.filter (fun e => 3 ≤ e.level.rank) := by
  intro host actions loud quiet start pause s s' files files' system o o'
  obtain ⟨hsame, hexchange, hlevels, hwhole⟩ := logging_selects (fun _ => none) system
  -- what the documents hold beside their sections on logging
  let rest : List (String × Toml) :=
    [("host", .table [("hostname", .string "me")]),
      ("actions", .array
        [.table [("kind", .string "start"), ("time", .string "1"), ("serverport", .string "80"),
          ("peers", .string "me:1,10.0.0.1:80,mars:2")],
        .table [("kind", .string "pause"), ("time", .string "3")]])]
  let inLoud : Toml := .table [("level", .string "debug"), ("format", .string "json")]
  let inQuiet : Toml := .table [("level", .string "warn")]
  have hloud : Toml.parse loud = some (.table (("logging", inLoud) :: rest)) := by
    dsimp only [loud, host, actions, rest, inLoud]
    decide +kernel
  have hquiet : Toml.parse quiet = some (.table (rest ++ [("logging", inQuiet)])) := by
    dsimp only [quiet, host, actions, rest, inQuiet]
    decide +kernel
  have hagree : Settings.AgreeBesidesLogging (("logging", inLoud) :: rest)
      (rest ++ [("logging", inQuiet)]) :=
    Settings.agreeBesidesLogging_of_append [] rest rest [] inLoud inQuiet
      (List.append_nil rest).symm
  have htext : Settings.ofText loud = .ok s :=
    Settings.ofText_eq_ok_iff.mpr
      ⟨_, hloud, ⟨"debug", "json", rfl, rfl, rfl⟩, rfl, by decide, rfl⟩
  have htext' : Settings.ofText quiet = .ok s' :=
    (hexchange loud quiet _ _ s s' hloud hquiet hagree htext).mpr
      ⟨⟨.warn, .console, false⟩, ⟨"warn", "console", rfl, rfl, rfl⟩, rfl⟩
  have hs : Settings.ofFile (path []) (files (path [])) = .ok s :=
    (Settings.ofFile_toUTF8 _ loud).trans htext
  have hs' : Settings.ofFile (path []) (files' (path [])) = .ok s' :=
    (Settings.ofFile_toUTF8 _ quiet).trans htext'
  obtain ⟨whole, -, hselect⟩ := hwhole [] s.hostname s.nodes
  refine ⟨htext, htext', hsame files files' [] [] s s'.logging hs hs', ?_, ?_,
    whole, hselect files s.logging hs, hselect files' s'.logging hs'⟩
  · rw [hlevels files [] s hs]
    dsimp only [s, start, pause]
    rfl
  · rw [hlevels files' [] s' hs']
    dsimp only [s', s, start, pause]
    rfl

end Command

end TrafficGraph
