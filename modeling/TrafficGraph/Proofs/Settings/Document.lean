import TrafficGraph.Proofs.Text.Lookup
import TrafficGraph.Settings.Toml

/-!
# Settings and their document

A document is read and then looked through, and what it is refused for may turn up in
either part. This module puts the two together: settings are read from the entries of a
document (`TrafficGraph.Settings.ReadFrom`), each part from an entry of its own, and a
document is accepted if and only if there are such settings
(`TrafficGraph.Settings.ofText_eq_ok_iff`).

As the parts have nothing to do with each other, one of them can be exchanged and the others
stay as they are. For the section on logging, `TrafficGraph.Settings.ReadFrom.iff_of_agree`
says so.
-/

namespace TrafficGraph

/-- The words for levels are told apart. -/
theorem Threshold.ofText?_name (t : Threshold) : ofText? t.name = some t := by
  cases t <;> rfl

/-- The words for formats are told apart. -/
theorem LogFormat.ofText?_name (f : LogFormat) : ofText? f.name = some f := by
  cases f <;> rfl

namespace Settings

/-! ### The section on logging -/

/-- **A valid section on logging**, or none: what is written in it, or goes without
saying, is a level, a format, and whether to log on the console. -/
def ReadsLogging (v : Option Toml) (l : Logging) : Prop :=
  ∃ level format, readLogging v = some (level, format, l.console) ∧
    Threshold.ofText? level = some l.level ∧ LogFormat.ofText? format = some l.format

/-! ### The document -/

/-- **Settings that are read from the entries of a document.** -/
structure ReadFrom (entries : List (String × Toml)) (s : Settings) : Prop where
  /-- How to log is what the section on it says. -/
  logging : ReadsLogging (entries.lookup "logging") s.logging
  /-- The name of this host is the one in its section, if there is one. -/
  hostname : readHost (entries.lookup "host") = some s.hostname
  /-- The name of this host is not blank. -/
  notBlank : s.hostname.any Text.allWhite = false
  /-- The nodes are those that are listed. -/
  nodes : readNodes (entries.lookup "actions") = some s.nodes

theorem check_eq_ok_iff {w : Written} {s : Settings} :
    check w = .ok s ↔
      Threshold.ofText? w.level = some s.logging.level ∧
        LogFormat.ofText? w.format = some s.logging.format ∧
        w.hostname.any Text.allWhite = false ∧
        w.console = s.logging.console ∧ w.hostname = s.hostname ∧ w.nodes = s.nodes := by
  obtain ⟨⟨level, format, console⟩, hostname, nodes⟩ := s
  rw [check]
  rcases Threshold.ofText? w.level with _ | t
  · simp
  rcases LogFormat.ofText? w.format with _ | f
  · simp
  by_cases hblank : w.hostname.any Text.allWhite = true
  · simp [hblank]
  · simp [hblank, and_assoc]

theorem ofToml?_table_eq_some_iff {entries : List (String × Toml)} {w : Written} :
    ofToml? (.table entries) = some w ↔
      readLogging (entries.lookup "logging") = some (w.level, w.format, w.console) ∧
        readHost (entries.lookup "host") = some w.hostname ∧
        readNodes (entries.lookup "actions") = some w.nodes := by
  obtain ⟨level, format, console, hostname, nodes⟩ := w
  rw [ofToml?]
  simp only [Option.bind_eq_bind, Option.bind_eq_some_iff, Option.some.injEq, Written.mk.injEq]
  constructor
  · rintro ⟨⟨_, _, _⟩, hlogging, _, hhost, _, hnodes, rfl, rfl, rfl, rfl, rfl⟩
    exact ⟨hlogging, hhost, hnodes⟩
  · rintro ⟨hlogging, hhost, hnodes⟩
    exact ⟨_, hlogging, _, hhost, _, hnodes, rfl, rfl, rfl, rfl, rfl⟩

/-- What is written in a document passes the check as the settings read from it. -/
theorem exists_check_eq_ok_iff {entries : List (String × Toml)} {s : Settings} :
    (∃ w, ofToml? (.table entries) = some w ∧ check w = .ok s) ↔ ReadFrom entries s := by
  constructor
  · rintro ⟨w, hw, hs⟩
    obtain ⟨hlogging, hhost, hnodes⟩ := ofToml?_table_eq_some_iff.mp hw
    obtain ⟨hlevel, hformat, hblank, hconsole, hname, hlist⟩ := check_eq_ok_iff.mp hs
    rw [hconsole] at hlogging
    rw [hname] at hhost hblank
    rw [hlist] at hnodes
    exact ⟨⟨w.level, w.format, hlogging, hlevel, hformat⟩, hhost, hblank, hnodes⟩
  · rintro ⟨⟨level, format, hlogging, hlevel, hformat⟩, hhost, hblank, hnodes⟩
    exact ⟨⟨level, format, s.logging.console, s.hostname, s.nodes⟩,
      ofToml?_table_eq_some_iff.mpr ⟨hlogging, hhost, hnodes⟩,
      check_eq_ok_iff.mpr ⟨hlevel, hformat, hblank, rfl, rfl, rfl⟩⟩

/-- **The acceptance of a document**: settings can be read from its entries. -/
theorem ofText_eq_ok_iff {text : String} {s : Settings} :
    ofText text = .ok s ↔
      ∃ entries, Toml.parse text = some (.table entries) ∧ ReadFrom entries s := by
  rw [ofText]
  rcases hparse : Toml.parse text with _ | v
  · simp
  cases v with
  | table entries =>
    rw [Option.bind_some]
    simp only [Option.some.injEq, Toml.table.injEq, exists_eq_left']
    rw [← exists_check_eq_ok_iff]
    rcases ofToml? (.table entries) with _ | w
    · simp
    · simp
  | string | integer | float | boolean | moment | array =>
    simp [ofToml?]

/-! ### One section exchanged -/

/-- Two documents hold the same, but for the section on logging. -/
def AgreeBesidesLogging (entries entries' : List (String × Toml)) : Prop :=
  ∀ name, name ≠ "logging" → entries.lookup name = entries'.lookup name

/-- It does not matter where the section stands. -/
theorem agreeBesidesLogging_of_append (before after before' after' : List (String × Toml))
    (v v' : Toml) (h : before ++ after = before' ++ after') :
    AgreeBesidesLogging (before ++ ("logging", v) :: after)
      (before' ++ ("logging", v') :: after') := by
  intro name hname
  rw [Text.lookup_append_cons_of_ne _ _ hname, h, Text.lookup_append_cons_of_ne _ _ hname]

/-- **The section on logging settles how to log, and nothing else does.** -/
theorem ReadFrom.iff_of_agree {entries entries' : List (String × Toml)} {s s' : Settings}
    (h : ReadFrom entries s) (hagree : AgreeBesidesLogging entries entries') :
    ReadFrom entries' s' ↔
      ∃ l, ReadsLogging (entries'.lookup "logging") l ∧ s' = { s with logging := l } := by
  have hhost := hagree "host" (by decide)
  have hactions := hagree "actions" (by decide)
  constructor
  · intro h'
    have hname : some s'.hostname = some s.hostname := by
      rw [← h'.hostname, ← hhost, h.hostname]
    have hnodes : some s'.nodes = some s.nodes := by
      rw [← h'.nodes, ← hactions, h.nodes]
    refine ⟨s'.logging, h'.logging, ?_⟩
    rw [← Option.some.inj hname, ← Option.some.inj hnodes]
  · rintro ⟨l, hl, rfl⟩
    exact ⟨hl, hhost ▸ h.hostname, h.notBlank, hactions ▸ h.nodes⟩

end Settings

end TrafficGraph
