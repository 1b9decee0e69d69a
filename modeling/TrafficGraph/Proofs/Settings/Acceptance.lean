import TrafficGraph.Proofs.Settings.Section

/-!
# Which documents are settings

`TrafficGraph.Settings.Decides` puts the sections of a document together. A document that is not of
the right shape is refused for that alone, wherever it is out of shape; a level, a format and the
name of the host are only looked at when there is nothing else to complain about, and in this order.

The main statement is `TrafficGraph.Settings.ofText_decides`. A moment in time where a table is
expected is left out of the decision, but it is no obstacle to a comparison: two documents that say
the same of everything that is known, each in its spelling
(`TrafficGraph.Settings.SameSections`), make the same settings or are refused for the same reason.
-/

namespace TrafficGraph

open Toml

/-! ### The words -/

theorem Threshold.ofText?_eq_some_iff {s : String} {t : Threshold} :
    ofText? s = some t ↔ s = t.name := by
  constructor
  · intro h
    have hfound := List.find?_some h
    exact (beq_iff_eq.mp hfound).symm
  · rintro rfl
    exact t.ofText?_name

/-- The words that stand for a threshold are five. -/
theorem Threshold.mem_words_iff {s : String} :
    s ∈ ["trace", "debug", "info", "warn", "error"] ↔ ∃ t, ofText? s = some t :=
  Text.mem_map_iff_exists_find? all name

theorem LogFormat.ofText?_eq_some_iff {s : String} {f : LogFormat} :
    ofText? s = some f ↔ s = f.name := by
  constructor
  · intro h
    have hfound := List.find?_some h
    exact (beq_iff_eq.mp hfound).symm
  · rintro rfl
    exact f.ofText?_name

/-- The words that stand for a format are two. -/
theorem LogFormat.mem_words_iff {s : String} :
    s ∈ ["json", "console"] ↔ ∃ f, ofText? s = some f :=
  Text.mem_map_iff_exists_find? all name

namespace Settings

/-! ### The decision -/

/-- **What is written can be accepted**: the words are known, and the name of the host is not made
of white space only. -/
structure Acceptable (w : Written) : Prop where
  /-- The level is one of five words. -/
  level : w.level ∈ ["trace", "debug", "info", "warn", "error"]
  /-- The format is one of two. -/
  format : w.format ∈ ["json", "console"]
  /-- A name of the host has a character that can be seen. -/
  hostname : ∀ name, w.hostname = some name → ∃ c ∈ name.toList, Text.isWhite c = false

/-- **How a document with the given entries is decided.** -/
inductive Decides (entries : List (String × Toml)) : Except Refusal Settings → Prop
  /-- The entries say nothing that could be looked at. -/
  | malformed (h : ∀ w, ¬States entries w) : Decides entries (.error .malformed)
  /-- The level is no word for one. -/
  | level {w : Written} (stated : States entries w)
      (h : w.level ∉ ["trace", "debug", "info", "warn", "error"]) :
      Decides entries (.error (.level w.level))
  /-- The format is no word for one. -/
  | format {w : Written} (stated : States entries w)
      (hlevel : w.level ∈ ["trace", "debug", "info", "warn", "error"])
      (h : w.format ∉ ["json", "console"]) : Decides entries (.error (.format w.format))
  /-- The host has a name that cannot be seen. -/
  | blankHostname {w : Written} {name : String} (stated : States entries w)
      (hlevel : w.level ∈ ["trace", "debug", "info", "warn", "error"])
      (hformat : w.format ∈ ["json", "console"]) (hname : w.hostname = some name)
      (h : ∀ c ∈ name.toList, Text.isWhite c = true) : Decides entries (.error .blankHostname)
  /-- There is nothing to complain about. -/
  | accepted {w : Written} {s : Settings} (stated : States entries w) (h : Acceptable w)
      (hlevel : s.logging.level.name = w.level) (hformat : s.logging.format.name = w.format)
      (hconsole : s.logging.console = w.console) (hhostname : s.hostname = w.hostname)
      (hnodes : s.nodes = w.nodes) : Decides entries (.ok s)

theorem acceptable_iff {w : Written} :
    Acceptable w ↔
      (∃ t, Threshold.ofText? w.level = some t) ∧ (∃ f, LogFormat.ofText? w.format = some f) ∧
        w.hostname.any Text.allWhite = false := by
  have hseen : w.hostname.any Text.allWhite = false ↔
      ∀ name, w.hostname = some name → ∃ c ∈ name.toList, Text.isWhite c = false := by
    cases w.hostname with
    | none => exact iff_of_true rfl nofun
    | some name => simp [Text.allWhite]
  rw [← Threshold.mem_words_iff, ← LogFormat.mem_words_iff, hseen]
  exact ⟨fun h => ⟨h.level, h.format, h.hostname⟩, fun ⟨h, h', h''⟩ => ⟨h, h', h''⟩⟩

section Document

variable {entries : List (String × Toml)}

/-- What is written is decided by the check. -/
theorem decides_check {w : Written} (h : States entries w) : Decides entries (check w) := by
  rw [check]
  rcases hlevel : Threshold.ofText? w.level with _ | t
  · refine .level h fun hword => ?_
    obtain ⟨t, ht⟩ := Threshold.mem_words_iff.mp hword
    cases hlevel.symm.trans ht
  have hlevel' := Threshold.mem_words_iff.mpr ⟨t, hlevel⟩
  rcases hformat : LogFormat.ofText? w.format with _ | f
  · refine .format h hlevel' fun hword => ?_
    obtain ⟨f, hf⟩ := LogFormat.mem_words_iff.mp hword
    cases hformat.symm.trans hf
  have hformat' := LogFormat.mem_words_iff.mpr ⟨f, hformat⟩
  dsimp only
  by_cases hblank : w.hostname.any Text.allWhite = true
  · rw [if_pos hblank]
    obtain ⟨name, hname, hwhite⟩ := (Option.any_eq_true _ _).mp hblank
    exact .blankHostname h hlevel' hformat' hname (List.all_eq_true.mp hwhite)
  · rw [if_neg hblank]
    exact .accepted h (acceptable_iff.mpr ⟨⟨t, hlevel⟩, ⟨f, hformat⟩, Bool.eq_false_iff.mpr hblank⟩)
      (Threshold.ofText?_eq_some_iff.mp hlevel).symm
      (LogFormat.ofText?_eq_some_iff.mp hformat).symm rfl rfl rfl

/-- **The check is decided by what is written.** -/
theorem check_eq_of_decides {w : Written} (hstated : ∀ w', States entries w' → w' = w)
    (h : States entries w) {o : Except Refusal Settings} (ho : Decides entries o) :
    check w = o := by
  cases ho with
  | malformed hnone => exact absurd h (hnone w)
  | level hw hlevel =>
    obtain rfl := hstated _ hw
    have hnone := Option.eq_none_iff_forall_ne_some.mpr fun t ht =>
      hlevel (Threshold.mem_words_iff.mpr ⟨t, ht⟩)
    rw [check, hnone]
  | format hw hlevel hformat =>
    obtain rfl := hstated _ hw
    obtain ⟨t, ht⟩ := Threshold.mem_words_iff.mp hlevel
    have hnone := Option.eq_none_iff_forall_ne_some.mpr fun f hf =>
      hformat (LogFormat.mem_words_iff.mpr ⟨f, hf⟩)
    rw [check, ht, hnone]
  | blankHostname hw hlevel hformat hname hwhite =>
    obtain rfl := hstated _ hw
    obtain ⟨t, ht⟩ := Threshold.mem_words_iff.mp hlevel
    obtain ⟨f, hf⟩ := LogFormat.mem_words_iff.mp hformat
    have hblank : Option.any Text.allWhite (some _) = true := List.all_eq_true.mpr hwhite
    rw [check, ht, hf, hname]
    exact if_pos hblank
  | accepted hw haccept hlevel hformat hconsole hhostname hnodes =>
    obtain rfl := hstated _ hw
    obtain ⟨-, -, hblank⟩ := acceptable_iff.mp haccept
    exact check_eq_ok_iff.mpr ⟨Threshold.ofText?_eq_some_iff.mpr hlevel.symm,
      LogFormat.ofText?_eq_some_iff.mpr hformat.symm, hblank, hconsole.symm, hhostname.symm,
      hnodes.symm⟩

/-- **A document is decided by what its entries state.** -/
theorem ofText_eq_iff_decides {text : String} (hparse : Toml.parse text = some (.table entries))
    (hmoment : Momentless entries) {o : Except Refusal Settings} :
    ofText text = o ↔ Decides entries o := by
  have hread {w : Written} : ofToml? (.table entries) = some w ↔ States entries w :=
    ofToml?_eq_some_iff_states hmoment
  rw [ofText, hparse, Option.bind_some]
  rcases hw : ofToml? (.table entries) with _ | w
  · have hnone : ∀ w, ¬States entries w := fun w h => by
      cases hw.symm.trans (hread.mpr h)
    constructor
    · rintro rfl
      exact .malformed hnone
    · intro h
      cases h with
      | malformed => rfl
      | level h | format h | blankHostname h | accepted h => exact absurd h (hnone _)
  · have hstated : States entries w := hread.mp hw
    constructor
    · rintro rfl
      exact decides_check hstated
    · refine check_eq_of_decides (fun w' h => ?_) hstated
      exact Option.some.inj ((hread.mpr h).symm.trans hw)

/-- **When a document is accepted**: its entries state something, and that is acceptable. -/
theorem exists_ofText_eq_ok_iff {text : String} (hparse : Toml.parse text = some (.table entries))
    (hmoment : Momentless entries) :
    (∃ s, ofText text = .ok s) ↔ ∃ w, States entries w ∧ Acceptable w := by
  constructor
  · rintro ⟨s, hs⟩
    cases (ofText_eq_iff_decides hparse hmoment).mp hs with
    | accepted h haccept => exact ⟨_, h, haccept⟩
  · rintro ⟨w, hw, haccept⟩
    obtain ⟨⟨t, ht⟩, ⟨f, hf⟩, -⟩ := acceptable_iff.mp haccept
    have hdecides : Decides entries (.ok ⟨⟨t, f, w.console⟩, w.hostname, w.nodes⟩) :=
      .accepted hw haccept (Threshold.ofText?_eq_some_iff.mp ht).symm
        (LogFormat.ofText?_eq_some_iff.mp hf).symm rfl rfl rfl
    exact ⟨_, (ofText_eq_iff_decides hparse hmoment).mpr hdecides⟩

end Document

/-! ### Another spelling -/

/-- **Two values give the same for each of the names.** They may be spelt differently, and differ in
what the names do not include. -/
def SameRecord (names : List String) (v v' : Toml) : Prop :=
  ∃ parts, Spells names v parts ∧ Spells names v' parts

/-- **A section is rewritten**, or left alone. -/
inductive Rewritten (same : Toml → Toml → Prop) : Option Toml → Option Toml → Prop
  /-- It is left alone. -/
  | unchanged (v : Option Toml) : Rewritten same v v
  /-- It is rewritten. -/
  | changed {v v' : Toml} (h : same v v') : Rewritten same (some v) (some v')

/-- **Two documents state the same**, each in its spelling. Entries of other names than these do not
occur in it. -/
structure SameSections (entries entries' : List (String × Toml)) : Prop where
  /-- How to log. -/
  logging : Rewritten (SameRecord ["level", "format", "console"]) (entries.lookup "logging")
    (entries'.lookup "logging")
  /-- What this host is called; an array without items is no section on it. -/
  host : Rewritten (fun v v' => SameRecord ["hostname"] v v' ∧ v ≠ .array [] ∧ v' ≠ .array [])
    (entries.lookup "host") (entries'.lookup "host")
  /-- Which nodes there are, each of them rewritten or left alone. -/
  nodes : Rewritten (fun v v' => ∃ items items', v = .array items ∧ v' = .array items' ∧
      List.Forall₂ (fun x y => x = y ∨ SameRecord Node.attributes x y) items items')
    (entries.lookup "actions") (entries'.lookup "actions")

/-- A table says nothing more by names that are not known. -/
theorem sameRecord_unknown {names : List String} {name : String} (h : name ∉ names)
    (before after : List (String × Toml)) (v : Toml) :
    SameRecord names (.table (before ++ (name, v) :: after)) (.table (before ++ after)) := by
  refine ⟨_, .table _, ?_⟩
  have hlookup : (names.map fun other => (before ++ (name, v) :: after).lookup other) =
      names.map fun other => (before ++ after).lookup other :=
    List.map_congr_left fun other hother =>
      Text.lookup_append_cons_of_ne before after fun he => h (he ▸ hother)
  rw [hlookup]
  exact .table _

/-- An array says nothing more by items beyond the last name. -/
theorem sameRecord_surplus {names : List String} {items : List Toml}
    (h : names.length ≤ items.length) (more : List Toml) :
    SameRecord names (.array (items ++ more)) (.array items) := by
  refine ⟨_, .array _, ?_⟩
  have hitems : (names.mapIdx fun i _ => (items ++ more)[i]?) =
      names.mapIdx fun i _ => items[i]? := by
    refine List.ext_getElem? fun i => ?_
    rw [List.getElem?_mapIdx, List.getElem?_mapIdx]
    rcases Nat.lt_or_ge i names.length with hi | hi
    · rw [List.getElem?_append_left (Nat.lt_of_lt_of_le hi h)]
    · rw [List.getElem?_eq_none hi]
      rfl
  rw [hitems]
  exact .array _

/-- An array says what a table says that has its items under the names, in any order. -/
theorem sameRecord_zip {names : List String} (h : names.Nodup) {items : List Toml}
    {entries : List (String × Toml)}
    (hentries : ∀ name ∈ names, entries.lookup name = (names.zip items).lookup name) :
    SameRecord names (.array items) (.table entries) := by
  refine ⟨_, .array items, ?_⟩
  rw [← Text.map_lookup_zip_eq_mapIdx h, ← List.map_congr_left hentries]
  exact .table entries

theorem SameRecord.parts?_eq {names : List String} (hnames : names.Nodup) {v v' : Toml}
    (h : SameRecord names v v') : parts? names v = parts? names v' := by
  obtain ⟨parts, hv, hv'⟩ := h
  rw [parts?_of_spells hnames hv, parts?_of_spells hnames hv']

theorem Rewritten.readLogging_eq {v v' : Option Toml}
    (h : Rewritten (SameRecord ["level", "format", "console"]) v v') :
    readLogging v = readLogging v' := by
  cases h with
  | unchanged => rfl
  | changed h =>
    refine Option.ext fun ⟨level, format, console⟩ => ?_
    rw [readLogging_some_eq_some_iff, readLogging_some_eq_some_iff, h.parts?_eq (by decide)]

theorem Rewritten.readHost_eq {v v' : Option Toml}
    (h : Rewritten
      (fun v v' => SameRecord ["hostname"] v v' ∧ v ≠ .array [] ∧ v' ≠ .array []) v v') :
    readHost v = readHost v' := by
  cases h with
  | unchanged => rfl
  | changed h =>
    obtain ⟨h, hne, hne'⟩ := h
    refine Option.ext fun hostname => ?_
    rw [readHost_some_eq_some_iff hne, readHost_some_eq_some_iff hne', h.parts?_eq (by decide)]

theorem mapM_readNode_congr {items items' : List Toml}
    (h : List.Forall₂ (fun x y => x = y ∨ SameRecord Node.attributes x y) items items') :
    items.mapM readNode = items'.mapM readNode := by
  induction h with
  | nil => rfl
  | @cons v v' items items' hv _ ih =>
    have hnode : readNode v = readNode v' := by
      rcases hv with rfl | hv
      · rfl
      · refine Option.ext fun n => ?_
        rw [readNode_eq_some_iff_parts?, readNode_eq_some_iff_parts?,
          hv.parts?_eq Node.nodup_attributes]
    rw [List.mapM_cons, List.mapM_cons, hnode, ih]

/-- **The spelling does not matter.** -/
theorem SameSections.ofToml?_eq {entries entries' : List (String × Toml)}
    (h : SameSections entries entries') : ofToml? (.table entries) = ofToml? (.table entries') := by
  have hnodes : readNodes (entries.lookup "actions") = readNodes (entries'.lookup "actions") := by
    have hsection := h.nodes
    generalize entries.lookup "actions" = v at hsection ⊢
    generalize entries'.lookup "actions" = v' at hsection ⊢
    cases hsection with
    | unchanged => rfl
    | changed hitems =>
      obtain ⟨items, items', rfl, rfl, hitems⟩ := hitems
      exact mapM_readNode_congr hitems
  rw [ofToml?, ofToml?, h.logging.readLogging_eq, h.host.readHost_eq, hnodes]

/-! ### Documents -/

/-- A text that can be read holds a table. -/
theorem exists_entries_of_parse {text : String} {v : Toml} (h : Toml.parse text = some v) :
    ∃ entries, v = .table entries := by
  rw [Toml.parse] at h
  obtain ⟨d, -, h⟩ := Option.bind_eq_some_iff.mp h
  obtain ⟨entries, -, h⟩ := Option.bind_eq_some_iff.mp h
  exact ⟨_, (Option.some.inj h).symm⟩

/-- **Which documents are settings.** A text that can be read holds a table. If no moment in time
stands where a table is expected, the entries of the table decide what is made of the text, and it
is accepted if and only if they state something acceptable. Documents that state the same, each in
its spelling, are settings together, and the same ones, or are refused for the same reason; for the
spelling, names that are not known do not count, nor do items beyond the last name, and a table
is as good as an array if it has its items under the names. -/
theorem ofText_decides :
    (∀ (text : String) (v : Toml), Toml.parse text = some v →
        ∃ entries, v = .table entries ∧
          (Momentless entries →
            (∀ o, ofText text = o ↔ Decides entries o) ∧
              ((∃ s, ofText text = .ok s) ↔ ∃ w, States entries w ∧ Acceptable w))) ∧
      (∀ (text text' : String) (entries entries' : List (String × Toml)),
        Toml.parse text = some (.table entries) → Toml.parse text' = some (.table entries') →
        SameSections entries entries' → ofText text = ofText text') ∧
      ∀ names : List String, names.Nodup →
        (∀ (name : String) (before after : List (String × Toml)) (v : Toml), name ∉ names →
          SameRecord names (.table (before ++ (name, v) :: after)) (.table (before ++ after))) ∧
        (∀ items more : List Toml, names.length ≤ items.length →
          SameRecord names (.array (items ++ more)) (.array items)) ∧
        ∀ (items : List Toml) (entries : List (String × Toml)),
          (∀ name ∈ names, entries.lookup name = (names.zip items).lookup name) →
          SameRecord names (.array items) (.table entries) := by
  refine ⟨fun text v hparse => ?_, fun text text' entries entries' hparse hparse' hsame => ?_,
    fun names hnames => ?_⟩
  · obtain ⟨entries, rfl⟩ := exists_entries_of_parse hparse
    exact ⟨entries, rfl, fun hmoment => ⟨fun o => ofText_eq_iff_decides hparse hmoment,
      exists_ofText_eq_ok_iff hparse hmoment⟩⟩
  · rw [ofText, ofText, hparse, hparse', Option.bind_some, Option.bind_some, hsame.ofToml?_eq]
  · exact ⟨fun name before after v hname => sameRecord_unknown hname before after v,
      fun items more hlength => sameRecord_surplus hlength more,
      fun items entries => sameRecord_zip hnames⟩

/-- A document by position, and one by name with an attribute that is not known, make the same
settings. Where the host is an array without items, that is what a document is refused for,
whatever the level is. -/
theorem ofText_decides_spellings :
    let byPosition := "logging = [\"warn\"]\nhost = [\"me\", 1]\nactions = [[\"pause\", \"3\"]]\n"
    let byName := "[[actions]]\ntime = \"3\"\ncolour = 7\nkind = \"pause\"\n" ++
      "[host]\nhostname = \"me\"\n[logging]\nlevel = \"warn\"\n"
    let misshapen := "logging = [\"loud\"]\nhost = []\n"
    let pause : Node := ⟨"pause", "3", "", "", "", "", "", "", ""⟩
    let s : Settings := ⟨⟨.warn, .console, false⟩, some "me", [pause]⟩
    let items : List (String × Toml) :=
      [("logging", .array [.string "warn"]), ("host", .array [.string "me", .integer 1]),
        ("actions", .array [.array [.string "pause", .string "3"]])]
    let named : List (String × Toml) :=
      [("actions", .array [.table [("time", .string "3"), ("colour", .integer 7),
          ("kind", .string "pause")]]),
        ("host", .table [("hostname", .string "me")]),
        ("logging", .table [("level", .string "warn")])]
    let bad : List (String × Toml) := [("logging", .array [.string "loud"]), ("host", .array [])]
    Toml.parse byPosition = some (.table items) ∧ Momentless items ∧ Decides items (.ok s) ∧
      (∃ w, States items w ∧ Acceptable w) ∧
      Toml.parse byName = some (.table named) ∧ SameSections items named ∧
      ofText byName = .ok s ∧
      Toml.parse misshapen = some (.table bad) ∧ Momentless bad ∧
      Decides bad (.error .malformed) := by
  intro byPosition byName misshapen pause s items named bad
  obtain ⟨hread, hsame, hrecord⟩ := ofText_decides
  have hitems : Toml.parse byPosition = some (.table items) := by
    dsimp only [byPosition, items]
    decide +kernel
  have hnamed : Toml.parse byName = some (.table named) := by
    dsimp only [byName, named]
    decide +kernel
  have hbad : Toml.parse misshapen = some (.table bad) := by
    dsimp only [misshapen, bad]
    decide +kernel
  have hmomentless : Momentless items := by
    refine ⟨nofun, nofun, ?_⟩
    rintro _ ⟨⟩ s
    simp
  have hbadMomentless : Momentless bad := ⟨nofun, nofun, nofun⟩
  have hsections : SameSections items named := by
    refine ⟨.changed ((hrecord _ (by decide)).2.2 _ _ (by decide)),
      .changed ⟨(hrecord _ (by decide)).2.2 _ _ (by decide), nofun, nofun⟩,
      .changed ⟨_, _, rfl, rfl, .cons (Or.inr ?_) .nil⟩⟩
    exact (hrecord _ Node.nodup_attributes).2.2 _ _ (by decide)
  have hs : ofText byPosition = .ok s :=
    ofText_eq_ok_iff.mpr ⟨items, hitems, ⟨"warn", "console", rfl, rfl, rfl⟩, rfl, by decide, rfl⟩
  have hmalformed : ofText misshapen = .error .malformed := by
    rw [ofText, hbad]
    rfl
  obtain ⟨_, hentries, hdecides⟩ := hread byPosition _ hitems
  obtain rfl := Toml.table.inj hentries
  obtain ⟨hdecides, haccepts⟩ := hdecides hmomentless
  obtain ⟨_, hentries, hrefuses⟩ := hread misshapen _ hbad
  obtain rfl := Toml.table.inj hentries
  exact ⟨hitems, hmomentless, (hdecides _).mp hs, haccepts.mp ⟨s, hs⟩, hnamed, hsections,
    (hsame _ _ _ _ hitems hnamed hsections).symm.trans hs, hbad, hbadMomentless,
    ((hrefuses hbadMomentless).1 _).mp hmalformed⟩

end Settings

end TrafficGraph
