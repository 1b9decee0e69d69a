import TrafficGraph.Proofs.Node.Json
import TrafficGraph.Proofs.Settings.Document
import Mathlib.Data.List.Forall2

/-!
# What the sections of a document say

Whatever is named in a document can also be given by its place: a section on logging is a table
with three names or an array of three items, and so are the host and every node. This module says
what a section states, with both spellings side by side, and that this is what is read.

The common ground of the two spellings is what they give for each name
(`TrafficGraph.Toml.Spells`): the entry of the name, or the item of its place, or nothing. From
there on a section does not see how it has been spelt. The spellings do differ where nothing is
given at all, for an array must name the host and a table need not; so the host has rows of its
own (`TrafficGraph.Settings.StatesHost`).

A moment in time is read as a table without names. Nobody writes one where a table is expected, and
none of the statements here allows for it; `TrafficGraph.Settings.Momentless` keeps it away from
`TrafficGraph.Settings.ofToml?_eq_some_iff_states`, which says that a document is read as what its
entries state.
-/

namespace TrafficGraph

/-! ### Records in two spellings -/

namespace Toml

/-- **What a value gives for each of the names**: the entry of the name in a table, the item of its
place in an array, or nothing. Other entries and later items do not occur in it. -/
inductive Spells (names : List String) : Toml → List (Option Toml) → Prop
  /-- By name. -/
  | table (entries : List (String × Toml)) :
    Spells names (.table entries) (names.map fun name => entries.lookup name)
  /-- By position. -/
  | array (items : List Toml) : Spells names (.array items) (names.mapIdx fun i _ => items[i]?)

/-- **What is given is of the right sort**, or nothing is given. -/
inductive Given {α : Type} (sort : α → Toml) : Option Toml → Option α → Prop
  /-- Nothing is given. -/
  | absent : Given sort none none
  /-- Something of the sort is given. -/
  | present (a : α) : Given sort (some (sort a)) (some a)

/-- What a value gives for each of the names when it is read as a record. -/
def parts? (names : List String) (v : Toml) : Option (List (Option Toml)) :=
  (v.record? names).map fun fields => names.map fun name => fields.lookup name

theorem parts?_of_spells {names : List String} (h : names.Nodup) {v : Toml}
    {parts : List (Option Toml)} (hv : Spells names v parts) : parts? names v = some parts := by
  cases hv with
  | table entries => rfl
  | array items => exact congrArg some (Text.map_lookup_zip_eq_mapIdx h items)

/-- **What is read as a record is a table or an array**, unless it is a moment. -/
theorem spells_iff {names : List String} (h : names.Nodup) {v : Toml}
    (hmoment : ∀ s, v ≠ .moment s) {parts : List (Option Toml)} :
    Spells names v parts ↔ parts? names v = some parts := by
  refine ⟨parts?_of_spells h, fun hparts => ?_⟩
  cases v with
  | table entries =>
    obtain rfl := Option.some.inj hparts
    exact .table entries
  | array items =>
    obtain rfl := Option.some.inj
      ((congrArg some (Text.map_lookup_zip_eq_mapIdx h items)).symm.trans hparts)
    exact .array items
  | moment s => exact absurd rfl (hmoment s)
  | string | integer | float | boolean => cases hparts

theorem field?_eq_some_iff {α : Type} {sort : α → Toml} {read : Toml → Option α}
    (hread : ∀ v a, read v = some a ↔ v = sort a) {name : String}
    {fields : List (String × Toml)} {x : Option α} :
    field? name read fields = some x ↔ Given sort (fields.lookup name) x := by
  rw [field?]
  rcases fields.lookup name with _ | v
  · constructor
    · intro h
      obtain rfl := Option.some.inj h
      exact .absent
    · rintro ⟨⟩
      rfl
  · rw [Option.map_eq_some_iff]
    constructor
    · rintro ⟨a, ha, rfl⟩
      rw [(hread v a).mp ha]
      exact .present a
    · intro h
      cases h with
      | present a => exact ⟨a, (hread _ a).mpr rfl, rfl⟩

theorem text?_eq_some_iff (v : Toml) (s : String) : v.text? = some s ↔ v = .string s := by
  cases v <;> simp [text?]

theorem boolean?_eq_some_iff (v : Toml) (b : Bool) : v.boolean? = some b ↔ v = .boolean b := by
  cases v <;> simp [boolean?]

/-- Fields are looked at one by one, and each must be a text or absent. -/
theorem mapM_field?_eq_some_iff {fields : List (String × Toml)} {names : List String}
    {texts : List (String × Option String)} :
    (names.mapM fun name => (field? name text? fields).map fun text => (name, text)) =
        some texts ↔
      ∃ given, List.Forall₂ (Given .string) (names.map fun name => fields.lookup name) given ∧
        texts = names.zip given := by
  induction names generalizing texts with
  | nil =>
    constructor
    · intro h
      cases h
      exact ⟨[], .nil, rfl⟩
    · rintro ⟨given, hgiven, rfl⟩
      rfl
  | cons name names ih =>
    rw [List.mapM_cons]
    simp only [Option.bind_eq_bind, Option.bind_eq_some_iff, Option.map_eq_some_iff,
      Option.pure_def, Option.some.injEq, field?_eq_some_iff text?_eq_some_iff, ih, List.map_cons,
      List.forall₂_cons_left_iff]
    constructor
    · rintro ⟨_, ⟨x, hx, rfl⟩, _, ⟨given, hgiven, rfl⟩, rfl⟩
      exact ⟨x :: given, ⟨x, given, hx, hgiven, rfl⟩, rfl⟩
    · rintro ⟨_, ⟨x, given, hx, hgiven, rfl⟩, rfl⟩
      exact ⟨_, ⟨x, hx, rfl⟩, _, ⟨given, hgiven, rfl⟩, rfl⟩

end Toml

open Toml

/-! ### The texts of a node -/

/-- A node is made of the texts that are given for its attributes, if the first of them is. -/
theorem Node.ofTexts?_given_eq_some_iff {given : List (Option String)}
    (hlength : given.length = Node.attributes.length) {n : Node} :
    Node.ofTexts? (fun name => ((Node.attributes.zip given).lookup name).join) = some n ↔
      ∃ others, given = some n.kind :: others ∧
        n.texts = n.kind :: others.map fun text => text.getD "" := by
  have hgiven : (Node.attributes.map fun name => ((Node.attributes.zip given).lookup name).join) =
      given := by
    have hlookup := Text.map_lookup_zip Node.nodup_attributes (Nat.le_of_eq hlength)
    rw [hlength, Nat.sub_self, List.replicate_zero, List.append_nil] at hlookup
    have hjoin := congrArg (List.map Option.join) hlookup
    rw [List.map_map, List.map_map] at hjoin
    exact hjoin.trans (List.map_id given)
  have htexts : (Node.attributes.map fun name =>
      (((Node.attributes.zip given).lookup name).join).getD "") =
        given.map fun text => text.getD "" := by
    have hgetD := congrArg (List.map fun text => text.getD "") hgiven
    rwa [List.map_map] at hgetD
  rw [Node.ofTexts?_eq_some_iff, htexts]
  cases given with
  | nil => cases hlength
  | cons kind others =>
    have hkind : ((Node.attributes.zip (kind :: others)).lookup "kind").join = kind :=
      (List.cons.inj hgiven).1
    rw [hkind, List.map_cons]
    constructor
    · rintro ⟨rfl, htexts⟩
      exact ⟨others, rfl, htexts⟩
    · rintro ⟨_, h, htexts⟩
      obtain ⟨rfl, rfl⟩ := List.cons.inj h
      exact ⟨rfl, htexts⟩

namespace Settings

/-! ### What a section says -/

/-- **What a section on logging says**: level, format, and whether on the console. -/
inductive StatesLogging : Option Toml → String → String → Bool → Prop
  /-- There is no section. -/
  | absent : StatesLogging none "info" "console" false
  /-- There is one, and what it does not give goes without saying. -/
  | record {v : Toml} {x y z : Option Toml} {level format : Option String} {console : Option Bool}
      (spells : Spells ["level", "format", "console"] v [x, y, z])
      (hlevel : Given .string x level) (hformat : Given .string y format)
      (hconsole : Given .boolean z console) :
      StatesLogging (some v) (level.getD "info") (format.getD "console") (console.getD false)

/-- **What a section on the host says**: its name, if it is set. -/
inductive StatesHost : Option Toml → Option String → Prop
  /-- There is no section. -/
  | absent : StatesHost none none
  /-- By name, which may be left out. -/
  | table {entries : List (String × Toml)} {hostname : Option String}
      (h : Given .string (entries.lookup "hostname") hostname) :
      StatesHost (some (.table entries)) hostname
  /-- By position, which may not. -/
  | array (hostname : String) (rest : List Toml) :
    StatesHost (some (.array (.string hostname :: rest))) (some hostname)

/-- **What an entry for a node says**: its texts. The kind is given, and what else is not given is
empty. -/
inductive StatesNode (v : Toml) (n : Node) : Prop
  /-- In either spelling. -/
  | record {parts : List (Option Toml)} {others : List (Option String)}
      (spells : Spells Node.attributes v parts)
      (given : List.Forall₂ (Given .string) parts (some n.kind :: others))
      (texts : n.texts = n.kind :: others.map fun text => text.getD "")

/-- **What a section on nodes says**: the nodes in order. -/
inductive StatesNodes : Option Toml → List Node → Prop
  /-- There is no section. -/
  | absent : StatesNodes none []
  /-- There is one. -/
  | array {items : List Toml} {nodes : List Node} (h : List.Forall₂ StatesNode items nodes) :
    StatesNodes (some (.array items)) nodes

/-- **What the entries of a document say.** -/
structure States (entries : List (String × Toml)) (w : Written) : Prop where
  /-- How to log. -/
  logging : StatesLogging (entries.lookup "logging") w.level w.format w.console
  /-- What this host is called. -/
  host : StatesHost (entries.lookup "host") w.hostname
  /-- Which nodes there are. -/
  nodes : StatesNodes (entries.lookup "actions") w.nodes

/-- No moment in time stands where a table is expected. -/
structure Momentless (entries : List (String × Toml)) : Prop where
  /-- Not for logging. -/
  logging : ∀ s, entries.lookup "logging" ≠ some (.moment s)
  /-- Not for the host. -/
  host : ∀ s, entries.lookup "host" ≠ some (.moment s)
  /-- Not for a node. -/
  nodes : ∀ items, entries.lookup "actions" = some (.array items) → ∀ s, Toml.moment s ∉ items

/-! ### Reading a section -/

/-- A section on logging is read by what it gives for each of the names. -/
theorem readLogging_some_eq_some_iff {v : Toml} {level format : String} {console : Bool} :
    readLogging (some v) = some (level, format, console) ↔
      ∃ x y z l f c, parts? ["level", "format", "console"] v = some [x, y, z] ∧
        Given .string x l ∧ Given .string y f ∧ Given .boolean z c ∧
        level = l.getD "info" ∧ format = f.getD "console" ∧ console = c.getD false := by
  rw [readLogging, parts?]
  simp only [Option.bind_eq_bind, Option.bind_eq_some_iff, Option.map_eq_some_iff,
    field?_eq_some_iff text?_eq_some_iff, field?_eq_some_iff boolean?_eq_some_iff,
    Option.some.injEq, Prod.mk.injEq]
  constructor
  · rintro ⟨fields, hfields, l, hl, f, hf, c, hc, rfl, rfl, rfl⟩
    exact ⟨_, _, _, l, f, c, ⟨fields, hfields, rfl⟩, hl, hf, hc, rfl, rfl, rfl⟩
  · rintro ⟨x, y, z, l, f, c, ⟨fields, hfields, hparts⟩, hl, hf, hc, rfl, rfl, rfl⟩
    obtain ⟨rfl, rfl, rfl⟩ : _ ∧ _ ∧ _ := by simpa using hparts
    exact ⟨fields, hfields, l, hl, f, hf, c, hc, rfl, rfl, rfl⟩

theorem readLogging_eq_some_iff {v : Option Toml} (hmoment : ∀ s, v ≠ some (.moment s))
    {level format : String} {console : Bool} :
    readLogging v = some (level, format, console) ↔ StatesLogging v level format console := by
  cases v with
  | none =>
    constructor
    · intro h
      cases h
      exact .absent
    · rintro ⟨⟩
      rfl
  | some v =>
    have hspells {parts : List (Option Toml)} :
        Spells ["level", "format", "console"] v parts ↔ _ :=
      spells_iff (by decide) fun s hs => hmoment s (congrArg some hs)
    rw [readLogging_some_eq_some_iff]
    constructor
    · rintro ⟨x, y, z, l, f, c, hparts, hl, hf, hc, rfl, rfl, rfl⟩
      exact .record (hspells.mpr hparts) hl hf hc
    · intro h
      cases h with
      | record hv hl hf hc =>
        exact ⟨_, _, _, _, _, _, hspells.mp hv, hl, hf, hc, rfl, rfl, rfl⟩

theorem readHost_some_eq_some_iff {v : Toml} (hne : v ≠ .array []) {hostname : Option String} :
    readHost (some v) = some hostname ↔
      ∃ x, parts? ["hostname"] v = some [x] ∧ Given .string x hostname := by
  have hread : readHost (some v) =
      (v.record? ["hostname"]).bind (field? "hostname" text?) := by
    rw [readHost]
    · rfl
    · exact hne
  rw [hread, parts?, Option.bind_eq_some_iff]
  simp only [field?_eq_some_iff text?_eq_some_iff, Option.map_eq_some_iff]
  constructor
  · rintro ⟨fields, hfields, hname⟩
    exact ⟨_, ⟨fields, hfields, rfl⟩, hname⟩
  · rintro ⟨x, ⟨fields, hfields, hparts⟩, hname⟩
    obtain rfl := List.singleton_inj.mp hparts
    exact ⟨fields, hfields, hname⟩

theorem readHost_eq_some_iff {v : Option Toml} (hmoment : ∀ s, v ≠ some (.moment s))
    {hostname : Option String} : readHost v = some hostname ↔ StatesHost v hostname := by
  rcases v with _ | v
  · constructor
    · intro h
      cases h
      exact .absent
    · rintro ⟨⟩
      rfl
  by_cases hempty : v = .array []
  · subst hempty
    exact iff_of_false nofun nofun
  rw [readHost_some_eq_some_iff hempty]
  constructor
  · rintro ⟨x, hparts, hname⟩
    cases v with
    | table entries =>
      obtain rfl := List.singleton_inj.mp (Option.some.inj hparts)
      exact .table hname
    | array items =>
      obtain ⟨item, rest, rfl⟩ := List.exists_cons_of_ne_nil fun h => hempty (congrArg _ h)
      obtain rfl := List.singleton_inj.mp (Option.some.inj hparts)
      cases hname with
      | present hostname => exact .array hostname rest
    | moment s => exact absurd rfl (hmoment s)
    | string | integer | float | boolean => cases hparts
  · intro h
    cases h with
    | table h => exact ⟨_, rfl, h⟩
    | array hostname rest => exact ⟨_, rfl, .present hostname⟩

theorem readNode_eq_some_iff_parts? {v : Toml} {n : Node} :
    readNode v = some n ↔
      ∃ parts others, parts? Node.attributes v = some parts ∧
        List.Forall₂ (Given .string) parts (some n.kind :: others) ∧
        n.texts = n.kind :: others.map fun text => text.getD "" := by
  rw [readNode, parts?]
  simp only [Option.bind_eq_bind, Option.bind_eq_some_iff, Option.map_eq_some_iff,
    mapM_field?_eq_some_iff]
  constructor
  · rintro ⟨fields, hfields, _, ⟨given, hgiven, rfl⟩, hn⟩
    have hlength : given.length = Node.attributes.length := by
      rw [← hgiven.length_eq, List.length_map]
    obtain ⟨others, rfl, htexts⟩ := (Node.ofTexts?_given_eq_some_iff hlength).mp hn
    exact ⟨_, others, ⟨fields, hfields, rfl⟩, hgiven, htexts⟩
  · rintro ⟨_, others, ⟨fields, hfields, rfl⟩, hgiven, htexts⟩
    have hlength : (some n.kind :: others).length = Node.attributes.length := by
      rw [← hgiven.length_eq, List.length_map]
    exact ⟨fields, hfields, _, ⟨_, hgiven, rfl⟩,
      (Node.ofTexts?_given_eq_some_iff hlength).mpr ⟨others, rfl, htexts⟩⟩

theorem readNode_eq_some_iff {v : Toml} (hmoment : ∀ s, v ≠ .moment s) {n : Node} :
    readNode v = some n ↔ StatesNode v n := by
  have hspells {parts : List (Option Toml)} : Spells Node.attributes v parts ↔ _ :=
    spells_iff Node.nodup_attributes hmoment
  rw [readNode_eq_some_iff_parts?]
  constructor
  · rintro ⟨parts, others, hparts, hgiven, htexts⟩
    exact .record (hspells.mpr hparts) hgiven htexts
  · rintro ⟨hv, hgiven, htexts⟩
    exact ⟨_, _, hspells.mp hv, hgiven, htexts⟩

/-- A list is read item by item. -/
theorem mapM_readNode_eq_some_iff {items : List Toml} (hmoment : ∀ s, Toml.moment s ∉ items)
    {nodes : List Node} :
    items.mapM readNode = some nodes ↔ List.Forall₂ StatesNode items nodes := by
  induction items generalizing nodes with
  | nil =>
    rw [List.forall₂_nil_left_iff]
    exact Option.some_inj.trans eq_comm
  | cons v items ih =>
    have hv : ∀ s, v ≠ .moment s := fun s h => hmoment s (h ▸ List.mem_cons_self)
    have hitems : ∀ s, Toml.moment s ∉ items := fun s h => hmoment s (List.mem_cons_of_mem v h)
    rw [List.mapM_cons, List.forall₂_cons_left_iff]
    simp only [Option.bind_eq_bind, Option.bind_eq_some_iff, Option.pure_def, Option.some.injEq,
      readNode_eq_some_iff hv, ih hitems]
    constructor
    · rintro ⟨n, hn, nodes, hnodes, rfl⟩
      exact ⟨n, nodes, hn, hnodes, rfl⟩
    · rintro ⟨n, nodes, hn, hnodes, rfl⟩
      exact ⟨n, hn, nodes, hnodes, rfl⟩

theorem readNodes_eq_some_iff {v : Option Toml}
    (hmoment : ∀ items, v = some (.array items) → ∀ s, Toml.moment s ∉ items)
    {nodes : List Node} : readNodes v = some nodes ↔ StatesNodes v nodes := by
  rcases v with _ | v
  · constructor
    · intro h
      cases h
      exact .absent
    · rintro ⟨⟩
      rfl
  · cases v with
    | array items =>
      have hitems : items.mapM readNode = some nodes ↔ _ :=
        mapM_readNode_eq_some_iff (hmoment items rfl)
      constructor
      · exact fun h => .array (hitems.mp h)
      · intro h
        cases h with
        | array h => exact hitems.mpr h
    | string | integer | float | boolean | moment | table => exact iff_of_false nofun nofun

/-- **What is written in a document is what its entries say.** -/
theorem ofToml?_eq_some_iff_states {entries : List (String × Toml)} (h : Momentless entries)
    {w : Written} : ofToml? (.table entries) = some w ↔ States entries w := by
  rw [ofToml?_table_eq_some_iff, readLogging_eq_some_iff h.logging, readHost_eq_some_iff h.host,
    readNodes_eq_some_iff h.nodes]
  exact ⟨fun ⟨hlogging, hhost, hnodes⟩ => ⟨hlogging, hhost, hnodes⟩,
    fun ⟨hlogging, hhost, hnodes⟩ => ⟨hlogging, hhost, hnodes⟩⟩

end Settings

end TrafficGraph
