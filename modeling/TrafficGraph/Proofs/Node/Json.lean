import TrafficGraph.Node.Json
import TrafficGraph.Proofs.Text.Lookup

/-!
# Which JSON values are nodes

A node can be given by the names of its attributes or by their order, and in both ways most
of them may be left out. This module says which values are nodes
(`TrafficGraph.Json.IsRecord`) and which node each of them is
(`TrafficGraph.Node.ReadFrom`), without the order in which faults are looked for.

The names of a JSON object are distinct, so that a name has one value whatever the order of
the members (`TrafficGraph.Json.MembersDistinct`); the look-up finds it wherever it stands.
The main statement is `TrafficGraph.Node.ofJson_reads_record`: besides the two things above it
lists what can be done to a value without any effect on the action that is built from it.
-/

namespace TrafficGraph

/-! ### Shapes -/

namespace Json

/-- The names of an object are distinct; other values have none. -/
def MembersDistinct : Json → Prop
  | object members => (members.map Prod.fst).Nodup
  | _ => True

/-- **A value that is a node**: an object with a kind in which every attribute that is given
is a string, or an array of one to nine strings. -/
inductive IsRecord : Json → Prop
  /-- By name. -/
  | object {members : List (String × Json)} {kind : String} :
    ("kind", string kind) ∈ members →
      (∀ name ∈ Node.attributes, ∀ v, (name, v) ∈ members → ∃ text, v = string text) →
        IsRecord (object members)
  /-- By position. -/
  | array {items : List Json} {texts : List String} :
    items = texts.map string → 1 ≤ texts.length → texts.length ≤ Node.attributes.length →
      IsRecord (array items)

theorem misfit?_eq_none_iff {v : Json} : v.misfit? = none ↔ ∃ text, v = string text := by
  cases v with
  | string s => exact iff_of_true rfl ⟨s, rfl⟩
  | null | boolean | integer | fraction | array | object => exact iff_of_false nofun nofun

theorem text?_eq_some_iff {v : Json} {text : String} : v.text? = some text ↔ v = string text := by
  cases v with
  | string s => rw [text?, Option.some_inj, string.injEq]
  | null | boolean | integer | fraction | array | object => exact iff_of_false nofun nofun

end Json

namespace Node

/-- The texts of a node in the order of the attributes. -/
def texts (n : Node) : List String :=
  [n.kind, n.time, n.serverport, n.peers, n.socksproxy, n.count, n.size, n.direction, n.protocol]

/-- **The node that a value is**: each text is the member of its name or the item of its
place, and empty where there is none. -/
inductive ReadFrom (n : Node) : Json → Prop
  /-- By name. -/
  | object {members : List (String × Json)} :
    (∀ field ∈ attributes.zip n.texts, (field.1, .string field.2) ∈ members ∨
      (field.2 = "" ∧ ∀ v, (field.1, v) ∉ members)) → ReadFrom n (.object members)
  /-- By position. -/
  | array {items : List Json} {texts : List String} {missing : Nat} :
    items = texts.map .string → n.texts = texts ++ List.replicate missing "" →
      ReadFrom n (.array items)

/-! ### From texts by name -/

theorem length_texts (n : Node) : attributes.length = n.texts.length := rfl

/-- Texts are those of their names if each of them is that of its own. -/
theorem eq_map_iff_forall_zip {names texts : List String} (h : names.length = texts.length)
    {f : String → String} :
    texts = names.map f ↔ ∀ field ∈ names.zip texts, field.2 = f field.1 := by
  induction names generalizing texts with
  | nil =>
    obtain rfl := List.eq_nil_of_length_eq_zero h.symm
    exact iff_of_true rfl nofun
  | cons name names ih =>
    cases texts with
    | nil => cases h
    | cons text texts =>
      rw [List.map_cons, List.cons.injEq, List.zip_cons_cons, List.forall_mem_cons,
        ih (Nat.succ.inj h)]

theorem nodup_attributes : attributes.Nodup := by decide

theorem mem_attributesSorted_iff {name : String} :
    name ∈ attributesSorted ↔ name ∈ attributes := by
  have hperm : attributesSorted.Perm attributes := by decide
  exact hperm.mem_iff

theorem texts_inj {m n : Node} : m.texts = n.texts ↔ m = n := by
  refine ⟨fun h => ?_, congrArg texts⟩
  cases m
  cases n
  simpa only [texts, List.cons.injEq, and_true, Node.mk.injEq] using h

/-- **A node is made of the texts that are given**, if a kind is given. -/
theorem ofTexts?_eq_some_iff {f : String → Option String} {n : Node} :
    ofTexts? f = some n ↔
      f "kind" = some n.kind ∧ n.texts = attributes.map fun name => (f name).getD "" := by
  rw [ofTexts?]
  cases hkind : f "kind" with
  | none => exact iff_of_false nofun nofun
  | some kind =>
    rw [Option.map_some, Option.some_inj, Option.some_inj, ← texts_inj, eq_comm (b := n.texts)]
    have hgetD : (f "kind").getD "" = kind := by rw [hkind, Option.getD_some]
    constructor
    · intro h
      refine ⟨(List.cons.inj h).1.symm, ?_⟩
      rw [h, texts, attributes, List.map_cons, hgetD]
      rfl
    · rintro ⟨-, h⟩
      rw [h, texts, attributes, List.map_cons, hgetD]
      rfl

theorem exists_ofTexts?_eq_some {f : String → Option String} {kind : String}
    (h : f "kind" = some kind) : ∃ n, ofTexts? f = some n := by
  rw [ofTexts?, h]
  exact ⟨_, rfl⟩

/-- Nothing but the kind and the texts that are not empty has a part in it. -/
theorem ofTexts?_congr {f g : String → Option String} (hkind : f "kind" = g "kind")
    (h : ∀ name ∈ attributes, (f name).getD "" = (g name).getD "") : ofTexts? f = ofTexts? g := by
  refine Option.ext fun n => ?_
  rw [ofTexts?_eq_some_iff, ofTexts?_eq_some_iff, hkind, List.map_congr_left h]

/-! ### By name -/

section Members

variable {members members' : List (String × Json)}

/-- No fault is found if every attribute that is given is a string. -/
theorem findSome?_misfit?_eq_none_iff :
    (attributesSorted.findSome? fun name => (members.lookup name).bind Json.misfit?) = none ↔
      ∀ name ∈ attributes, ∀ v, members.lookup name = some v → ∃ text, v = .string text := by
  simp only [List.findSome?_eq_none_iff, mem_attributesSorted_iff, Option.bind_eq_none_iff,
    Json.misfit?_eq_none_iff]

theorem memberText?_eq_some_iff {name text : String} :
    memberText? members name = some text ↔ members.lookup name = some (.string text) := by
  rw [memberText?, Option.bind_eq_some_iff]
  constructor
  · rintro ⟨v, hv, htext⟩
    rw [hv, Json.text?_eq_some_iff.mp htext]
  · exact fun h => ⟨_, h, rfl⟩

/-- **When an object is a node**: every attribute that is given is a string, and the kind is
given. -/
theorem ofMembers_eq_ok_iff {n : Node} :
    ofMembers members = .ok n ↔
      (∀ name ∈ attributes, ∀ v, members.lookup name = some v → ∃ text, v = .string text) ∧
        ofTexts? (memberText? members) = some n := by
  rw [← findSome?_misfit?_eq_none_iff, ofMembers]
  cases attributesSorted.findSome? fun name => (members.lookup name).bind Json.misfit? with
  | some fault => exact iff_of_false nofun nofun
  | none =>
    refine Iff.trans ?_ (and_iff_right rfl).symm
    cases ofTexts? (memberText? members) with
    | none => exact iff_of_false nofun nofun
    | some m => rw [Except.ok.injEq, Option.some_inj]

/-- The text of an attribute is what is there, or empty where nothing is there. -/
theorem eq_getD_memberText?_iff (hdistinct : (members.map Prod.fst).Nodup) {name text : String}
    (hstring : ∀ v, (name, v) ∈ members → ∃ text, v = .string text) :
    text = (memberText? members name).getD "" ↔
      (name, .string text) ∈ members ∨ (text = "" ∧ ∀ v, (name, v) ∉ members) := by
  rw [← Text.lookup_eq_some_iff_mem hdistinct, ← Text.lookup_eq_none_iff_not_mem, memberText?]
  cases hv : members.lookup name with
  | none =>
    refine ⟨fun h => Or.inr ⟨h, rfl⟩, fun h => ?_⟩
    obtain h | ⟨h, -⟩ := h
    · cases h
    · exact h
  | some v =>
    obtain ⟨given, rfl⟩ := hstring v ((Text.lookup_eq_some_iff_mem hdistinct).mp hv)
    refine ⟨fun h => Or.inl (congrArg (fun s => some (Json.string s)) h.symm), fun h => ?_⟩
    obtain h | ⟨-, h⟩ := h
    · exact (Json.string.inj (Option.some.inj h)).symm
    · cases h

/-- **Which objects are nodes, and which nodes they are.** -/
theorem ofMembers_eq_ok_iff_readFrom (hdistinct : (members.map Prod.fst).Nodup) {n : Node} :
    ofMembers members = .ok n ↔ (Json.object members).IsRecord ∧ n.ReadFrom (.object members) := by
  have hkind {kind : String} :
      memberText? members "kind" = some kind ↔ ("kind", .string kind) ∈ members := by
    rw [memberText?_eq_some_iff, Text.lookup_eq_some_iff_mem hdistinct]
  rw [ofMembers_eq_ok_iff, ofTexts?_eq_some_iff, eq_map_iff_forall_zip n.length_texts]
  simp only [Text.lookup_eq_some_iff_mem hdistinct]
  constructor
  · rintro ⟨hstring, hgiven, htexts⟩
    refine ⟨.object (hkind.mp hgiven) hstring, .object fun field hfield => ?_⟩
    exact (eq_getD_memberText?_iff hdistinct (hstring _ (List.of_mem_zip hfield).1)).mp
      (htexts field hfield)
  · rintro ⟨hrecord, hread⟩
    obtain @⟨_, kind, hmem, hstring⟩ := hrecord
    obtain ⟨hfields⟩ := hread
    refine ⟨hstring, hkind.mpr ?_, fun field hfield => ?_⟩
    · obtain h | ⟨-, h⟩ := hfields ("kind", n.kind) List.mem_cons_self
      · exact h
      · exact absurd hmem (h _)
    · exact (eq_getD_memberText?_iff hdistinct (hstring _ (List.of_mem_zip hfield).1)).mpr
        (hfields field hfield)

/-- **What an object is read as depends on its attributes only**: on the faults among them and
on their texts, where no text is as good as an empty one – except for the kind. -/
theorem ofMembers_congr
    (hmisfit : ∀ name ∈ attributes,
      (members.lookup name).bind Json.misfit? = (members'.lookup name).bind Json.misfit?)
    (hkind : memberText? members "kind" = memberText? members' "kind")
    (htext : ∀ name ∈ attributes,
      (memberText? members name).getD "" = (memberText? members' name).getD "") :
    ofMembers members = ofMembers members' := by
  have hfault : (attributesSorted.findSome? fun name => (members.lookup name).bind Json.misfit?) =
      attributesSorted.findSome? fun name => (members'.lookup name).bind Json.misfit? := by
    have hmap : attributesSorted.map (fun name => (members.lookup name).bind Json.misfit?) =
        attributesSorted.map fun name => (members'.lookup name).bind Json.misfit? :=
      List.map_congr_left fun name hname => hmisfit name (mem_attributesSorted_iff.mp hname)
    simpa only [List.findSome?_map, Function.id_comp] using congrArg (List.findSome? id) hmap
  rw [ofMembers, ofMembers, hfault, ofTexts?_congr hkind htext]

/-- Objects with the same attributes are read alike. -/
theorem ofMembers_eq_of_lookup_eq
    (h : ∀ name ∈ attributes, members.lookup name = members'.lookup name) :
    ofMembers members = ofMembers members' := by
  have htext : ∀ name ∈ attributes, memberText? members name = memberText? members' name := by
    intro name hname
    rw [memberText?, memberText?, h name hname]
  exact ofMembers_congr (fun name hname => by rw [h name hname]) (htext "kind" (by decide))
    fun name hname => by rw [htext name hname]

/-- An attribute other than the kind may as well be left out as be empty. -/
theorem ofMembers_append_empty {before after : List (String × Json)} {name : String}
    (hname : name ≠ "kind")
    (h : ((before ++ (name, .string "") :: after).map Prod.fst).Nodup) :
    ofMembers (before ++ (name, .string "") :: after) = ofMembers (before ++ after) := by
  have hgiven : (before ++ (name, .string "") :: after).lookup name = some (.string "") :=
    (Text.lookup_eq_some_iff_mem h).mpr (List.mem_append_right _ List.mem_cons_self)
  have hmissing : (before ++ after).lookup name = none := by
    rw [Text.lookup_eq_none_iff_not_mem]
    intro v hv
    have hperm : (before ++ (name, Json.string "") :: after).Perm
        ((name, .string "") :: (before ++ after)) := List.perm_middle
    have hnodup := List.nodup_cons.mp ((hperm.map Prod.fst).nodup h)
    exact hnodup.1 (List.mem_map.mpr ⟨(name, v), hv, rfl⟩)
  have hother : ∀ other, other ≠ name → (before ++ (name, .string "") :: after).lookup other =
      (before ++ after).lookup other := fun other hne => Text.lookup_append_cons_of_ne _ _ hne
  refine ofMembers_congr (fun other _ => ?_) ?_ fun other _ => ?_
  · by_cases he : other = name
    · rw [he, hgiven, hmissing]
      rfl
    · rw [hother other he]
  · rw [memberText?, memberText?, hother "kind" hname.symm]
  · by_cases he : other = name
    · rw [he, memberText?, memberText?, hgiven, hmissing]
      rfl
    · rw [memberText?, memberText?, hother other he]

end Members

/-! ### By position -/

section Items

theorem exists_eq_map_string {items : List Json} (h : ∀ v ∈ items, ∃ text, v = .string text) :
    ∃ texts : List String, items = texts.map .string := by
  induction items with
  | nil => exact ⟨[], rfl⟩
  | cons v items ih =>
    obtain ⟨⟨text, rfl⟩, hitems⟩ := List.forall_mem_cons.mp h
    obtain ⟨texts, rfl⟩ := ih hitems
    exact ⟨text :: texts, rfl⟩

variable {texts : List String}

/-- The texts by name of an array of strings are its items and then none. -/
theorem map_memberText?_zip (hle : texts.length ≤ attributes.length) :
    attributes.map (memberText? (attributes.zip (texts.map .string))) =
      texts.map some ++ List.replicate (attributes.length - texts.length) none := by
  have hlookup := Text.map_lookup_zip nodup_attributes
    (show (texts.map Json.string).length ≤ attributes.length by rwa [List.length_map])
  have hmap := congrArg (List.map fun v => Option.bind v Json.text?) hlookup
  rw [List.map_map, List.map_append, List.map_map, List.map_map, List.map_replicate,
    List.length_map] at hmap
  exact hmap

/-- Strings by position are the texts of a node in order, the missing ones empty. -/
theorem ofTexts?_zip_eq_some_iff (hle : texts.length ≤ attributes.length) {n : Node} :
    ofTexts? (memberText? (attributes.zip (texts.map .string))) = some n ↔
      texts ≠ [] ∧
        n.texts = texts ++ List.replicate (attributes.length - texts.length) "" := by
  have htexts : attributes.map (fun name =>
      (memberText? (attributes.zip (texts.map .string)) name).getD "") =
        texts ++ List.replicate (attributes.length - texts.length) "" := by
    have hmap := congrArg (List.map fun text => text.getD "") (map_memberText?_zip hle)
    rw [List.map_map, List.map_append, List.map_map, List.map_replicate] at hmap
    have hid : texts.map ((fun text => text.getD "") ∘ some) = texts := List.map_id texts
    rw [hid] at hmap
    exact hmap
  rw [ofTexts?_eq_some_iff, htexts]
  cases texts with
  | nil => exact iff_of_false nofun fun h => h.1 rfl
  | cons kind texts =>
    refine ⟨fun h => ⟨nofun, h.2⟩, fun h => ⟨?_, h.2⟩⟩
    exact congrArg some (List.cons.inj h.2).1.symm

/-- **When an array of strings is a node**: there are as many of them as attributes at most,
and at least one. -/
theorem ofItems_map_string_eq_ok_iff {n : Node} :
    ofItems (texts.map .string) = .ok n ↔
      (1 ≤ texts.length ∧ texts.length ≤ attributes.length) ∧
        n.texts = texts ++ List.replicate (attributes.length - texts.length) "" := by
  have hfault : ((texts.map Json.string).take attributes.length).findSome? Json.misfit? = none := by
    rw [List.findSome?_eq_none_iff]
    intro v hv
    obtain ⟨text, -, rfl⟩ := List.mem_map.mp (List.mem_of_mem_take hv)
    rfl
  rw [ofItems, hfault, List.length_map]
  dsimp only
  split
  · exact iff_of_false nofun fun h => by omega
  · have hle : texts.length ≤ attributes.length := Nat.le_of_not_lt ‹_›
    have hpos : 1 ≤ texts.length ↔ texts ≠ [] := List.length_pos_iff
    rw [and_iff_left hle, hpos, ← ofTexts?_zip_eq_some_iff hle]
    cases ofTexts? (memberText? (attributes.zip (texts.map .string))) with
    | none => exact iff_of_false nofun nofun
    | some m => rw [Except.ok.injEq, Option.some_inj]

/-- An array that is a node holds strings only: no other item is behind the attributes. -/
theorem exists_texts_of_ofItems {items : List Json} {n : Node} (h : ofItems items = .ok n) :
    ∃ texts : List String, items = texts.map .string := by
  rw [ofItems] at h
  split at h
  · cases h
  · rename_i hfault
    split at h
    · cases h
    · rw [List.take_of_length_le (Nat.le_of_not_lt ‹_›), List.findSome?_eq_none_iff] at hfault
      exact exists_eq_map_string fun v hv => Json.misfit?_eq_none_iff.mp (hfault v hv)

theorem map_string_inj {texts texts' : List String} :
    texts.map Json.string = texts'.map Json.string ↔ texts = texts' :=
  List.map_inj_right fun _ _ h => Json.string.inj h

/-- **Which arrays are nodes, and which nodes they are.** -/
theorem ofItems_eq_ok_iff_readFrom {items : List Json} {n : Node} :
    ofItems items = .ok n ↔ (Json.array items).IsRecord ∧ n.ReadFrom (.array items) := by
  constructor
  · intro h
    obtain ⟨texts, rfl⟩ := exists_texts_of_ofItems h
    obtain ⟨⟨hpos, hle⟩, htexts⟩ := ofItems_map_string_eq_ok_iff.mp h
    exact ⟨.array rfl hpos hle, .array rfl htexts⟩
  · rintro ⟨hrecord, hread⟩
    obtain @⟨-, -, -⟩ | @⟨_, texts, hitems, hpos, hle⟩ := hrecord
    obtain @⟨-⟩ | @⟨_, texts', missing, hitems', htexts⟩ := hread
    rw [hitems, map_string_inj] at hitems'
    subst hitems hitems'
    refine ofItems_map_string_eq_ok_iff.mpr ⟨⟨hpos, hle⟩, ?_⟩
    have hmissing : attributes.length = texts.length + missing := by
      rw [n.length_texts, htexts, List.length_append, List.length_replicate]
    rw [htexts, hmissing, Nat.add_sub_cancel_left]

end Items

/-! ### Values -/

/-- **Which values are nodes, and which nodes they are.** -/
theorem ofJson_eq_ok_iff {v : Json} (hv : v.MembersDistinct) {n : Node} :
    ofJson v = .ok n ↔ v.IsRecord ∧ n.ReadFrom v := by
  cases v with
  | object members => exact ofMembers_eq_ok_iff_readFrom hv
  | array items => exact ofItems_eq_ok_iff_readFrom
  | null | boolean | integer | fraction | string => exact iff_of_false nofun nofun

/-- **Every value of the right shape is a node.** -/
theorem exists_ofJson_eq_ok_iff {v : Json} (hv : v.MembersDistinct) :
    (∃ n, ofJson v = .ok n) ↔ v.IsRecord := by
  constructor
  · rintro ⟨n, hn⟩
    exact ((ofJson_eq_ok_iff hv).mp hn).1
  · intro hrecord
    cases hrecord with
    | @object members kind hkind hstring =>
      obtain ⟨n, hn⟩ := exists_ofTexts?_eq_some
        (memberText?_eq_some_iff.mpr ((Text.lookup_eq_some_iff_mem hv).mpr hkind))
      refine ⟨n, ofMembers_eq_ok_iff.mpr ⟨fun name hname w hw => ?_, hn⟩⟩
      exact hstring name hname w ((Text.lookup_eq_some_iff_mem hv).mp hw)
    | @array items texts hitems hpos hle =>
      subst hitems
      have hne : texts ≠ [] := List.length_pos_iff.mp hpos
      obtain ⟨kind, rest, rfl⟩ := List.exists_cons_of_ne_nil hne
      have hkind : memberText? (attributes.zip ((kind :: rest).map .string)) "kind" = some kind :=
        rfl
      obtain ⟨n, hn⟩ := exists_ofTexts?_eq_some hkind
      exact ⟨n, ofItems_map_string_eq_ok_iff.mpr
        ⟨⟨hpos, hle⟩, ((ofTexts?_zip_eq_some_iff hle).mp hn).2⟩⟩

/-- An array that is a node is the same node as the object with the names of its places. -/
theorem ofJson_object_zip {items : List Json} (h : (Json.array items).IsRecord) :
    ofJson (.object (attributes.zip items)) = ofJson (.array items) := by
  obtain ⟨n, hn⟩ := (exists_ofJson_eq_ok_iff (v := .array items) trivial).mpr h
  rw [hn]
  obtain @⟨-, -, -⟩ | @⟨_, texts, rfl, hpos, hle⟩ := h
  have htexts := (ofTexts?_zip_eq_some_iff hle).mpr
    ⟨List.length_pos_iff.mp hpos, (ofItems_map_string_eq_ok_iff.mp hn).2⟩
  refine ofMembers_eq_ok_iff.mpr ⟨fun name _ v hv => ?_, htexts⟩
  obtain ⟨before, after, hzip, -⟩ := List.lookup_eq_some_iff.mp hv
  have hmem : (name, v) ∈ attributes.zip (texts.map Json.string) := by
    rw [hzip]
    exact List.mem_append_right _ List.mem_cons_self
  obtain ⟨text, -, rfl⟩ := List.mem_map.mp (List.of_mem_zip hmem).2
  exact ⟨text, rfl⟩

end Node

/-- The action that a JSON value stands for, and what is logged while it is built; or why the
value is no node. -/
def Json.build (r : Resolver) (v : Json) : Except ShapeFault (Logged Action) :=
  (Node.ofJson v).map (Node.build r)

namespace Node

/-- **Reading nodes from JSON.** A value is a node if and only if it is an object with a kind
in which the attributes that are given are strings, or an array of one to nine strings; and
then it is the node with these texts, empty where none is given. What is built from it does not
change when members of other names are added or removed, when attributes other than the kind
are left out instead of being empty, when members change places, and when an array is written
as an object. -/
theorem ofJson_reads_record :
    (∀ v : Json, v.MembersDistinct → ((∃ n, ofJson v = .ok n) ↔ v.IsRecord)) ∧
      (∀ (v : Json) (n : Node), v.MembersDistinct →
        (ofJson v = .ok n ↔ v.IsRecord ∧ n.ReadFrom v)) ∧
      ∀ r : Resolver,
        (∀ (before after : List (String × Json)) (name : String) (v : Json), name ∉ attributes →
          (Json.object (before ++ (name, v) :: after)).build r =
            (Json.object (before ++ after)).build r) ∧
        (∀ (before after : List (String × Json)) (name : String), name ≠ "kind" →
          (Json.object (before ++ (name, .string "") :: after)).MembersDistinct →
          (Json.object (before ++ (name, .string "") :: after)).build r =
            (Json.object (before ++ after)).build r) ∧
        (∀ members members' : List (String × Json), members.Perm members' →
          (Json.object members).MembersDistinct →
          (Json.object members).build r = (Json.object members').build r) ∧
        ∀ items : List Json, (Json.array items).IsRecord →
          (Json.array items).build r = (Json.object (attributes.zip items)).build r := by
  refine ⟨fun v hv => exists_ofJson_eq_ok_iff hv, fun v n hv => ofJson_eq_ok_iff hv, fun r => ?_⟩
  refine ⟨?_, ?_, ?_, ?_⟩
  · intro before after name v hname
    refine congrArg (Except.map (build r)) (ofMembers_eq_of_lookup_eq fun other hother => ?_)
    exact Text.lookup_append_cons_of_ne _ _ fun he => hname (he ▸ hother)
  · intro before after name hname hdistinct
    exact congrArg (Except.map (build r)) (ofMembers_append_empty hname hdistinct)
  · intro members members' hperm hdistinct
    refine congrArg (Except.map (build r)) (ofMembers_eq_of_lookup_eq fun name _ => ?_)
    exact Text.lookup_eq_of_perm hperm hdistinct name
  · intro items hitems
    exact congrArg (Except.map (build r)) (ofJson_object_zip hitems).symm

/-- A pause with an empty attribute, a member that is none for its capital letter, and the kind
at the end. It is built like the object without the two, like that object with the kind in
front, and like an array. -/
theorem ofJson_reads_record_pause :
    let r := (HostTable.empty none).resolver
    let before : List (String × Json) := [("time", .string "3")]
    let after : List (String × Json) := [("kind", .string "Pause")]
    let full := ("size", Json.string "") :: (before ++ ("Kind", .integer 7) :: after)
    let brief := after ++ before
    let pause : Node := ⟨"Pause", "3", "", "", "", "", "", "", ""⟩
    (Json.object full).MembersDistinct ∧ (Json.object full).IsRecord ∧
      ofJson (.object full) = .ok pause ∧ pause.ReadFrom (.object full) ∧
      (Json.object full).build r = (Json.object brief).build r ∧
      (Json.array [.string "Pause", .string "3"]).IsRecord ∧
      (Json.array [.string "Pause", .string "3"]).build r = (Json.object brief).build r := by
  intro r before after full brief pause
  obtain ⟨hrecord, hread, heffect⟩ := ofJson_reads_record
  obtain ⟨hother, hempty, hperm, harray⟩ := heffect r
  have hdistinct : (Json.object full).MembersDistinct := by
    change (full.map Prod.fst).Nodup
    decide
  have hpause : ofJson (.object full) = .ok pause := rfl
  have hnames : (Json.object (before ++ after)).MembersDistinct := by
    change ((before ++ after).map Prod.fst).Nodup
    decide
  have hbrief : (Json.object full).build r = (Json.object brief).build r :=
    calc (Json.object full).build r
        = (Json.object (before ++ ("Kind", .integer 7) :: after)).build r :=
          hempty [] _ "size" (by decide) hdistinct
      _ = (Json.object (before ++ after)).build r := hother before after "Kind" _ (by decide)
      _ = (Json.object brief).build r := hperm _ brief List.perm_append_comm hnames
  have htexts : [Json.string "Pause", .string "3"] = ["Pause", "3"].map .string := rfl
  have hitems : (Json.array [.string "Pause", .string "3"]).IsRecord :=
    .array htexts (by decide) (by decide)
  exact ⟨hdistinct, (hrecord _ hdistinct).mp ⟨pause, hpause⟩, hpause,
    ((hread _ pause hdistinct).mp hpause).2, hbrief, hitems, harray _ hitems⟩

end Node

end TrafficGraph
