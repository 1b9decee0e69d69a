/-!
# Look-ups by name

Members of an object, entries of a table and attributes by position are all lists of named
values in which a value is looked up by the first of its name. As long as the names are
distinct, the order has no part in this: what is found under a name is what is there
(`TrafficGraph.Text.lookup_eq_some_iff_mem`).
-/

namespace TrafficGraph

namespace Text

variable {α : Type}

/-- **A name has one value**: in a list of distinct names, what is found is what is there. -/
theorem lookup_eq_some_iff_mem {entries : List (String × α)} (h : (entries.map Prod.fst).Nodup)
    {name : String} {a : α} : entries.lookup name = some a ↔ (name, a) ∈ entries := by
  rw [List.lookup_eq_some_iff]
  constructor
  · rintro ⟨before, after, rfl, -⟩
    exact List.mem_append_right _ List.mem_cons_self
  · intro hmem
    obtain ⟨before, after, rfl⟩ := List.append_of_mem hmem
    refine ⟨before, after, rfl, fun p hp => bne_iff_ne.mpr ?_⟩
    rintro rfl
    rw [List.map_append, List.map_cons, List.nodup_append] at h
    exact h.2.2 p.1 (List.mem_map_of_mem hp) p.1 List.mem_cons_self rfl

theorem lookup_eq_none_iff_not_mem {entries : List (String × α)} {name : String} :
    entries.lookup name = none ↔ ∀ a, (name, a) ∉ entries := by
  rw [List.lookup_eq_none_iff]
  constructor
  · intro h a hmem
    exact bne_iff_ne.mp (h _ hmem) rfl
  · intro h p hp
    refine bne_iff_ne.mpr ?_
    rintro rfl
    exact h p.2 hp

/-- The order of distinct names does not matter to the look-up. -/
theorem lookup_eq_of_perm {entries entries' : List (String × α)} (hp : entries.Perm entries')
    (h : (entries.map Prod.fst).Nodup) (name : String) :
    entries.lookup name = entries'.lookup name := by
  refine Option.ext fun a => ?_
  rw [lookup_eq_some_iff_mem h, lookup_eq_some_iff_mem ((hp.map Prod.fst).nodup h), hp.mem_iff]

/-- An entry of another name is not in the way. -/
theorem lookup_append_cons_of_ne (before after : List (String × α)) {name other : String} {a : α}
    (h : name ≠ other) :
    (before ++ (other, a) :: after).lookup name = (before ++ after).lookup name := by
  rw [List.lookup_append, List.lookup_append, List.lookup_cons, beq_false_of_ne h]

/-- **Names by position**: among distinct names, each is given the item of its place, if there is
one. -/
theorem map_lookup_zip_eq_mapIdx {names : List String} (h : names.Nodup) (items : List α) :
    (names.map fun name => (names.zip items).lookup name) = names.mapIdx fun i _ => items[i]? := by
  induction names generalizing items with
  | nil => rfl
  | cons name names ih =>
    obtain ⟨hname, hnames⟩ := List.nodup_cons.mp h
    rw [List.map_cons, List.mapIdx_cons]
    cases items with
    | nil =>
      have hrest := ih hnames []
      rw [List.zip_nil_right] at hrest ⊢
      exact congrArg (none :: ·) hrest
    | cons a items =>
      rw [List.zip_cons_cons, List.lookup_cons_self]
      refine congrArg (some a :: ·) ((List.map_congr_left fun other hother => ?_).trans
        (ih hnames items))
      have hne : other ≠ name := fun he => hname (he ▸ hother)
      exact lookup_append_cons_of_ne [] _ hne

/-- If there are no more items than names, the first names are given the items in order, and those
beyond the items are given none. -/
theorem map_lookup_zip {names : List String} (h : names.Nodup) {items : List α}
    (hle : items.length ≤ names.length) :
    names.map (fun name => (names.zip items).lookup name) =
      items.map some ++ List.replicate (names.length - items.length) none := by
  rw [map_lookup_zip_eq_mapIdx h]
  refine List.ext_getElem? fun i => ?_
  rw [List.getElem?_mapIdx]
  rcases Nat.lt_or_ge i items.length with hi | hi
  · rw [List.getElem?_append_left (by rwa [List.length_map]), List.getElem?_map,
      List.getElem?_eq_getElem (Nat.lt_of_lt_of_le hi hle), List.getElem?_eq_getElem hi]
    rfl
  · rw [List.getElem?_append_right (by rwa [List.length_map]), List.length_map,
      List.getElem?_replicate, List.getElem?_eq_none hi]
    rcases Nat.lt_or_ge i names.length with hn | hn
    · rw [List.getElem?_eq_getElem hn, if_pos (by omega)]
      rfl
    · rw [List.getElem?_eq_none hn, if_neg (by omega)]
      rfl

/-- A text is the name of something in a list if and only if it is found there by its name. -/
theorem mem_map_iff_exists_find? (all : List α) (name : α → String) {text : String} :
    text ∈ all.map name ↔ ∃ a, (all.find? fun a => name a == text) = some a := by
  rw [← Option.isSome_iff_exists, List.find?_isSome, List.mem_map]
  simp only [beq_iff_eq]

end Text

end TrafficGraph
