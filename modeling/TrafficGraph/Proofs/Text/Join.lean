import TrafficGraph.Text.Cut

/-!
# Fields of a joined text

Cutting a text at every separator is the splitting of lists of the library
(`TrafficGraph.Text.fieldsList_eq_splitOn`), and so is undone by joining: texts that
hold no separator are the fields of what they are joined to, provided there is one at
all – joining nothing gives the empty text, which has a field. Fields are such texts, and a text
is its fields, joined again.
-/

namespace TrafficGraph

namespace Text

theorem fieldsList_eq_splitOn (sep : Char) (cs : List Char) :
    fieldsList sep cs = cs.splitOn sep := by
  induction cs with
  | nil => rfl
  | cons c cs ih =>
    rw [fieldsList, List.splitOn_cons_eq_if_modifyHead, ih]
    by_cases hc : c = sep
    · rw [if_pos hc, if_pos (beq_iff_eq.mpr hc)]
    · rw [if_neg hc, if_neg (mt beq_iff_eq.mp hc)]
      rcases hf : cs.splitOn sep with _ | ⟨f, fs⟩
      · exact absurd hf (List.splitOn_ne_nil sep cs)
      · rfl

/-- **A separator between two texts separates their fields.** -/
theorem fields_append (sep : Char) (a b : String) :
    fields sep (a ++ String.singleton sep ++ b) = fields sep a ++ fields sep b := by
  have hlist : (a ++ String.singleton sep ++ b).toList = a.toList ++ sep :: b.toList := by
    rw [String.toList_append, String.toList_append, String.toList_singleton, List.append_assoc]
    rfl
  rw [fields, hlist, fieldsList_append, List.map_append]
  rfl

/-- A text without a separator is its only field. -/
theorem fields_of_not_mem {sep : Char} {s : String} (h : sep ∉ s.toList) : fields sep s = [s] := by
  rw [fields, fieldsList_of_not_mem h, List.map_singleton, String.ofList_toList]

theorem not_mem_of_mem_fieldsList {sep : Char} {cs f : List Char} (h : f ∈ fieldsList sep cs) :
    sep ∉ f := by
  induction cs generalizing f with
  | nil =>
    rw [List.mem_singleton.mp h]
    exact List.not_mem_nil
  | cons c cs ih =>
    rw [fieldsList] at h
    split at h
    · rcases List.mem_cons.mp h with rfl | h
      · exact List.not_mem_nil
      · exact ih h
    · rename_i hc
      rcases hfields : fieldsList sep cs with _ | ⟨g, gs⟩
      · exact absurd hfields (fieldsList_ne_nil sep cs)
      · rw [hfields] at h ih
        rcases List.mem_cons.mp h with rfl | h
        · exact fun hsep => (List.mem_cons.mp hsep).elim (fun he => hc he.symm)
            (ih List.mem_cons_self)
        · exact ih (List.mem_cons_of_mem g h)

/-- **No field holds a separator.** -/
theorem not_mem_of_mem_fields {sep : Char} {s t : String} (h : t ∈ fields sep s) :
    sep ∉ t.toList := by
  obtain ⟨f, hf, rfl⟩ := List.mem_map.mp h
  rw [String.toList_ofList]
  exact not_mem_of_mem_fieldsList hf

/-- **Texts without a separator are the fields of their join.** -/
theorem fields_intercalate {sep : Char} {texts : List String} (hne : texts ≠ [])
    (hsep : ∀ t ∈ texts, sep ∉ t.toList) :
    fields sep ((String.singleton sep).intercalate texts) = texts := by
  have hlist : ∀ cs ∈ texts.map String.toList, sep ∉ cs := by
    intro cs hcs
    obtain ⟨t, ht, rfl⟩ := List.mem_map.mp hcs
    exact hsep t ht
  rw [fields, fieldsList_eq_splitOn, String.toList_intercalate, String.toList_singleton,
    List.splitOn_intercalate sep hlist (mt List.map_eq_nil_iff.mp hne), List.map_map]
  refine (List.map_congr_left fun t _ => ?_).trans (List.map_id texts)
  exact String.ofList_toList

/-- **A text is its fields, joined again.** -/
theorem intercalate_fields (sep : Char) (s : String) :
    (String.singleton sep).intercalate (fields sep s) = s := by
  rw [← String.toList_inj, String.toList_intercalate, String.toList_singleton, fields,
    List.map_map, fieldsList_eq_splitOn]
  have hid : String.toList ∘ String.ofList = id := funext fun cs => String.toList_ofList
  rw [hid, List.map_id, List.intercalate_splitOn]

/-- A text is known by its fields. -/
theorem fields_inj {sep : Char} {s t : String} (h : fields sep s = fields sep t) : s = t := by
  rw [← intercalate_fields sep s, h, intercalate_fields]

end Text

end TrafficGraph
