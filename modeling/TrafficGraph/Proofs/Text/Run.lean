/-!
# Runs of characters of a class

Blanks, digits and the text in front of a separator are taken from a text as far as they go.
Where a run is known from elsewhere – its characters are of the class, and the first one after
it is not – it is the run that is taken, and what follows it is what is left.
-/

namespace TrafficGraph

namespace Text

variable {p : Char → Bool} {cs rest : List Char}

/-- **A run goes as far as its class.** -/
theorem takeWhile_append_of_stop (hcs : ∀ c ∈ cs, p c = true)
    (hrest : ∀ c ∈ rest.head?, p c = false) : (cs ++ rest).takeWhile p = cs := by
  rw [List.takeWhile_append_of_pos hcs]
  rcases rest with _ | ⟨c, rest⟩
  · exact List.append_nil cs
  · have hc : ¬p c = true := by rw [hrest c rfl]; exact Bool.false_ne_true
    rw [List.takeWhile_cons_of_neg hc, List.append_nil]

/-- **What follows a run is left.** -/
theorem dropWhile_append_of_stop (hcs : ∀ c ∈ cs, p c = true)
    (hrest : ∀ c ∈ rest.head?, p c = false) : (cs ++ rest).dropWhile p = rest := by
  rw [List.dropWhile_append_of_pos hcs]
  rcases rest with _ | ⟨c, rest⟩
  · rfl
  · have hc : ¬p c = true := by rw [hrest c rfl]; exact Bool.false_ne_true
    exact List.dropWhile_cons_of_neg hc

/-- The characters of a run are of its class. -/
theorem of_mem_takeWhile {c : Char} (hc : c ∈ cs.takeWhile p) : p c = true := by
  have hall := List.all_takeWhile (p := p) (l := cs)
  exact List.all_eq_true.mp hall c hc

/-- The first character after a run is not of its class. -/
theorem of_head?_dropWhile {c : Char} (hc : c ∈ (cs.dropWhile p).head?) : p c = false := by
  have hnot := List.head?_dropWhile_not p cs
  rw [Option.mem_def.mp hc] at hnot
  exact hnot

end Text

end TrafficGraph
