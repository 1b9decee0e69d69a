import TrafficGraph.Session

/-!
# What a step of a session can do

A session has nine steps, and most of what they do is guarded: an action must be
there, an action must come out of its texts. `TrafficGraph.Session.Effect` lists what
can happen, guard by guard, as a relation between a step, the session it leaves and
its answer; `TrafficGraph.Session.effect_step` says that every step is in the list.
Whatever is proved about sessions is proved from the list, and never from the
definition of a step.

What a whole run keeps follows from what one step keeps by
`TrafficGraph.Session.after_induction`, once for all invariants.
-/

namespace TrafficGraph

namespace Session

/-! ### Making an action -/

/-- What the texts of a step make; a step without texts makes nothing, and neither
does a JSON value that is no node. -/
def Step.made? (r : Resolver) : Step → Option (Logged Action)
  | .make q => some (q.build r)
  | .build v =>
    match Node.ofJson v with
    | .ok n => some (n.build r)
    | .error _ => none
  | _ => none

/-- The step only asks for something. -/
def Step.IsQuestion : Step → Prop
  | .view _ | .compare .. | .samePool .. => True
  | _ => False

/-- The numbers of the actions that a step is about. -/
def Step.subjects : Step → List Nat
  | .setKey i _ | .view i | .copy i | .drop i | .share i => [i]
  | .compare a b | .samePool a b => [a, b]
  | .make _ | .build _ => []

/-! ### What an answer says -/

/-- The number that is given to a new action. -/
def Answer.given? : Answer → Option Nat
  | .made i _ | .copied i => some i
  | _ => none

/-- The answer tells what is there. -/
def Answer.IsReading : Answer → Prop
  | .view _ | .compared .. | .samePool _ => True
  | _ => False

/-- The answer says that the step was not possible. -/
def Answer.IsFault : Answer → Prop
  | .fault _ | .shapeFault _ | .noAction _ => True
  | _ => False

/-! ### The list of effects -/

/-- **What a step can do to a session, and what it answers.** -/
inductive Effect (r : Resolver) (s : Session) : Step → Session → Answer → Prop
  /-- An action is made and added. -/
  | made {x : Step} {y : Logged Action} {a : Action} :
      x.made? r = some y → y.outcome = .ok a →
        Effect r s x (s.insert a) (.made s.slots.length a)
  /-- The texts make no action. -/
  | faulty {x : Step} {y : Logged Action} {f : Fault} :
      x.made? r = some y → y.outcome = .error f → Effect r s x s (.fault f)
  /-- The JSON value is no node. -/
  | misshapen {v : Json} {f : ShapeFault} :
      Node.ofJson v = .error f → Effect r s (.build v) s (.shapeFault f)
  /-- An action that is there gets a key. -/
  | keyed {i key : Nat} {h : Held} :
      s.held? i = some h →
        Effect r s (.setKey i key)
          { s with slots := s.slots.set i (some { h with action := h.action.withKey key }) }
          (.view (h.action.withKey key))
  /-- An action that is there is copied, and so is the reference to its pool. -/
  | copied {i : Nat} {h : Held} :
      s.held? i = some h →
        Effect r s (.copy i)
          { s with
            slots := s.slots ++ [some h]
            references := recount s.references (· + 1) h.pool }
          (.copied s.slots.length)
  /-- An action that is there is dropped, and so is the reference to its pool. -/
  | dropped {i : Nat} {h : Held} :
      s.held? i = some h →
        Effect r s (.drop i)
          { s with
            slots := s.slots.set i none
            references := recount s.references (· - 1) h.pool }
          .done
  /-- The pool of an action that is there is shared. -/
  | shared {i pool : Nat} {h : Held} :
      s.held? i = some h → h.pool = some pool →
        Effect r s (.share i)
          { s with
            shared := s.shared ++ [pool]
            references := recount s.references (· + 1) h.pool }
          (.shared (some s.shared.length))
  /-- An action that is there has no pool to share. -/
  | unshared {i : Nat} {h : Held} :
      s.held? i = some h → h.pool = none → Effect r s (.share i) s (.shared none)
  /-- A question is answered. -/
  | asked {x : Step} {a : Answer} : x.IsQuestion → a.IsReading → Effect r s x s a
  /-- The step is about an action that is not there. -/
  | missing {x : Step} {i : Nat} :
      i ∈ x.subjects → s.held? i = none → Effect r s x s (.noAction i)

variable {r : Resolver} {s : Session}

theorem effect_insertLogged {x : Step} {y : Logged Action} (hx : x.made? r = some y) :
    Effect r s x (s.insertLogged y).session (s.insertLogged y).answer := by
  rw [insertLogged]
  split
  · exact .made hx ‹_›
  · exact .faulty hx ‹_›

/-- A step about one action has the effect it has on an action that is there. -/
theorem effect_withAction {x : Step} {i : Nat} {reply : Held → Session × Answer}
    (hi : i ∈ x.subjects)
    (hreply : ∀ h, s.held? i = some h → Effect r s x (reply h).1 (reply h).2) :
    Effect r s x (s.withAction i reply).session (s.withAction i reply).answer := by
  rw [withAction]
  split
  · exact hreply _ ‹_›
  · exact .missing hi ‹_›

/-- **Every step does something in the list.** -/
theorem effect_step (r : Resolver) (s : Session) (x : Step) :
    Effect r s x (s.step r x).session (s.step r x).answer := by
  cases x with
  | make q => exact effect_insertLogged rfl
  | build v =>
    rw [step]
    split
    · rename_i n hn
      exact effect_insertLogged (by rw [Step.made?, hn])
    · rename_i f hf
      exact .misshapen hf
  | setKey i key => exact effect_withAction (.head _) fun _ hh => .keyed hh
  | view i => exact effect_withAction (.head _) fun _ _ => .asked trivial trivial
  | copy i => exact effect_withAction (.head _) fun _ hh => .copied hh
  | drop i => exact effect_withAction (.head _) fun _ hh => .dropped hh
  | compare a b =>
    rw [step]
    split
    · exact .missing (.head _) ‹_›
    · exact effect_withAction (.tail _ (.head _)) fun _ _ => .asked trivial trivial
  | samePool a b =>
    rw [step]
    split
    · exact .missing (.head _) ‹_›
    · exact effect_withAction (.tail _ (.head _)) fun _ _ => .asked trivial trivial
  | share i =>
    refine effect_withAction (.head _) fun ⟨x, pool?⟩ hh => ?_
    cases pool? with
    | none => exact .unshared hh rfl
    | some pool => exact .shared hh rfl

/-! ### Runs -/

/-- **An invariant of the steps is one of the runs.** -/
theorem after_induction {motive : Session → Prop}
    (hstep : ∀ s x, motive s → motive (s.step r x).session) (hs : motive s)
    (steps : List Step) : motive (s.after r steps) := by
  induction steps generalizing s with
  | nil => exact hs
  | cons x steps ih => exact ih (hstep s x hs)

/-! ### The actions there are -/

/-- An action that is there stands in its place. -/
theorem getElem?_of_held? {i : Nat} {h : Held} (hh : s.held? i = some h) :
    s.slots[i]? = some (some h) := by
  rw [held?] at hh
  exact Option.join_eq_some_iff.mp hh

theorem mem_slots_of_held? {i : Nat} {h : Held} (hh : s.held? i = some h) : some h ∈ s.slots :=
  List.mem_of_getElem? (getElem?_of_held? hh)

theorem held?_eq_none_of_le {i : Nat} (hi : s.slots.length ≤ i) : s.held? i = none := by
  rw [held?, List.getElem?_eq_none hi]
  rfl

theorem lt_length_of_held? {i : Nat} {h : Held} (hh : s.held? i = some h) :
    i < s.slots.length := by
  rcases Nat.lt_or_ge i s.slots.length with hi | hi
  · exact hi
  · rw [held?_eq_none_of_le hi] at hh
    cases hh

/-- Filling a place or emptying it reaches the action of that number only. -/
theorem held?_set {s' : Session} {x : Option Held} {i j : Nat} (hs : s'.slots = s.slots.set j x)
    (hj : j < s.slots.length) : s'.held? i = if j = i then x else s.held? i := by
  rw [held?, held?, hs]
  split
  · subst_vars
    rw [List.getElem?_set_self hj]
    rfl
  · rw [List.getElem?_set_ne ‹_›]

section Append

variable {s' : Session} {x : Option Held} (hs : s'.slots = s.slots ++ [x])

include hs

/-- A new place at the end is not in the way of the others. -/
theorem held?_append {i : Nat} (hi : i < s.slots.length) : s'.held? i = s.held? i := by
  rw [held?, held?, hs, List.getElem?_append_left hi]

theorem held?_append_length : s'.held? s.slots.length = x := by
  rw [held?, hs, List.getElem?_concat_length]
  rfl

end Append

/-! ### A new action -/

/-- The number of the pool that an action brings along, if it has peers. -/
def newPool? (s : Session) (x : Action) : Option Nat := x.peers?.map fun _ => s.references.length

theorem slots_insert (s : Session) (x : Action) :
    (s.insert x).slots = s.slots ++ [some ⟨x, s.newPool? x⟩] := by
  rw [insert, newPool?]
  cases x.peers? <;> rfl

theorem shared_insert (s : Session) (x : Action) : (s.insert x).shared = s.shared := by
  rw [insert]
  split <;> rfl

theorem references_insert (s : Session) (x : Action) :
    (s.insert x).references = s.references ++ (s.newPool? x).toList.map fun _ => 1 := by
  rw [insert, newPool?]
  cases x.peers? with
  | none => exact (List.append_nil _).symm
  | some => rfl

/-- What is in a session after an action was added. -/
theorem mem_slots_insert {x : Action} {h : Held} (hh : some h ∈ (s.insert x).slots) :
    some h ∈ s.slots ∨ h.action = x := by
  rw [slots_insert, List.mem_append, List.mem_singleton] at hh
  rcases hh with hh | hh
  · exact Or.inl hh
  · cases hh
    exact Or.inr rfl

end Session

end TrafficGraph
