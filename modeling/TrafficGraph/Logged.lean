import TrafficGraph.Event

/-!
# Computations with a log

Reading a node either gives a value or stops at the first fault, and logs events
on the way. `TrafficGraph.Logged` is both at once: the outcome, and the events in
order, the ones before a fault included. Computations are chained with `bind`:
the second part runs only if the first gave a value, and its events follow.
-/

namespace TrafficGraph

/-- The outcome of a computation together with the events it logged. -/
structure Logged (α : Type) where
  /-- The value computed, or the fault that ended the computation. -/
  outcome : Except Fault α
  /-- What was logged, the earliest event first. -/
  events : List Event

namespace Logged

variable {α β γ : Type}

/-- Gives a value and logs nothing. -/
def value (a : α) : Logged α := ⟨.ok a, []⟩

/-- Stops at a fault and logs nothing. -/
def fail (f : Fault) : Logged α := ⟨.error f, []⟩

/-- Logs one event. -/
def note (e : Event) : Logged Unit := ⟨.ok (), [e]⟩

/-- Runs a computation and then, if it gave a value, the one chosen by it. -/
def andThen (x : Logged α) (f : α → Logged β) : Logged β :=
  match x.outcome with
  | .error e => ⟨.error e, x.events⟩
  | .ok a => ⟨(f a).outcome, x.events ++ (f a).events⟩

instance : Monad Logged where
  pure := value
  bind := andThen

/-- The value if there is one, and a fault otherwise. -/
def orFail (f : Fault) : Option α → Logged α
  | some a => value a
  | none => fail f

/-! ### Laws -/

@[simp] theorem outcome_pure (a : α) : (pure a : Logged α).outcome = .ok a := rfl

@[simp] theorem events_pure (a : α) : (pure a : Logged α).events = [] := rfl

@[simp] theorem outcome_fail (f : Fault) : (fail f : Logged α).outcome = .error f := rfl

@[simp] theorem events_fail (f : Fault) : (fail f : Logged α).events = [] := rfl

@[simp] theorem pure_bind (a : α) (f : α → Logged β) : (pure a >>= f) = f a := rfl

@[simp] theorem fail_bind (e : Fault) (f : α → Logged β) : (fail e >>= f) = fail e := rfl

theorem bind_pure (x : Logged α) : (x >>= pure) = x := by
  obtain ⟨_ | _, es⟩ := x
  · rfl
  · exact congrArg (Logged.mk _) (List.append_nil es)

/-- Chaining is associative, so a computation may be cut into parts anywhere. -/
theorem bind_assoc (x : Logged α) (f : α → Logged β) (g : β → Logged γ) :
    (x >>= f >>= g) = (x >>= fun a => f a >>= g) := by
  obtain ⟨_ | a, es⟩ := x
  · rfl
  · change andThen (andThen _ f) g = andThen _ fun a => andThen (f a) g
    unfold andThen
    rcases h : f a with ⟨_ | b, fs⟩ <;> simp [h]

instance : LawfulMonad Logged :=
  LawfulMonad.mk' Logged bind_pure (fun _ _ => rfl) bind_assoc

/-- **A value of a chain** is a value of its second part at a value of its first. -/
theorem outcome_bind_eq_ok_iff {x : Logged α} {f : α → Logged β} {b : β} :
    (x >>= f).outcome = .ok b ↔ ∃ a, x.outcome = .ok a ∧ (f a).outcome = .ok b := by
  obtain ⟨_ | a, es⟩ := x
  · change Except.error _ = Except.ok b ↔ _
    simp
  · change (f a).outcome = .ok b ↔ _
    simp

/-- **A fault of a chain** is one of its first part, or of its second part at a
value of the first. -/
theorem outcome_bind_eq_error_iff {x : Logged α} {f : α → Logged β} {e : Fault} :
    (x >>= f).outcome = .error e ↔
      x.outcome = .error e ∨ ∃ a, x.outcome = .ok a ∧ (f a).outcome = .error e := by
  obtain ⟨_ | a, es⟩ := x
  · change Except.error _ = Except.error e ↔ _
    simp
  · change (f a).outcome = .error e ↔ _
    simp

theorem events_note_bind (e : Event) (f : Unit → Logged α) :
    (note e >>= f).events = e :: (f ()).events := rfl

end Logged

end TrafficGraph
