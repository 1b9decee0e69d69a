import TrafficGraph.Proofs.Action.WellFormed
import TrafficGraph.Proofs.Session.Effect

/-!
# Sessions hold well-formed actions

Every action of a session was made by a constructor or copied from one that was, and
giving it a key does not touch its payload. So what the constructors guarantee of a
payload (`TrafficGraph.Payload.WellFormed`) holds of every action that is there,
after any steps and over any resolver.
-/

namespace TrafficGraph

namespace Session

/-- **Every action there is, is well formed.** -/
def WellFormed (s : Session) : Prop :=
  ∀ h : Held, some h ∈ s.slots → h.action.payload.WellFormed

theorem wellFormed_empty : empty.WellFormed := by
  intro h hh
  cases hh

/-- Whatever a step makes is well formed. -/
theorem wellFormed_of_made {r : Resolver} {x : Step} {y : Logged Action} {a : Action}
    (hx : x.made? r = some y) (ha : y.outcome = .ok a) : a.payload.WellFormed := by
  cases x with
  | make q =>
    obtain rfl : q.build r = y := Option.some.inj hx
    exact Request.wellFormed_of_payload (Request.build_eq_ok_iff.mp ha).1
  | build v =>
    rw [Step.made?] at hx
    split at hx
    · obtain rfl := Option.some.inj hx
      obtain ⟨k, -, hq⟩ := Node.build_eq_ok_iff.mp ha
      exact Request.wellFormed_of_payload (Request.build_eq_ok_iff.mp hq).1
    · cases hx
  | setKey | view | copy | drop | compare | samePool | share => cases hx

/-- Filling a place with an action that is well formed keeps a session well formed,
and so does emptying it. -/
theorem WellFormed.set {s : Session} (hs : s.WellFormed) {i : Nat} {x : Option Held}
    (hx : ∀ h, x = some h → h.action.payload.WellFormed) (references : List Nat) :
    WellFormed { s with slots := s.slots.set i x, references := references } := by
  intro h hh
  rcases List.mem_or_eq_of_mem_set hh with hh | hh
  · exact hs h hh
  · exact hx h hh.symm

/-- **One step keeps a session well formed.** -/
theorem WellFormed.effect {r : Resolver} {s s' : Session} {x : Step} {a : Answer}
    (hs : s.WellFormed) (he : Effect r s x s' a) : s'.WellFormed := by
  cases he with
  | made hx ha =>
    intro h hh
    rcases mem_slots_insert hh with hh | rfl
    · exact hs h hh
    · exact wellFormed_of_made hx ha
  | keyed hi =>
    -- the key is no part of the payload
    have hwf := hs _ (mem_slots_of_held? hi)
    refine hs.set (fun h hh => ?_) s.references
    cases hh
    exact hwf
  | copied hi =>
    intro h hh
    rcases List.mem_append.mp hh with hh | hh
    · exact hs h hh
    · cases List.mem_singleton.mp hh
      exact hs _ (mem_slots_of_held? hi)
  | dropped hi => exact hs.set (fun h hh => by cases hh) _
  | shared | unshared | asked | missing | faulty | misshapen => exact hs

/-- **Every action of a session is well formed**, whatever the steps that led to it
and whatever the resolver answers: the port of a start is a port number, its peers
are there and can be talked to on a port, its proxy can be talked to, and the peers
of a transfer's own pool can be talked to on a port. -/
theorem wellFormed_of_held_after {r : Resolver} {steps : List Step} {i : Nat} {h : Held}
    (hh : (empty.after r steps).held? i = some h) : h.action.payload.WellFormed := by
  have hrun : (empty.after r steps).WellFormed :=
    after_induction (fun s x hs => hs.effect (effect_step r s x)) wellFormed_empty steps
  exact hrun h (mem_slots_of_held? hh)

/-- A start is made from a list that names this host and a peer without a port, is
copied under a key, and outlives the action it was copied from: what is left in its
pool can be talked to. The proxy has no port. -/
theorem wellFormed_copied_start :
    let table := ((HostTable.empty (some "me")).add "relay" ⟨10, 0, 0, 1⟩).add "void" .none
    let steps : List Step :=
      [.make (.start "1" "80" "relay:7,me:9,relay:0" "relay:0"),
        .make (.start "1" "80" "void:7" ""), .setKey 0 9, .copy 0, .drop 0]
    let start : Start :=
      ⟨1, 80, some ⟨⟨10, 0, 0, 1⟩, 0⟩, ⟨[⟨⟨10, 0, 0, 1⟩, 7⟩]⟩⟩
    (empty.after table.resolver steps).held? 1 = some ⟨⟨.start start, some 9⟩, some 0⟩ ∧
      (Payload.start start).WellFormed := by
  intro table steps start
  have hheld : (empty.after table.resolver steps).held? 1 =
      some ⟨⟨.start start, some 9⟩, some 0⟩ := by
    dsimp only [table, steps, start]
    rfl
  exact ⟨hheld, wellFormed_of_held_after hheld⟩

end Session

end TrafficGraph
