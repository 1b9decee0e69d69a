import TrafficGraph.Proofs.Reading.Action
import TrafficGraph.Proofs.Session.Effect

/-!
# What an action remembers

An action of a session has a history: a constructor made it, or it was copied from an
action that has one, and since then it may have been given keys. This module says that
an action *is* what its history says, and nothing else has a part in it:

* its payload is that of the action which a constructor made at the root of its chain
  of copies (`TrafficGraph.Session.Root`);
* its key is the one it was given last (`TrafficGraph.Session.lastKey?`), or else the one
  its source had when it was copied.

Both are read off the steps and answers of the run, so a reader of the answers needs no
session to know the actions. What carries the proof is that a number names one action
for ever (`TrafficGraph.Session.held?_effect`): it is given once, and later steps about
other numbers do not reach the action.
-/

namespace TrafficGraph

namespace Session

variable {r : Resolver}

/-! ### Numbers -/

/-- **A number is given once**: the one that a step gives is the number of places there
were, and there is one place more afterwards. -/
theorem length_slots_effect {s s' : Session} {x : Step} {a : Answer} (he : Effect r s x s' a) :
    match a.given? with
    | some i => i = s.slots.length ∧ s'.slots.length = i + 1
    | none => s'.slots.length = s.slots.length := by
  cases he with
  | made hx ha =>
    refine ⟨rfl, ?_⟩
    rw [slots_insert]
    exact List.length_append
  | copied hi => exact ⟨rfl, List.length_append⟩
  | keyed hi | dropped hi => exact List.length_set
  | faulty | misshapen | shared | unshared | missing => rfl
  | @asked x a hx ha =>
    cases a with
    | view | compared | samePool => rfl
    | made | copied | done | shared | fault | shapeFault | noAction => cases ha

/-! ### What a step does to the actions there are -/

/-- The action that a step changes, if there is one: it is given a key or dropped. -/
def Step.target? : Step → Option Nat
  | .setKey i _ | .drop i => some i
  | _ => none

/-- What a step makes of an action. -/
def Step.treat (x : Step) (i : Nat) (h : Held) : Option Held :=
  match x with
  | .setKey j key => if j = i then some { h with action := h.action.withKey key } else some h
  | .drop j => if j = i then none else some h
  | _ => some h

/-- An action that is not the target of a step is left as it is. -/
theorem Step.treat_of_target?_ne {x : Step} {i : Nat} (hx : x.target? ≠ some i) :
    x.treat i = some := by
  funext h
  cases x with
  | setKey j | drop j => exact if_neg fun hji => hx (congrArg some hji)
  | make | build | view | copy | compare | samePool | share => rfl

/-- A step leaves every action alone but its target. -/
theorem held?_effect_of_target?_ne {s s' : Session} {x : Step} {a : Answer}
    (he : Effect r s x s' a) {i : Nat} (hi : i < s.slots.length) (hx : x.target? ≠ some i) :
    s'.held? i = s.held? i := by
  cases he with
  | made => exact held?_append (slots_insert s _) hi
  | copied => exact held?_append rfl hi
  | @keyed j _ _ hj | @dropped j _ hj =>
    rw [held?_set rfl (lt_length_of_held? hj), if_neg fun hji => hx (congrArg some hji)]
  | faulty | misshapen | shared | unshared | asked | missing => rfl

/-- **A step treats every action that is there on its own**: what becomes of it depends
on the step and on nothing else in the session. -/
theorem held?_effect {s s' : Session} {x : Step} {a : Answer} (he : Effect r s x s' a) {i : Nat}
    (hi : i < s.slots.length) : s'.held? i = (s.held? i).bind (x.treat i) := by
  by_cases hx : x.target? = some i
  · -- only a key and a drop have a target, and what is not there is left so
    cases x with
    | setKey j key =>
      cases hx
      cases he with
      | keyed hh => rw [held?_set rfl hi, if_pos rfl, hh, Option.bind_some, Step.treat, if_pos rfl]
      | missing hmem hnone =>
        rw [← List.mem_singleton.mp hmem, hnone]
        rfl
      | made hx | faulty hx | asked hx => cases hx
    | drop j =>
      cases hx
      cases he with
      | dropped hh =>
        rw [held?_set rfl hi, if_pos rfl, hh, Option.bind_some, Step.treat, if_pos rfl]
      | missing hmem hnone =>
        rw [← List.mem_singleton.mp hmem, hnone]
        rfl
      | made hx | faulty hx | asked hx => cases hx
    | make | build | view | copy | compare | samePool | share => cases hx
  · rw [held?_effect_of_target?_ne he hi hx, Step.treat_of_target?_ne hx, Option.bind_fun_some]

/-- The key that a step gives to an action. -/
def Step.keyFor? (i : Nat) : Step → Option Nat
  | .setKey j key => if j = i then some key else none
  | _ => none

/-- The key that an action was given last. -/
def lastKey? (i : Nat) (steps : List Step) : Option Nat := steps.reverse.findSome? (Step.keyFor? i)

theorem lastKey?_cons {i : Nat} {x : Step} {steps : List Step} :
    lastKey? i (x :: steps) = (lastKey? i steps).or (x.keyFor? i) := by
  rw [lastKey?, lastKey?, List.reverse_cons, List.findSome?_append, List.findSome?_singleton]

/-- An action that a step leaves there has its payload and its pool as before, and the
key it was given or else its old one. -/
theorem Step.eq_of_treat {x : Step} {i : Nat} {h h' : Held} (hh : x.treat i h = some h') :
    h' = ⟨⟨h.action.payload, (x.keyFor? i).or h.action.key⟩, h.pool⟩ := by
  cases x with
  | setKey j key =>
    rw [treat] at hh
    rw [keyFor?]
    split at hh
    · rw [if_pos ‹_›]
      exact (Option.some.inj hh).symm
    · rw [if_neg ‹_›]
      exact (Option.some.inj hh).symm
  | drop j =>
    rw [treat] at hh
    split at hh
    · cases hh
    · exact (Option.some.inj hh).symm
  | make | build | view | copy | compare | samePool | share => exact (Option.some.inj hh).symm

/-! ### What a run does to the actions there are -/

theorem length_slots_le_step (s : Session) (x : Step) :
    s.slots.length ≤ (s.step r x).session.slots.length := by
  have hlength := length_slots_effect (effect_step r s x)
  split at hlength <;> omega

/-- A number whose action is gone stays without one. -/
theorem held?_after_eq_none {s : Session} {i : Nat} (hi : i < s.slots.length)
    (hnone : s.held? i = none) (later : List Step) : (s.after r later).held? i = none := by
  refine (after_induction (r := r)
    (motive := fun s => i < s.slots.length ∧ s.held? i = none) ?_ ⟨hi, hnone⟩ later).2
  rintro s x ⟨hi, hnone⟩
  refine ⟨Nat.lt_of_lt_of_le hi (length_slots_le_step s x), ?_⟩
  rw [held?_effect (effect_step r s x) hi, hnone]
  rfl

/-- **An action keeps its payload as long as it is there**, and has the key it was given
last. -/
theorem held?_after {s : Session} {i : Nat} {h h' : Held} {later : List Step}
    (hh : s.held? i = some h) (hh' : (s.after r later).held? i = some h') :
    h' = ⟨⟨h.action.payload, (lastKey? i later).or h.action.key⟩, h.pool⟩ := by
  induction later generalizing s h with
  | nil => exact Option.some.inj (hh'.symm.trans hh)
  | cons x later ih =>
    have hi := lt_length_of_held? hh
    have hstep := held?_effect (effect_step r s x) hi
    rw [hh, Option.bind_some] at hstep
    -- an action that a step drops does not come back, so it would not be there at the end
    rcases hx : x.treat i h with _ | h₁
    · rw [hx] at hstep
      have hnone := held?_after_eq_none (r := r)
        (Nat.lt_of_lt_of_le hi (length_slots_le_step s x)) hstep later
      cases hnone.symm.trans hh'
    · rw [hx] at hstep
      rw [ih hstep hh', Step.eq_of_treat hx, lastKey?_cons, Option.or_assoc]

/-! ### Where actions come from -/

/-- **The payload at the root of a chain of copies**: a constructor made it, and the
action of the given number is copied from what was made, directly or by way of other
copies. -/
inductive Root (r : Resolver) : List Step → Nat → Payload → Prop
  /-- The action was made by a step with texts. -/
  | made {before later : List Step} {x : Step} {y : Logged Action} {a : Action} {i : Nat} :
      x.made? r = some y → y.outcome = .ok a →
        ((empty.after r before).step r x).answer = .made i a →
          Root r (before ++ x :: later) i a.payload
  /-- The action was copied from one with a root. -/
  | copied {before later : List Step} {i j : Nat} {p : Payload} :
      ((empty.after r before).step r (.copy j)).answer = .copied i → Root r before j p →
        Root r (before ++ .copy j :: later) i p

/-- The key of the action that a step copies. -/
def sourceKey? (s : Session) : Step → Option Nat
  | .copy j => (s.held? j).bind fun h => h.action.key
  | _ => none

/-- What is there under a number that was just given. -/
theorem held?_of_given {s s' : Session} {x : Step} {a : Answer} {i : Nat}
    (he : Effect r s x s' a) (hi : a.given? = some i) :
    (∃ y b, x.made? r = some y ∧ y.outcome = .ok b ∧ a = .made i b ∧
        s'.held? i = some ⟨b, s.newPool? b⟩) ∨
      ∃ j h, x = .copy j ∧ a = .copied i ∧ s.held? j = some h ∧ s'.held? i = some h := by
  cases he with
  | @made x y b hx hb =>
    cases hi
    exact Or.inl ⟨y, b, hx, hb, rfl, held?_append_length (slots_insert s b)⟩
  | copied hj =>
    cases hi
    exact Or.inr ⟨_, _, rfl, rfl, hj, held?_append_length rfl⟩
  | @asked x a hx ha =>
    cases a with
    | view | compared | samePool => cases hi
    | made | copied | done | shared | fault | shapeFault | noAction => cases ha
  | keyed | dropped | faulty | misshapen | shared | unshared | missing => cases hi

/-- Every number there is was given by a step. -/
theorem exists_given {s : Session} {i : Nat} {steps : List Step} (hs : s.slots.length ≤ i)
    (hi : i < (s.after r steps).slots.length) :
    ∃ before x later, steps = before ++ x :: later ∧
      ((s.after r before).step r x).answer.given? = some i := by
  induction steps generalizing s with
  | nil => exact absurd hi (Nat.not_lt.mpr hs)
  | cons x steps ih =>
    by_cases hx : i < (s.step r x).session.slots.length
    · have hlength := length_slots_effect (effect_step r s x)
      refine ⟨[], x, steps, rfl, ?_⟩
      rcases hg : (s.step r x).answer.given? with _ | k
      · rw [hg] at hlength
        dsimp only at hlength
        omega
      · rw [hg] at hlength
        dsimp only at hlength
        have hk : k = i := by omega
        rw [after, hg, hk]
    · obtain ⟨before, z, later, rfl, hz⟩ := ih (Nat.not_lt.mp hx) hi
      exact ⟨x :: before, z, later, rfl, hz⟩

/-- What is made has no key. -/
theorem key_of_made {x : Step} {y : Logged Action} {a : Action} (hx : x.made? r = some y)
    (ha : y.outcome = .ok a) : a.key = none := by
  cases x with
  | make q =>
    obtain rfl : q.build r = y := Option.some.inj hx
    exact (Request.build_eq_ok_iff.mp ha).2
  | build v =>
    rw [Step.made?] at hx
    split at hx
    · obtain rfl := Option.some.inj hx
      obtain ⟨k, -, hq⟩ := Node.build_eq_ok_iff.mp ha
      exact (Request.build_eq_ok_iff.mp hq).2
    · cases hx
  | setKey | view | copy | drop | compare | samePool | share => cases hx

/-- The key a new action starts with is that of its source. -/
theorem key_of_given {s s' : Session} {x : Step} {a : Answer} {i : Nat} {h : Held}
    (he : Effect r s x s' a) (hi : a.given? = some i) (hh : s'.held? i = some h) :
    h.action.key = s.sourceKey? x := by
  rcases held?_of_given he hi with ⟨y, b, hx, hb, -, hs'⟩ | ⟨j, hj, rfl, -, hs, hs'⟩
  · obtain rfl := Option.some.inj (hh.symm.trans hs')
    have hsource : s.sourceKey? x = none := by
      cases x with
      | make | build => rfl
      | setKey | view | copy | drop | compare | samePool | share => cases hx
    rw [hsource]
    exact key_of_made hx hb
  · obtain rfl := Option.some.inj (hh.symm.trans hs')
    rw [sourceKey?, hs]
    rfl

/-- **An action that is there was given its number by a step**, and is since then what
that step put there, under the key given last. -/
theorem exists_origin {steps : List Step} {i : Nat} {h : Held}
    (hh : (empty.after r steps).held? i = some h) :
    ∃ before x later h₀, steps = before ++ x :: later ∧
      ((empty.after r before).step r x).answer.given? = some i ∧
      ((empty.after r before).step r x).session.held? i = some h₀ ∧
      h = ⟨⟨h₀.action.payload, (lastKey? i later).or h₀.action.key⟩, h₀.pool⟩ := by
  obtain ⟨before, x, later, rfl, hgiven⟩ := exists_given (Nat.zero_le i) (lt_length_of_held? hh)
  have hnew : ∃ h₀, ((empty.after r before).step r x).session.held? i = some h₀ := by
    rcases held?_of_given (effect_step r _ x) hgiven with
      ⟨_, b, -, -, -, hs⟩ | ⟨_, h₀, -, -, -, hs⟩
    · exact ⟨_, hs⟩
    · exact ⟨_, hs⟩
  obtain ⟨h₀, hh₀⟩ := hnew
  rw [after_append] at hh
  exact ⟨before, x, later, h₀, rfl, hgiven, hh₀, held?_after hh₀ hh⟩

/-- Every action that is there has a root, whose payload it has. -/
theorem root_of_held? (steps : List Step) {i : Nat} {h : Held}
    (hh : (empty.after r steps).held? i = some h) : Root r steps i h.action.payload := by
  -- a source is there before it is copied, so the induction is on the number of steps
  induction hn : steps.length using Nat.strongRecOn generalizing steps i h with
  | ind n ih =>
    obtain ⟨before, x, later, h₀, rfl, hgiven, hh₀, rfl⟩ := exists_origin hh
    rcases held?_of_given (effect_step r _ x) hgiven with
      ⟨y, b, hx, hb, hanswer, hs⟩ | ⟨j, h₁, rfl, hanswer, hsource, hs⟩
    · obtain rfl : h₀ = ⟨b, _⟩ := Option.some.inj (hh₀.symm.trans hs)
      exact Root.made (a := b) hx hb hanswer
    · obtain rfl : h₀ = h₁ := Option.some.inj (hh₀.symm.trans hs)
      have hlt : before.length < n := by
        rw [← hn, List.length_append, List.length_cons]
        omega
      exact Root.copied (p := h₀.action.payload) hanswer (ih _ hlt before hsource rfl)

/-- An action has no other root. -/
theorem payload_of_root {steps : List Step} {i : Nat} {p : Payload} (hp : Root r steps i p)
    {h : Held} (hh : (empty.after r steps).held? i = some h) : h.action.payload = p := by
  induction hp generalizing h with
  | @made before later x y a i hx ha hanswer =>
    rw [after_append] at hh
    rcases held?_of_given (effect_step r _ x) (by rw [hanswer]; rfl) with
      ⟨_, b, -, -, hmade, hs⟩ | ⟨j, _, -, hcopied, -⟩
    · obtain ⟨-, rfl⟩ := Answer.made.inj (hanswer.symm.trans hmade)
      rw [held?_after hs hh]
    · cases hanswer.symm.trans hcopied
  | @copied before later i j p hanswer _ ih =>
    rw [after_append] at hh
    rcases held?_of_given (effect_step r _ (.copy j)) (by rw [hanswer]; rfl) with
      ⟨y, -, hx, -⟩ | ⟨k, h₀, hk, -, hsource, hs⟩
    · cases hx
    · cases hk
      rw [held?_after hs hh]
      exact ih (h := h₀) hsource

/-! ### The history of a session -/

/-- A number that was given is not given again. -/
theorem given?_ne_of_given {s : Session} {x y : Step} {mid : List Step} {i : Nat}
    (hx : (s.step r x).answer.given? = some i) :
    (((s.step r x).session.after r mid).step r y).answer.given? ≠ some i := by
  intro hy
  have hfirst := length_slots_effect (effect_step r s x)
  have hsecond := length_slots_effect (effect_step r ((s.step r x).session.after r mid) y)
  rw [hx] at hfirst
  rw [hy] at hsecond
  have hmid : i < ((s.step r x).session.after r mid).slots.length :=
    after_induction (motive := fun s => i < s.slots.length)
      (fun s z hs => Nat.lt_of_lt_of_le hs (length_slots_le_step s z)) (by omega) mid
  omega

/-- A step that was not possible leaves the session as it was. -/
theorem eq_of_isFault {s s' : Session} {x : Step} {a : Answer} (he : Effect r s x s' a)
    (ha : a.IsFault) : s' = s := by
  cases he with
  | made | keyed | copied | dropped | shared => cases ha
  | faulty | misshapen | unshared | asked | missing => rfl

/-- Giving a key to an action and dropping it do not reach the others. -/
theorem held?_effect_of_target? {s s' : Session} {x : Step} {a : Answer}
    (he : Effect r s x s' a) {i j : Nat} (hx : x.target? = some i) (hj : j ≠ i) :
    s'.held? j = s.held? j := by
  cases he with
  | keyed hh | dropped hh =>
    cases hx
    rw [held?_set rfl (lt_length_of_held? hh), if_neg (Ne.symm hj)]
  | @made x _ _ hmade =>
    cases x with
    | make | build => cases hx
    | setKey | view | copy | drop | compare | samePool | share => cases hmade
  | copied => cases hx
  | faulty | misshapen | shared | unshared | asked | missing => rfl

/-- **Actions are what their history says.** After any steps, the payload of an action
that is there is the one at the root of its chain of copies, and no other; its key is the
last that it was given since its number was, or else the key that its source had at that
moment. Giving a key to one action or dropping it does not reach another, a number is
given once, and a step that was not possible changes nothing. -/
theorem held_follows_history (r : Resolver) :
    (∀ (steps : List Step) (i : Nat) (h : Held), (empty.after r steps).held? i = some h →
        (∀ p, Root r steps i p ↔ p = h.action.payload) ∧
        ∃ before x later, steps = before ++ x :: later ∧
          ((empty.after r before).step r x).answer.given? = some i ∧
          h.action.key = (lastKey? i later).or ((empty.after r before).sourceKey? x)) ∧
      (∀ (s : Session) (i j key : Nat), j ≠ i →
        (s.step r (.setKey i key)).session.held? j = s.held? j ∧
        (s.step r (.drop i)).session.held? j = s.held? j) ∧
      (∀ (before mid : List Step) (x y : Step) (i : Nat),
        ((empty.after r before).step r x).answer.given? = some i →
        ((empty.after r (before ++ x :: mid)).step r y).answer.given? ≠ some i) ∧
      ∀ (s : Session) (x : Step), (s.step r x).answer.IsFault → (s.step r x).session = s := by
  refine ⟨?_, ?_, ?_, ?_⟩
  · intro steps i h hh
    constructor
    · intro p
      constructor
      · exact fun hp => (payload_of_root hp hh).symm
      · rintro rfl
        exact root_of_held? steps hh
    · obtain ⟨before, x, later, h₀, hsteps, hgiven, hh₀, rfl⟩ := exists_origin hh
      have hkey := key_of_given (effect_step r _ x) hgiven hh₀
      exact ⟨before, x, later, hsteps, hgiven, congrArg (Option.or _) hkey⟩
  · intro s i j key hj
    exact ⟨held?_effect_of_target? (effect_step r s (.setKey i key)) rfl hj,
      held?_effect_of_target? (effect_step r s (.drop i)) rfl hj⟩
  · intro before mid x y i hx
    rw [after_append]
    exact given?_ne_of_given hx
  · exact fun s x hx => eq_of_isFault (effect_step r s x) hx

/-- A start is copied under its first key, given another, and dropped; its copy is copied
in turn. The last action has the payload of the start, under the key of its own: the texts
without a peer to talk to and the key for an action that is gone left no trace. -/
theorem held_follows_history_of_copy :
    let r := ((HostTable.empty (some "me")).add "relay" ⟨10, 0, 0, 1⟩).resolver
    let steps : List Step :=
      [.make (.start "1" "80" "relay:7,me:9" ""), .setKey 0 9, .copy 0, .setKey 0 8, .drop 0,
        .make (.start "1" "80" "me:9" ""), .setKey 0 7, .copy 1, .setKey 2 6]
    let start : Payload := .start ⟨1, 80, none, ⟨[⟨⟨10, 0, 0, 1⟩, 7⟩]⟩⟩
    let s := empty.after r steps
    s.held? 1 = some ⟨⟨start, some 9⟩, some 0⟩ ∧ s.held? 2 = some ⟨⟨start, some 6⟩, some 0⟩ ∧
      Root r steps 2 start ∧ (s.step r (.drop 1)).session.held? 2 = s.held? 2 ∧
      (s.step r (.setKey 0 5)).session = s := by
  intro r steps start s
  have hfirst : s.held? 1 = some ⟨⟨start, some 9⟩, some 0⟩ := by
    dsimp only [s, steps, start, r]
    rfl
  have hsecond : s.held? 2 = some ⟨⟨start, some 6⟩, some 0⟩ := by
    dsimp only [s, steps, start, r]
    rfl
  have hanswer : (s.step r (.setKey 0 5)).answer = .noAction 0 := by
    dsimp only [s, steps, r]
    rfl
  obtain ⟨hheld, hother, -, hfault⟩ := held_follows_history r
  refine ⟨hfirst, hsecond, ((hheld steps 2 _ hsecond).1 start).mpr rfl,
    (hother s 1 2 5 (by decide)).2, hfault s _ ?_⟩
  rw [hanswer]
  trivial

end Session

end TrafficGraph
