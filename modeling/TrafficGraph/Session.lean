import TrafficGraph.Node.Json

/-!
# Sessions

A session makes actions and keeps them by number. Actions can be copied, given
keys, compared and dropped, and the pool of an action can be shared: a reference
to it is kept in a list of its own until the session ends.

A pool is made together with the action that holds it, and a copy of the action
holds the same pool. Which pools are the same is not a matter of their peers: every
pool has a number of its own, and the session counts the references to each –
from actions that are not dropped, and from the list of shared pools.

* The number of an action is its place in `TrafficGraph.Session.slots`; a dropped
  action leaves its place empty, so no number is given twice.
* A step that is answered by a fault leaves the session as it was.
-/

namespace TrafficGraph

/-- An action in a session, with the number of the pool it holds. -/
structure Held where
  /-- The action. -/
  action : Action
  /-- The number of its pool, if it has one. -/
  pool : Option Nat
deriving DecidableEq, Repr

/-- The actions that have been made, and the references to their pools. -/
structure Session where
  /-- The actions by number; the place of a dropped one is empty. -/
  slots : List (Option Held)
  /-- The numbers of the pools in the shared list. -/
  shared : List Nat
  /-- The number of references to every pool that was made. -/
  references : List Nat
deriving DecidableEq, Repr

namespace Session

/-- The session before its first step. -/
def empty : Session := ⟨[], [], []⟩

/-- What can be done in a session. -/
inductive Step where
  /-- Makes an action from the texts of its attributes. -/
  | make (q : Request)
  /-- Makes the action that a JSON value stands for. -/
  | build (v : Json)
  /-- Gives an action a key. -/
  | setKey (index key : Nat)
  /-- Shows an action. -/
  | view (index : Nat)
  /-- Copies an action, its key included. -/
  | copy (index : Nat)
  /-- Drops an action. -/
  | drop (index : Nat)
  /-- Compares two actions. -/
  | compare (a b : Nat)
  /-- Asks whether two actions hold the same pool. -/
  | samePool (a b : Nat)
  /-- Keeps a reference to the pool of an action. -/
  | share (index : Nat)

/-- The answer to a step. -/
inductive Answer where
  /-- An action was made, under this number. -/
  | made (index : Nat) (x : Action)
  /-- An action as it now is. -/
  | view (x : Action)
  /-- An action was copied, to this number. -/
  | copied (index : Nat)
  /-- There is nothing to answer. -/
  | done
  /-- The actions are equal with their keys, and without them. -/
  | compared (actions payloads : Bool)
  /-- Both actions hold pools, and these are the same or not. -/
  | samePool (b : Option Bool)
  /-- The pool was shared, at this place of the list; there may be no pool. -/
  | shared (place : Option Nat)
  /-- The texts make no action. -/
  | fault (f : Fault)
  /-- The JSON value is no node. -/
  | shapeFault (f : ShapeFault)
  /-- There is no action of this number. -/
  | noAction (index : Nat)
deriving DecidableEq, Repr

/-- The message for a number that no action has. -/
def noActionMessage (index : Nat) : String := "no action " ++ index.repr

/-- A session after a step, the answer to it, and what was logged. -/
structure Reply where
  /-- The session afterwards. -/
  session : Session
  /-- The answer. -/
  answer : Answer
  /-- What was logged. -/
  events : List Event

/-- The action of a number, if it has been made and not dropped. -/
def held? (s : Session) (index : Nat) : Option Held := (s.slots[index]?).join

/-- The numbers of the actions there are. -/
def live (s : Session) : List Nat :=
  (List.range s.slots.length).filter fun i => (s.held? i).isSome

/-- The number of references to each pool of the shared list. -/
def sharedReferences (s : Session) : List Nat :=
  s.shared.map fun pool => (s.references[pool]?).getD 0

/-- The references after the number of those to one pool has changed. -/
def recount (references : List Nat) (change : Nat → Nat) : Option Nat → List Nat
  | some pool => references.modify pool change
  | none => references

/-- The session with a new action. If the action has peers, they are a new pool,
to which there is one reference. -/
def insert (s : Session) (x : Action) : Session :=
  match x.peers? with
  | some _ =>
    { s with
      slots := s.slots ++ [some ⟨x, some s.references.length⟩]
      references := s.references ++ [1] }
  | none => { s with slots := s.slots ++ [some ⟨x, none⟩] }

/-- The reply to a step that is about one action: there must be one. -/
def withAction (s : Session) (index : Nat) (reply : Held → Session × Answer) : Reply :=
  match s.held? index with
  | some h => ⟨(reply h).1, (reply h).2, []⟩
  | none => ⟨s, .noAction index, []⟩

/-- The reply to the making of an action. -/
def insertLogged (s : Session) (x : Logged Action) : Reply :=
  match x.outcome with
  | .ok a => ⟨s.insert a, .made s.slots.length a, x.events⟩
  | .error f => ⟨s, .fault f, x.events⟩

/-- The pools of two actions are the same, if both have one. -/
def samePool? (a b : Held) : Option Bool := do
  let p ← a.pool
  let q ← b.pool
  return p == q

/-- **One step.** -/
def step (r : Resolver) (s : Session) : Step → Reply
  | .make q => s.insertLogged (q.build r)
  | .build v =>
    match Node.ofJson v with
    | .ok n => s.insertLogged (n.build r)
    | .error f => ⟨s, .shapeFault f, []⟩
  | .setKey i key => s.withAction i fun h =>
    let x := h.action.withKey key
    ({ s with slots := s.slots.set i (some { h with action := x }) }, .view x)
  | .view i => s.withAction i fun h => (s, .view h.action)
  | .copy i => s.withAction i fun h =>
    ({ s with
        slots := s.slots ++ [some h]
        references := recount s.references (· + 1) h.pool }, .copied s.slots.length)
  | .drop i => s.withAction i fun h =>
    ({ s with
        slots := s.slots.set i none
        references := recount s.references (· - 1) h.pool }, .done)
  | .compare a b =>
    match s.held? a with
    | none => ⟨s, .noAction a, []⟩
    | some x => s.withAction b fun y =>
      (s, .compared (x.action == y.action) (x.action.payload == y.action.payload))
  | .samePool a b =>
    match s.held? a with
    | none => ⟨s, .noAction a, []⟩
    | some x => s.withAction b fun y => (s, .samePool (samePool? x y))
  | .share i => s.withAction i fun h =>
    match h.pool with
    | none => (s, .shared none)
    | some pool =>
      ({ s with
          shared := s.shared ++ [pool]
          references := recount s.references (· + 1) h.pool }, .shared (some s.shared.length))

/-- The replies to a sequence of steps, each in the session the one before left. -/
def run (r : Resolver) (s : Session) : List Step → List Reply
  | [] => []
  | x :: steps =>
    let reply := s.step r x
    reply :: run r reply.session steps

/-- The session after a sequence of steps. -/
def after (r : Resolver) (s : Session) : List Step → Session
  | [] => s
  | x :: steps => after r (s.step r x).session steps

theorem after_append (r : Resolver) (s : Session) (xs ys : List Step) :
    s.after r (xs ++ ys) = (s.after r xs).after r ys := by
  induction xs generalizing s with
  | nil => rfl
  | cons x xs ih => exact ih _

/-- The replies to later steps are those in the session that the earlier ones
left. -/
theorem run_append (r : Resolver) (s : Session) (xs ys : List Step) :
    s.run r (xs ++ ys) = s.run r xs ++ (s.after r xs).run r ys := by
  induction xs generalizing s with
  | nil => rfl
  | cons x xs ih => exact congrArg (_ :: ·) (ih _)

end Session

end TrafficGraph
