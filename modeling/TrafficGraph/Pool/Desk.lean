import TrafficGraph.Reading.Peers

/-!
# Work on a pool

A desk holds a pool that is being filled and a copy of it from an earlier time.
The steps below are what can be done with the two, and each has an answer; the
reading of peers also logs events. Both pools start without peers.
-/

namespace TrafficGraph

/-- The pool at work and the copy that was kept. -/
structure Desk where
  /-- The pool at work. -/
  current : Pool
  /-- The copy. -/
  saved : Pool
deriving DecidableEq, Repr

namespace Desk

/-- A desk with two pools without peers. -/
def empty : Desk := ⟨.empty, .empty⟩

/-- What can be done at a desk. -/
inductive Step where
  /-- Adds a peer, usable or not. -/
  | add (p : Peer)
  /-- Reads a list of peers into the pool. -/
  | fill (attr text : String)
  /-- Asks whether a peer is in the pool. -/
  | contains (p : Peer)
  /-- Begins a new pool. -/
  | reset
  /-- Keeps a copy of the pool. -/
  | save
  /-- Asks whether the pool and the copy hold the same peers in the same order. -/
  | equalsSaved
  /-- Picks a peer. -/
  | choose (choice : Choice Peer)

/-- Picks a peer without a generator, by a number. -/
def Step.pick (n : Nat) : Step := .choose (.byNumber n)

/-- What a pick from a pool shows. -/
inductive Picked where
  /-- The pool is empty. -/
  | nobody
  /-- Every peer of the pool is this one. -/
  | only (p : Peer)
  /-- There are different peers; whether the one picked is among them. -/
  | oneOf (isMember : Bool)
deriving DecidableEq, Repr

/-- The answer to a step. -/
inductive Answer where
  /-- There is nothing to answer. -/
  | done
  /-- The answer to a question. -/
  | truth (b : Bool)
  /-- The peer picked. -/
  | picked (p : Picked)
  /-- The reading of peers ended at a fault. -/
  | fault (f : Fault)
deriving DecidableEq, Repr

/-- A desk after a step, the answer to it, and what was logged. -/
structure Reply where
  /-- The desk afterwards. -/
  desk : Desk
  /-- The answer. -/
  answer : Answer
  /-- What was logged. -/
  events : List Event

/-- A pick, as an answer shows it. -/
def picked (pool : Pool) (choice : Choice Peer) : Picked :=
  match pool.pick choice with
  | none => .nobody
  | some p => if pool.peers.all (· == p) then .only p else .oneOf (pool.contains p)

/-- **One step.** -/
def step (r : Resolver) (d : Desk) : Step → Reply
  | .add p => ⟨{ d with current := d.current.add p }, .done, []⟩
  | .fill attr text =>
    let filled := d.current.fill attr r text
    let answer := match filled.report.outcome with
      | .ok () => .done
      | .error f => .fault f
    ⟨{ d with current := filled.pool }, answer, filled.report.events⟩
  | .contains p => ⟨d, .truth (d.current.contains p), []⟩
  | .reset => ⟨{ d with current := .empty }, .done, []⟩
  | .save => ⟨{ d with saved := d.current }, .done, []⟩
  | .equalsSaved => ⟨d, .truth (d.current == d.saved), []⟩
  | .choose choice => ⟨d, .picked (picked d.current choice), []⟩

/-- The replies to a sequence of steps, each at the desk the one before left. -/
def run (r : Resolver) (d : Desk) : List Step → List Reply
  | [] => []
  | s :: steps =>
    let reply := d.step r s
    reply :: run r reply.desk steps

/-- The desk after a sequence of steps. -/
def after (r : Resolver) (d : Desk) : List Step → Desk
  | [] => d
  | s :: steps => after r (d.step r s).desk steps

theorem after_append (r : Resolver) (d : Desk) (xs ys : List Step) :
    d.after r (xs ++ ys) = (d.after r xs).after r ys := by
  induction xs generalizing d with
  | nil => rfl
  | cons x xs ih => exact ih _

/-- The replies to later steps are those at the desk that the earlier ones left. -/
theorem run_append (r : Resolver) (d : Desk) (xs ys : List Step) :
    d.run r (xs ++ ys) = d.run r xs ++ (d.after r xs).run r ys := by
  induction xs generalizing d with
  | nil => rfl
  | cons x xs ih => exact congrArg (_ :: ·) (ih _)

end Desk

end TrafficGraph
