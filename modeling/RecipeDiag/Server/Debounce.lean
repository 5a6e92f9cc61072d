import RecipeDiag.Table
import RecipeDiag.Uri.Basic

/-! # Delayed tasks

Work on a document is put off for a while, and put off again whenever more of it is announced. Each
announcement starts a task of its own and aborts the one before it. A task waits for its time, runs
its body, and then takes its entry back, but only if the entry is still its own. -/

namespace RecipeDiag

/-- Where a task stands. -/
inductive DelayedTask.Stage where
  | waiting
  | running
  /-- The body has run. -/
  | finishing
  | ended
  | aborted
  deriving DecidableEq, Repr

structure DelayedTask where
  /-- How many tasks were started before it. -/
  number : Nat
  id : UInt64
  uri : Uri
  /-- The time at which the body may run. -/
  due : Nat
  stage : DelayedTask.Stage
  deriving DecidableEq, Repr

/-- What is noted of a task: the id that it was given, and which of all tasks it is. -/
def DelayedTask.entry (t : DelayedTask) : UInt64 × Nat := (t.id, t.number)

structure Debounce where
  nextId : UInt64
  /-- All tasks there ever were, oldest first. -/
  tasks : List DelayedTask
  /-- The entry of the task that each document waits for. -/
  current : Table Uri (UInt64 × Nat)

namespace Debounce

def empty : Debounce := ⟨0, [], .empty⟩

instance : Inhabited Debounce := ⟨empty⟩

/-- Moves the task with a number to another stage, if it stands in one of the given ones. -/
def move (d : Debounce) (number : Nat) (source : DelayedTask.Stage → Bool) (target : DelayedTask.Stage) :
    Debounce :=
  { d with
    tasks := d.tasks.map fun t =>
      if t.number = number && source t.stage then { t with stage := target } else t }

/-- Aborts a task that has not ended. -/
def abort (d : Debounce) (number : Nat) : Debounce := d.move number (· != .ended) .aborted

/-- Starts a task for a document in place of the one before it. Ids are words and start again when they
are exhausted. -/
def schedule (d : Debounce) (u : Uri) (due : Nat) : Debounce :=
  let d := match d.current.get? u with
    | some (_, number) => d.abort number
    | none => d
  let t : DelayedTask := ⟨d.tasks.length, d.nextId, u, due, .waiting⟩
  { nextId := d.nextId + 1
    tasks := d.tasks ++ [t]
    current := d.current.insert u t.entry }

/-- The time of a task has come. -/
def expire (d : Debounce) (number : Nat) : Debounce := d.move number (· == .waiting) .running

/-- The body of a task has run. -/
def complete (d : Debounce) (number : Nat) : Debounce := d.move number (· == .running) .finishing

/-- The task with an id takes back the entry of its document unless another task has it. -/
def finish (d : Debounce) (id : UInt64) (u : Uri) : Debounce :=
  if (d.current.get? u).any fun e => e.1 = id then { d with current := d.current.erase u } else d

/-- A task has nothing left to do. -/
def close (d : Debounce) (number : Nat) : Debounce := d.move number (· == .finishing) .ended

/-- Whether a document waits for a task. -/
def isPending (d : Debounce) (u : Uri) : Bool := (d.current.get? u).isSome

/-- The waiting tasks whose time has come, oldest first. -/
def dueBy (d : Debounce) (time : Nat) : List DelayedTask :=
  d.tasks.filter fun t => t.stage == .waiting && t.due ≤ time

end Debounce
end RecipeDiag
