import RecipeDiag.Reconciler.Edit
import RecipeDiag.Reconciler.Stage

/-! # Activities side by side

Updates and clearings run side by side, and the editor goes on reporting meanwhile. `Concurrent.step`
makes one `Move` of such a run: an activity begins, goes on by one stage or is broken off, or
something changes that the activities depend on. A list of moves fixes one way to interleave them. -/

namespace RecipeDiag

structure Concurrent where
  reconciler : Reconciler
  /-- Every activity that ever began, oldest first. -/
  activities : List Activity

inductive Move where
  | update (generated : Uri)
  /-- An update of every document with findings. -/
  | review (surroundings : Surroundings)
  | clear
  /-- The activity with this number goes on, if the recipe that it waits for is free. -/
  | proceed (number : Nat) (chance : Chance) (surroundings : Surroundings)
  | abort (number elapsed : Nat)
  | edit (e : Edit)
  | configure (settings : Json)

namespace Concurrent

/-- Nothing is under way. -/
def quiet (r : Reconciler) : Concurrent := ⟨r, []⟩

/-- Whether no activity holds a recipe. -/
def isFree (c : Concurrent) (recipe : Uri) : Bool := c.activities.all fun a => a.held? ≠ some recipe

/-- Whether nothing is under way any more. -/
def isQuiet (c : Concurrent) : Bool := c.activities.all Activity.isOver

def begin (c : Concurrent) (as : List Activity) : Concurrent :=
  { c with activities := c.activities ++ as }

def proceed (c : Concurrent) (number : Nat) (chance : Chance) (s : Surroundings) : Concurrent :=
  match c.activities[number]? with
  | some a =>
    if (a.awaited? chance).all c.isFree then
      let (r, a) := c.reconciler.proceed s chance a
      ⟨r, c.activities.set number a⟩
    else c
  | none => c

def abort (c : Concurrent) (number elapsed : Nat) : Concurrent :=
  match c.activities[number]? with
  | some a =>
    let (r, a) := c.reconciler.abort elapsed a
    ⟨r, c.activities.set number a⟩
  | none => c

def step (c : Concurrent) : Move → Concurrent
  | .update generated => c.begin [.update (.begun generated)]
  | .review s => c.begin ((s.reported c.reconciler.workspace).map fun u => .update (.begun u))
  | .clear => c.begin [.clear (.clearing c.reconciler.channels.recipes)]
  | .proceed number chance s => c.proceed number chance s
  | .abort number elapsed => c.abort number elapsed
  | .edit e => { c with reconciler := c.reconciler.edit e }
  | .configure settings => { c with reconciler := c.reconciler.configure settings }

def run (c : Concurrent) (moves : List Move) : Concurrent := moves.foldl step c

end Concurrent
end RecipeDiag
