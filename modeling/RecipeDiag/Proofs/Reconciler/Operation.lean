import RecipeDiag.Reconciler.Edit
import RecipeDiag.Reconciler.Review

/-!
# One operation after the other

`Reconciler.performAll` is a run in which nothing is under way when the next operation begins. What
an update keeps, a review keeps too (`updateAll_induction`), and what taking back one recipe keeps, a
clearing keeps (`clear_induction`). The updates that operations make, each with the reconciler as it
finds it, are their `calls`.
-/

namespace RecipeDiag

/-- What may be done to a reconciler. Each operation may find other surroundings. -/
inductive Operation where
  | update (surroundings : Surroundings) (generated : Uri)
  | review (surroundings : Surroundings)
  | clear
  | edit (e : Edit)
  | configure (settings : Json)

namespace Reconciler
variable {r : Reconciler} {s : Surroundings} {P : Reconciler → Prop}

def perform (r : Reconciler) : Operation → Reconciler
  | .update s u => (r.update s u).1
  | .review s => (r.review s).1
  | .clear => r.clear
  | .edit e => r.edit e
  | .configure settings => r.configure settings

def performAll (r : Reconciler) (ops : List Operation) : Reconciler := ops.foldl perform r

theorem snd_updateAll_cons (u : Uri) (us : List Uri) :
    (r.updateAll s (u :: us)).2 = (r.update s u).2 :: ((r.update s u).1.updateAll s us).2 := rfl

theorem updateAll_induction (h : P r) (hu : ∀ r u, P r → P (r.update s u).1) (us : List Uri) :
    P (r.updateAll s us).1 := by
  induction us generalizing r with
  | nil => exact h
  | cons u us ih => exact ih (hu r u h)

theorem clear_induction (h : P r) (hw : ∀ r recipe, P r → P (r.withdraw recipe)) : P r.clear := by
  unfold clear
  generalize r.channels.recipes = recipes
  induction recipes generalizing r with
  | nil => exact h
  | cons recipe recipes ih => exact ih (hw r recipe h)

theorem performAll_induction (h : P r) (hp : ∀ r op, P r → P (r.perform op)) (ops : List Operation) :
    P (r.performAll ops) := by
  induction ops generalizing r with
  | nil => exact h
  | cons op ops ih => exact ih (hp r op h)

end Reconciler

/-! ### Updates in the course of a run -/

/-- An update in the course of a run, with the reconciler as the update finds it. -/
structure Call where
  reconciler : Reconciler
  surroundings : Surroundings
  generated : Uri

namespace Call

def result (x : Call) : Except Fault Unit := (x.reconciler.update x.surroundings x.generated).2

/-- What the update works on, if it gets past the guards. -/
def reading? (x : Call) : Option Reading :=
  (x.reconciler.opening? x.generated).bind x.reconciler.reading?

/-- The findings that the update takes up, none if it does not get past the guards. -/
def findings (x : Call) : List Finding :=
  (x.reading?.map fun g => x.reconciler.workspace.findingsOf g.document.uri).getD []

end Call

namespace Reconciler
variable {r : Reconciler}

/-- The updates of documents one after the other. -/
def callsOfAll (r : Reconciler) (s : Surroundings) : List Uri → List Call
  | [] => []
  | u :: us => ⟨r, s, u⟩ :: (r.update s u).1.callsOfAll s us

/-- The updates that an operation makes. -/
def callsOf (r : Reconciler) : Operation → List Call
  | .update s u => [⟨r, s, u⟩]
  | .review s => r.callsOfAll s (s.reported r.workspace)
  | _ => []

/-- The updates that the operations make. -/
def calls (r : Reconciler) : List Operation → List Call
  | [] => []
  | op :: ops => r.callsOf op ++ (r.perform op).calls ops

theorem calls_append (ops ops' : List Operation) :
    r.calls (ops ++ ops') = r.calls ops ++ (r.performAll ops).calls ops' := by
  induction ops generalizing r with
  | nil => rfl
  | cons op ops ih =>
    have hops : (r.perform op).performAll ops = r.performAll (op :: ops) := rfl
    rw [List.cons_append, calls, ih, hops, calls, List.append_assoc]

end Reconciler
end RecipeDiag
