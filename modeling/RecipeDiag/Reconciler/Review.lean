import RecipeDiag.Reconciler.Update

/-! # Reviewing and clearing

A review updates every document that has findings. A failing update does not hold back the others.
Clearing takes back everything that is shown. -/

namespace RecipeDiag.Reconciler

/-- Updates documents one after the other and gives all results. -/
def updateAll (r : Reconciler) (s : Surroundings) : List Uri → Reconciler × List (Except Fault Unit)
  | [] => (r, [])
  | u :: us =>
    let (r, result) := r.update s u
    let (r, results) := r.updateAll s us
    (r, result :: results)

/-- Updates every document with findings; the result is the first failure in the order they are listed. -/
def review (r : Reconciler) (s : Surroundings) : Reconciler × Except Fault Unit :=
  let (r, results) := r.updateAll s (s.reported r.workspace)
  (r, (firstFailure results).map fun _ => ())

/-- Forgets a recipe in both channels. -/
def forget (r : Reconciler) (recipe : Uri) : Reconciler :=
  { r with channels := r.channels.remove recipe }

/-- Forgets a recipe and publishes that nothing is left. -/
def withdraw (r : Reconciler) (recipe : Uri) : Reconciler := (r.forget recipe).publish ⟨recipe, []⟩

/-- Takes back everything that is shown. -/
def clear (r : Reconciler) : Reconciler := r.channels.recipes.foldl withdraw r

end RecipeDiag.Reconciler
