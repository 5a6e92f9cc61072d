import RecipeDiag.Proofs.Reconciler.Image
import RecipeDiag.Reconciler.Review

/-!
# Recipes that are settled

A recipe is settled if the last set shown for it is what both channels hold, or if it was never shown
and has no entry. Updates and clearings that run one after the other settle the recipe they are about
and leave all others as they were.
-/

namespace RecipeDiag.Reconciler
variable {r r' : Reconciler} {s : Surroundings} {u recipe recipe' : Uri} {p : Publication} {o : Outcome}

theorem lastPublished?_congr (h : r'.published = r.published) :
    r'.lastPublished? recipe = r.lastPublished? recipe := by
  rw [lastPublished?, h, lastPublished?]

theorem lastPublished?_of_append (h : r'.published = r.published ++ [p]) :
    r'.lastPublished? recipe =
      if p.recipe = recipe then some p.diagnostics else r.lastPublished? recipe := by
  rw [lastPublished?, h, List.reverse_append, List.reverse_singleton, List.singleton_append,
    List.find?_cons]
  by_cases hp : p.recipe = recipe
  · simp [hp]
  · simp [hp, lastPublished?]

/-- What is shown for the recipe is what both channels hold, if anything. -/
def Settled (r : Reconciler) (recipe : Uri) : Prop :=
  (r.lastPublished? recipe = none ∧ ∀ l, (r.channels.channel l).get? recipe = none) ∨
    r.lastPublished? recipe = some (r.channels.merged recipe)

theorem settled_start (w : Workspace) (g : Registry) : (start w g).Settled recipe :=
  .inl ⟨rfl, fun _ => Channels.get?_channel_empty⟩

namespace Settled

theorem congr (h : r.Settled recipe)
    (hc : ∀ l, (r'.channels.channel l).get? recipe = (r.channels.channel l).get? recipe)
    (hp : r'.lastPublished? recipe = r.lastPublished? recipe) : r'.Settled recipe := by
  rcases h with ⟨hl, hn⟩ | hl
  · exact .inl ⟨hp.trans hl, fun l => (hc l).trans (hn l)⟩
  · exact .inr (by rw [hp, hl, Channels.merged_congr hc])

/-- A set that was never shown counts as empty. -/
theorem getD_lastPublished? (h : r.Settled recipe) :
    (r.lastPublished? recipe).getD [] = r.channels.merged recipe := by
  rcases h with ⟨hl, hn⟩ | hl
  · rw [hl, Channels.merged_eq_nil hn]
    rfl
  · rw [hl]
    rfl

theorem settle (h : r.Settled recipe) : (r.settle o).Settled recipe := by
  by_cases hr : o.recipe = recipe
  · refine .inr ?_
    rw [lastPublished?_of_append published_settle, if_pos hr, hr]
  · refine h.congr (fun l => ?_) ?_
    · rw [get?_channel_settle, if_neg fun hl => hr hl.2.symm]
    · rw [lastPublished?_of_append published_settle, if_neg hr]

theorem takeOver (h : r.Settled recipe) (out : Except Fault (Option Outcome)) :
    (r.takeOver out).Settled recipe := by
  unfold Reconciler.takeOver
  split
  · exact h.settle
  · exact h

theorem update (h : r.Settled recipe) (s : Surroundings) (u : Uri) :
    (r.update s u).1.Settled recipe := by
  obtain ⟨st, as, hu⟩ := update_eq r s u
  rw [hu]
  exact (h.takeOver (r.outcome s u)).congr (fun _ => rfl) rfl

end Settled
end RecipeDiag.Reconciler
