import RecipeDiag.Proofs.Reconciler.Disabling
import RecipeDiag.Proofs.Reconciler.Renewal

/-!
# Clearing, and reviewing from nothing

A clearing leaves no entry behind and publishes nothing but empty sets (`clear_eq`). A review depends on
what is known and on the entries that it finds (`entries_review`): after a clearing all reconcilers that
know the same come to the same entries. While diagnostics are off an update does nothing at all
(`update_of_disabled`).
-/

namespace RecipeDiag

namespace Reconciler
variable {r r' : Reconciler} {s : Surroundings} {u recipe recipe' : Uri} {l : Language} {g : Reading}

/-! ### Clearing -/

theorem foldl_withdraw_eq (r : Reconciler) (recipes : List Uri) : ∃ c ps, recipes.foldl withdraw r =
    { r with channels := c, published := r.published ++ ps } ∧ (∀ p ∈ ps, p.diagnostics = []) ∧
      ∀ l recipe, (c.channel l).get? recipe =
        if recipe ∈ recipes then none else (r.channels.channel l).get? recipe := by
  induction recipes generalizing r with
  | nil => exact ⟨r.channels, [], by simp, by simp, by simp⟩
  | cons recipe recipes ih =>
    obtain ⟨c, ps, hr, hps, hc⟩ := ih (r.withdraw recipe)
    refine ⟨c, ⟨recipe, []⟩ :: ps, ?_, ?_, fun l recipe' => ?_⟩
    · rw [List.foldl_cons, hr]
      simp [withdraw, forget, publish]
    · intro p hp
      rcases List.mem_cons.1 hp with rfl | hp
      · rfl
      · exact hps p hp
    · have hremove : ((r.withdraw recipe).channels.channel l).get? recipe' =
          if recipe' = recipe then none else (r.channels.channel l).get? recipe' :=
        Channels.get?_channel_remove
      rw [hc, hremove]
      by_cases h : recipe' = recipe <;> simp [h]

/-- All that a clearing does. -/
theorem clear_eq (r : Reconciler) : ∃ c ps, r.clear =
    { r with channels := c, published := r.published ++ ps } ∧ (∀ p ∈ ps, p.diagnostics = []) ∧
      ∀ l recipe, (c.channel l).get? recipe = none := by
  obtain ⟨c, ps, hr, hps, hc⟩ := foldl_withdraw_eq r r.channels.recipes
  refine ⟨c, ps, hr, hps, fun l recipe => ?_⟩
  rw [hc]
  split
  · rfl
  · next hno =>
    refine Option.eq_none_iff_forall_ne_some.2 fun ds hds => hno ?_
    exact Channels.mem_recipes_of_get? hds

/-! ### Operations keep what is settled -/

namespace Settled

theorem withdraw (h : r.Settled recipe) (recipe' : Uri) : (r.withdraw recipe').Settled recipe := by
  have hpublished : (r.withdraw recipe').published = r.published ++ [⟨recipe', []⟩] := rfl
  have hlast : (r.withdraw recipe').lastPublished? recipe =
      if recipe' = recipe then some [] else r.lastPublished? recipe := lastPublished?_of_append hpublished
  by_cases hr : recipe' = recipe
  · have hnone : ∀ l, ((r.withdraw recipe').channels.channel l).get? recipe = none := fun l =>
      Channels.get?_channel_remove.trans (if_pos hr.symm)
    refine .inr ?_
    rw [hlast, if_pos hr, Channels.merged_eq_nil hnone]
  · refine h.congr (fun l => ?_) (by rw [hlast, if_neg hr])
    exact Channels.get?_channel_remove.trans (if_neg (Ne.symm hr))

theorem perform (h : r.Settled recipe) (op : Operation) : (r.perform op).Settled recipe := by
  cases op with
  | update s u => exact h.update s u
  | review s => exact h.updateAll s _
  | clear => exact clear_induction (P := fun r => r.Settled recipe) h fun r recipe' h => h.withdraw recipe'
  | edit e => cases e <;> exact h.congr (fun _ => rfl) rfl
  | configure settings => exact h.congr (fun _ => rfl) rfl

theorem performAll (h : r.Settled recipe) (ops : List Operation) : (r.performAll ops).Settled recipe :=
  performAll_induction (P := fun r => r.Settled recipe) h (fun _ op h => h.perform op) ops

/-- Once something was published for a recipe, the last set published is what the channels hold. -/
theorem lastPublished?_of_mem (h : r.Settled recipe) {p : Publication} (hp : p ∈ r.published)
    (hr : p.recipe = recipe) : r.lastPublished? recipe = some (r.channels.merged recipe) := by
  rcases h with ⟨hnone, -⟩ | h
  · have hno := List.find?_eq_none.1 (Option.map_eq_none_iff.1 hnone) p (List.mem_reverse.2 hp)
    exact absurd hr (by simpa using hno)
  · exact h

/-- What has an entry was published. -/
theorem exists_mem_of_entry (h : r.Settled recipe) (he : (r.channels.channel l).get? recipe ≠ none) :
    ∃ p ∈ r.published, p.recipe = recipe := by
  rcases h with ⟨-, hnone⟩ | h
  · exact absurd (hnone l) he
  · obtain ⟨p, hp, -⟩ := Option.map_eq_some_iff.1 h
    exact ⟨p, List.mem_reverse.1 (List.mem_of_find?_eq_some hp), by simpa using List.find?_some hp⟩

end Settled

/-! ### Knowing the same -/

/-- Two reconcilers know the same texts, findings and documents. -/
structure KnowsAlike (r r' : Reconciler) : Prop where
  texts : ∀ u, r.workspace.openDocuments.get? u = r'.workspace.openDocuments.get? u
  findings : ∀ u, r.workspace.findingsOf u = r'.workspace.findingsOf u
  recipes : ∀ u, r.registry.recipe? u = r'.registry.recipe? u
  documents : ∀ recipe l, r.registry.document? recipe l = r'.registry.document? recipe l

namespace KnowsAlike

theorem symm (h : r.KnowsAlike r') : r'.KnowsAlike r :=
  ⟨fun u => (h.texts u).symm, fun u => (h.findings u).symm, fun u => (h.recipes u).symm,
    fun recipe l => (h.documents recipe l).symm⟩

theorem trans {r'' : Reconciler} (h : r.KnowsAlike r') (h' : r'.KnowsAlike r'') : r.KnowsAlike r'' :=
  ⟨fun u => (h.texts u).trans (h'.texts u), fun u => (h.findings u).trans (h'.findings u),
    fun u => (h.recipes u).trans (h'.recipes u),
    fun recipe l => (h.documents recipe l).trans (h'.documents recipe l)⟩

theorem read_eq (h : r.KnowsAlike r') (files : FileReader) (u : Uri) :
    r.registry.read files u = r'.registry.read files u := by
  have hcontent : r.registry.content? u = r'.registry.content? u := by
    simp only [Registry.content?, h.recipes, h.documents]
  unfold Registry.read
  rw [hcontent]

theorem admits (h : r.KnowsAlike r') (hc : r.configuration = r'.configuration) (hg : r.Admits u g) :
    r'.Admits u g where
  enabled := hc ▸ hg.enabled
  language := hg.language
  recipe := (h.recipes u).symm.trans hg.recipe
  text := (h.texts _).symm.trans hg.text
  document := (h.documents _ _).symm.trans hg.document
  threshold := hc ▸ hg.threshold

theorem outcome_eq (h : r.KnowsAlike r') (hc : r.configuration = r'.configuration) :
    r.outcome s = r'.outcome s := by
  funext u
  by_cases hs : r.Skips u
  · have hs' : r'.Skips u := Classical.byContradiction fun hn => by
      obtain ⟨g, hg⟩ := not_skips_iff.1 hn
      exact (h.symm.admits hc.symm hg).not_skips hs
    rw [outcome_of_skips hs, outcome_of_skips hs']
  · obtain ⟨g, hg⟩ := not_skips_iff.1 hs
    rw [outcome_of_admits hg, outcome_of_admits (h.admits hc hg), h.read_eq]
    simp only [Listing.verdicts, Listing.inquiries, h.findings]

/-- A review of two reconcilers that know the same and have the same entries ends in the same
entries. -/
theorem entries_review (h : r.KnowsAlike r') (hc : r.configuration = r'.configuration)
    (he : ∀ l recipe, (r.channels.channel l).get? recipe = (r'.channels.channel l).get? recipe)
    (l : Language) (recipe : Uri) : ((r.review s).1.channels.channel l).get? recipe =
      ((r'.review s).1.channels.channel l).get? recipe := by
  have hrenews := (renews_updateAll r s (s.reported r.workspace)).entries
  have hrenews' := (renews_updateAll r' s (s.reported r'.workspace)).entries
  have hreported : ∀ u, u ∈ s.reported r.workspace ↔ u ∈ s.reported r'.workspace := fun u => by
    rw [s.mem_reported, s.mem_reported, Workspace.mem_reported_iff, Workspace.mem_reported_iff, h.findings]
  rw [← h.outcome_eq hc] at hrenews'
  have hsame : r.channels.Renewed (r.outcome s) (· ∈ s.reported r.workspace) (r'.review s).1.channels :=
    ⟨fun u o hu => hrenews'.replaced u o ((hreported u).1 hu), fun l recipe hno =>
      (hrenews'.kept l recipe fun u o hu => hno u o ((hreported u).2 hu)).trans (he l recipe).symm⟩
  exact hrenews.get?_eq hsame l recipe

end KnowsAlike

/-! ### While diagnostics are off -/

theorem update_of_disabled (h : r.configuration.enabled = false) : r.update s u = (r, .ok ()) := by
  unfold update
  rw [opening?_of_disabled h]
  rfl

theorem configuration_update : (r.update s u).1.configuration = r.configuration := by
  obtain ⟨st, as, h⟩ := update_eq r s u
  rw [h]
  exact configuration_takeOver

theorem configuration_review : (r.review s).1.configuration = r.configuration :=
  updateAll_induction (P := fun r' => r'.configuration = r.configuration) rfl
    (fun _ _ h => configuration_update.trans h) _

theorem review_of_disabled (h : r.configuration.enabled = false) : (r.review s).1 = r := by
  refine updateAll_induction (P := fun r' => r' = r) rfl (fun r' u hr' => ?_) _
  subst hr'
  rw [update_of_disabled h]

end Reconciler
end RecipeDiag
