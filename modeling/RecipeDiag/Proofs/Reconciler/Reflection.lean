import RecipeDiag.Proofs.Reconciler.Locality
import RecipeDiag.Proofs.Reconciler.Settled

/-!
# Channels that reflect outcomes

Channels reflect outcomes if they hold nothing but outcomes, and lack only those of documents that
are late (`Channels.Reflects`). Taking the outcome of a document over is what makes it late no more.
Channels with no late document are determined by the outcomes, whatever order they came in
(`Channels.Reflects.merged_eq`); after a review none is late (`Reconciler.reflects_review`).
-/

namespace RecipeDiag

/-- What the update of every document comes to. -/
abbrev Outcomes : Type := Uri → Except Fault (Option Outcome)

/-- No two documents come to outcomes for the same recipe and language. -/
def Outcomes.Separate (out : Outcomes) : Prop :=
  ∀ u v o o', out u = .ok (some o) → out v = .ok (some o') →
    o'.recipe = o.recipe → o'.language = o.language → v = u

namespace Channels
variable {c c' : Channels} {out : Outcomes} {Late Late' : Uri → Prop} {u recipe recipe' : Uri}
  {l l' : Language} {ds : List Diagnostic} {o : Outcome}

theorem diagnostics_channel_empty : (empty.channel l).diagnostics recipe = [] := by
  rw [Channel.diagnostics, get?_channel_empty]
  rfl

theorem diagnostics_channel_set : ((c.set l recipe ds).channel l').diagnostics recipe' =
    if l' = l ∧ recipe' = recipe then ds else (c.channel l').diagnostics recipe' := by
  rw [Channel.diagnostics, get?_channel_set]
  split <;> rfl

/-- All diagnostics that are held are outcomes, and all outcomes are held but for those of late
documents. An outcome without diagnostics need not be held. -/
structure Reflects (c : Channels) (out : Outcomes) (Late : Uri → Prop) : Prop where
  sound : ∀ l recipe, (c.channel l).diagnostics recipe ≠ [] →
    ∃ u, out u = .ok (some ⟨recipe, l, (c.channel l).diagnostics recipe⟩)
  complete : ∀ u o, out u = .ok (some o) → o.diagnostics ≠ [] →
    Late u ∨ (c.channel o.language).diagnostics o.recipe = o.diagnostics

theorem reflects_empty (out : Outcomes) : empty.Reflects out fun _ => True where
  sound _ _ h := absurd diagnostics_channel_empty h
  complete _ _ _ _ := .inl trivial

namespace Reflects

theorem mono (h : c.Reflects out Late) (hl : ∀ u, Late u → Late' u) : c.Reflects out Late' where
  sound := h.sound
  complete u o ho hne := (h.complete u o ho hne).imp_left (hl u)

/-- Channels that hold nothing reflect any outcomes if all documents with some are late. -/
theorem of_silent (h : c.Reflects (fun _ => .ok none) Late) (out : Outcomes)
    (hl : ∀ u o, out u = .ok (some o) → o.diagnostics ≠ [] → Late' u) : c.Reflects out Late' where
  sound l recipe hne := by
    obtain ⟨u, hu⟩ := h.sound l recipe hne
    cases hu
  complete u o ho hne := .inl (hl u o ho hne)

theorem set (h : c.Reflects out Late) (hs : out.Separate) (hu : out u = .ok (some o)) :
    (c.set o.language o.recipe o.diagnostics).Reflects out fun v => Late v ∧ v ≠ u where
  sound l recipe hne := by
    rw [diagnostics_channel_set] at hne ⊢
    split
    · next hk =>
      obtain ⟨rfl, rfl⟩ := hk
      exact ⟨u, hu⟩
    · next hk =>
      rw [if_neg hk] at hne
      exact h.sound l recipe hne
  complete v o' ho' hne := by
    rw [diagnostics_channel_set]
    by_cases hv : v = u
    · subst hv
      cases hu.symm.trans ho'
      exact .inr (if_pos ⟨rfl, rfl⟩)
    · rw [if_neg fun hk => hv (hs u v o o' hu ho' hk.2 hk.1)]
      exact (h.complete v o' ho' hne).imp_left fun hl => ⟨hl, hv⟩

/-- An entry may be emptied as long as the document it is for is late. -/
theorem set_nil (h : c.Reflects out Late) (hl : ∀ u o, out u = .ok (some o) →
    o.recipe = recipe → o.language = l → Late u) : (c.set l recipe []).Reflects out Late where
  sound l' recipe' hne := by
    rw [diagnostics_channel_set] at hne ⊢
    split
    · next hk => exact absurd (if_pos hk) hne
    · next hk =>
      rw [if_neg hk] at hne
      exact h.sound l' recipe' hne
  complete v o ho hne := by
    rw [diagnostics_channel_set]
    by_cases hk : o.language = l ∧ o.recipe = recipe
    · exact .inl (hl v o ho hk.2 hk.1)
    · rw [if_neg hk]
      exact h.complete v o ho hne

/-- Two channels that reflect the same outcomes with no document late hold the same. -/
theorem diagnostics_eq (h : c.Reflects out fun _ => False) (h' : c'.Reflects out fun _ => False)
    (l : Language) (recipe : Uri) :
    (c.channel l).diagnostics recipe = (c'.channel l).diagnostics recipe := by
  by_cases hd : (c.channel l).diagnostics recipe = []
  · -- what the other held would be an outcome that this one lacks
    refine hd.trans (Classical.byContradiction fun hd' => hd' ?_)
    obtain ⟨u, hu⟩ := h'.sound l recipe (Ne.symm hd')
    have := (h.complete u _ hu (Ne.symm hd')).resolve_left id
    exact hd.symm.trans this
  · obtain ⟨u, hu⟩ := h.sound l recipe hd
    exact ((h'.complete u _ hu hd).resolve_left id).symm

theorem merged_eq (h : c.Reflects out fun _ => False) (h' : c'.Reflects out fun _ => False)
    (recipe : Uri) : c.merged recipe = c'.merged recipe := by
  have hb := diagnostics_eq h h' .bash recipe
  have hp := diagnostics_eq h h' .python recipe
  simp only [channel] at hb hp
  rw [merged, merged, hb, hp]

end Reflects
end Channels

namespace Reconciler
variable {r : Reconciler} {s : Surroundings} {out : Outcomes} {Late : Uri → Prop} {u v recipe : Uri}

theorem separate_outcome (hr : r.registry.Resolves) (hn : r.registry.Named) :
    Outcomes.Separate (r.outcome s) := by
  intro u v o o' ho ho' hrecipe hlanguage
  obtain ⟨d, hd, rfl⟩ := exists_document_of_outcome hr hn ho
  obtain ⟨d', hd', rfl⟩ := exists_document_of_outcome hr hn ho'
  rw [hrecipe, hlanguage] at hd'
  cases hd.symm.trans hd'
  rfl

theorem reflects_takeOver (h : r.channels.Reflects out Late) (hs : out.Separate) (u : Uri) :
    (r.takeOver (out u)).channels.Reflects out fun v => Late v ∧ v ≠ u := by
  have stays (hu : ∀ o, out u ≠ .ok (some o)) : r.channels.Reflects out fun v => Late v ∧ v ≠ u := by
    refine ⟨h.sound, fun v o ho hne => (h.complete v o ho hne).imp_left fun hl => ⟨hl, ?_⟩⟩
    rintro rfl
    exact hu o ho
  unfold takeOver
  split
  · next o ho => exact h.set hs ho
  · next hu => exact stays hu

/-- An outcome without diagnostics may be taken over while the document it is for is late. -/
theorem reflects_takeOver_nil (h : r.channels.Reflects out Late)
    {result : Except Fault (Option Outcome)} (hr : ∀ o, result = .ok (some o) → o.diagnostics = [] ∧
      ∀ v o', out v = .ok (some o') → o'.recipe = o.recipe → o'.language = o.language → Late v) :
    (r.takeOver result).channels.Reflects out Late := by
  unfold takeOver
  split
  · next o =>
    have hset := h.set_nil (hr o rfl).2
    rw [← (hr o rfl).1] at hset
    exact hset
  · exact h

theorem outcome_update : (r.update s u).1.outcome s v = r.outcome s v := by
  obtain ⟨st, as, h⟩ := update_eq r s u
  rw [h]
  refine outcome_congr ⟨registry_takeOver, configuration_takeOver, fun _ => ?_⟩ fun _ _ => ?_
  · exact congrArg (fun w : Workspace => w.openDocuments.get? _) workspace_takeOver
  · exact congrArg (fun w : Workspace => w.findingsOf _) workspace_takeOver

/-! ### Reviews -/

theorem reflects_updateAll (h : r.channels.Reflects out Late) (hr : ∀ u, r.outcome s u = out u)
    (hs : out.Separate) (us : List Uri) :
    (r.updateAll s us).1.channels.Reflects out fun v => Late v ∧ v ∉ us := by
  induction us generalizing r Late with
  | nil => exact h.mono fun u hl => ⟨hl, List.not_mem_nil⟩
  | cons u us ih =>
    have hu : (r.update s u).1.channels.Reflects out fun v => Late v ∧ v ≠ u := by
      obtain ⟨st, as, he⟩ := update_eq r s u
      rw [he, hr]
      exact reflects_takeOver h hs u
    refine (ih hu fun v => outcome_update.trans (hr v)).mono fun v hv => ⟨hv.1.1, ?_⟩
    exact fun hm => (List.mem_cons.1 hm).elim hv.1.2 hv.2

theorem Settled.updateAll (h : r.Settled recipe) (s : Surroundings) (us : List Uri) :
    (r.updateAll s us).1.Settled recipe := by
  induction us generalizing r with
  | nil => exact h
  | cons u us ih => exact ih (h.update s u)

/-- A review leaves no document late: one that is not reported comes to no diagnostics. -/
theorem reflects_review (h : r.channels.Reflects (r.outcome s) Late) (hr : r.registry.Resolves)
    (hn : r.registry.Named) :
    (r.review s).1.channels.Reflects (r.outcome s) fun _ => False := by
  -- a late document was not reported, so there are no findings about it
  have hall := reflects_updateAll h (fun _ => rfl) (separate_outcome hr hn) (s.reported r.workspace)
  refine ⟨hall.sound, fun u o ho hne => (hall.complete u o ho hne).imp_left fun hl => hl.2 ?_⟩
  refine s.mem_reported.2 <| Workspace.mem_reported_iff.2 fun hf => ?_
  refine hne (diagnostics_eq_nil_of_outcome ho fun g hg => ?_)
  rw [hg.uri_document hr hn, hf]

end Reconciler
end RecipeDiag
