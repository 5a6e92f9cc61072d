import RecipeDiag.Proofs.Reconciler.Operation
import RecipeDiag.Proofs.Reconciler.Recency
import RecipeDiag.Proofs.Reconciler.Reflection

/-!
# What a set of updates makes of what is shown

Documents may share an entry of the channels, but then they come to the same outcome
(`coherent_outcome`). So all that counts is which documents have been updated: the entries of their
outcomes are replaced and all others kept, and the last set published for a recipe is what its two
entries hold in the end (`Reconciler.Renews`). Neither the order of the updates nor how often one is
made leaves a trace (`Renews.agree`).
-/

namespace RecipeDiag

/-- The last of the publications that is for a recipe. -/
def Publication.last? (ps : List Publication) (recipe : Uri) : Option Publication :=
  ps.reverse.find? fun p => p.recipe = recipe

theorem Publication.last?_concat (ps : List Publication) (p : Publication) (recipe : Uri) :
    last? (ps ++ [p]) recipe = if p.recipe = recipe then some p else last? ps recipe := by
  rw [last?, List.reverse_append, List.reverse_singleton, List.singleton_append, List.find?_cons]
  by_cases h : p.recipe = recipe
  · simp [h]
  · simp [h, last?]

namespace Outcomes

/-- Outcomes for the same recipe and language are the same. -/
def Coherent (out : Outcomes) : Prop :=
  ∀ u v o o', out u = .ok (some o) → out v = .ok (some o') →
    o'.recipe = o.recipe → o'.language = o.language → o' = o

/-- One of the documents comes to an outcome for the recipe. -/
def Reaches (out : Outcomes) (Done : Uri → Prop) (recipe : Uri) : Prop :=
  ∃ u o, Done u ∧ out u = .ok (some o) ∧ o.recipe = recipe

variable {out : Outcomes} {Done Done' : Uri → Prop} {u recipe : Uri} {o : Outcome}

theorem reaches_congr (hd : ∀ v, Done' v ↔ Done v) : out.Reaches Done' recipe ↔ out.Reaches Done recipe := by
  simp only [Reaches, hd]

theorem reaches_or_eq (hu : out u = .ok (some o)) :
    out.Reaches (fun v => Done v ∨ v = u) recipe ↔ out.Reaches Done recipe ∨ o.recipe = recipe := by
  constructor
  · rintro ⟨v, o', hv | rfl, ho, hr⟩
    · exact .inl ⟨v, o', hv, ho, hr⟩
    · cases hu.symm.trans ho
      exact .inr hr
  · rintro (⟨v, o', hv, ho, hr⟩ | hr)
    · exact ⟨v, o', .inl hv, ho, hr⟩
    · exact ⟨u, o, .inr rfl, hu, hr⟩

theorem reaches_or_eq_of_none (hu : ∀ o, out u ≠ .ok (some o)) :
    out.Reaches (fun v => Done v ∨ v = u) recipe ↔ out.Reaches Done recipe := by
  constructor
  · rintro ⟨v, o', hv | rfl, ho, hr⟩
    · exact ⟨v, o', hv, ho, hr⟩
    · exact absurd ho (hu o')
  · rintro ⟨v, o', hv, ho, hr⟩
    exact ⟨v, o', .inl hv, ho, hr⟩

end Outcomes

namespace Channels
variable {c c₁ c₂ : Channels} {out : Outcomes} {Done Done' : Uri → Prop} {u : Uri} {o : Outcome}

/-- The outcomes of some documents have become entries, and all other entries are what they were. -/
structure Renewed (c : Channels) (out : Outcomes) (Done : Uri → Prop) (c₁ : Channels) : Prop where
  replaced : ∀ u o, Done u → out u = .ok (some o) →
    (c₁.channel o.language).get? o.recipe = some o.diagnostics
  kept : ∀ l recipe, (∀ u o, Done u → out u = .ok (some o) → o.language = l → o.recipe ≠ recipe) →
    (c₁.channel l).get? recipe = (c.channel l).get? recipe

namespace Renewed

theorem none : c.Renewed out (fun _ => False) c := ⟨fun _ _ h => h.elim, fun _ _ _ => rfl⟩

theorem set (h : c.Renewed out Done c₁) (hout : out.Coherent) (hu : out u = .ok (some o)) :
    c.Renewed out (fun v => Done v ∨ v = u) (c₁.set o.language o.recipe o.diagnostics) where
  replaced v o' hv ho' := by
    rw [get?_channel_set]
    split
    · next hk => rw [hout u v o o' hu ho' hk.2 hk.1]
    · next hk =>
      rcases hv with hv | rfl
      · exact h.replaced v o' hv ho'
      · cases hu.symm.trans ho'
        exact absurd ⟨rfl, rfl⟩ hk
  kept l recipe hno := by
    rw [get?_channel_set, if_neg]
    · exact h.kept l recipe fun v o' hv => hno v o' (.inl hv)
    · rintro ⟨rfl, rfl⟩
      exact hno u o (.inr rfl) hu rfl rfl

/-- A document that comes to no outcome leaves no trace. -/
theorem pass (h : c.Renewed out Done c₁) (hu : ∀ o, out u ≠ .ok (some o)) :
    c.Renewed out (fun v => Done v ∨ v = u) c₁ where
  replaced v o hv ho := by
    rcases hv with hv | rfl
    · exact h.replaced v o hv ho
    · exact absurd ho (hu o)
  kept l recipe hno := h.kept l recipe fun v o hv => hno v o (.inl hv)

theorem congr (h : c.Renewed out Done c₁) (hd : ∀ v, Done' v ↔ Done v) : c.Renewed out Done' c₁ where
  replaced v o hv := h.replaced v o ((hd v).1 hv)
  kept l recipe hno := h.kept l recipe fun v o hv => hno v o ((hd v).2 hv)

/-- Who has been updated determines every entry. -/
theorem get?_eq (h₁ : c.Renewed out Done c₁) (h₂ : c.Renewed out Done c₂) (l : Language) (recipe : Uri) :
    (c₁.channel l).get? recipe = (c₂.channel l).get? recipe := by
  by_cases hr : ∃ u o, Done u ∧ out u = .ok (some o) ∧ o.language = l ∧ o.recipe = recipe
  · obtain ⟨u, o, hu, ho, rfl, rfl⟩ := hr
    rw [h₁.replaced u o hu ho, h₂.replaced u o hu ho]
  · have hno : ∀ u o, Done u → out u = .ok (some o) → o.language = l → o.recipe ≠ recipe :=
      fun u o hu ho hl hrecipe => hr ⟨u, o, hu, ho, hl, hrecipe⟩
    rw [h₁.kept l recipe hno, h₂.kept l recipe hno]

end Renewed
end Channels

namespace Reconciler
variable {r r₁ r₂ : Reconciler} {s : Surroundings} {u v recipe : Uri} {g g' : Reading} {o : Outcome}
  {out : Outcomes} {Done Done' : Uri → Prop}

/-- Some documents have been updated since. -/
structure Renews (r : Reconciler) (out : Outcomes) (Done : Uri → Prop) (r₁ : Reconciler) : Prop where
  entries : r.channels.Renewed out Done r₁.channels
  shown : ∃ ps, r₁.published = r.published ++ ps ∧ ∀ recipe p, Publication.last? ps recipe = some p ↔
    p = r₁.holding recipe ∧ out.Reaches Done recipe

/-- Two reconcilers that have gone on from a third have the same entries, and the last set that they
have published for a recipe since is the same, if there is one. -/
structure AgreeSince (r r₁ r₂ : Reconciler) : Prop where
  entries : ∀ l recipe, (r₁.channels.channel l).get? recipe = (r₂.channels.channel l).get? recipe
  shown : ∃ ps₁ ps₂, r₁.published = r.published ++ ps₁ ∧ r₂.published = r.published ++ ps₂ ∧
    ∀ recipe, Publication.last? ps₁ recipe = Publication.last? ps₂ recipe

/-! ### Documents that share an entry -/

theorem outcome_eq_of_same_entry (hu : r.Admits u g) (hv : r.Admits v g')
    (hrecipe : g'.opening.recipe = g.opening.recipe)
    (hlanguage : g'.opening.language = g.opening.language) : r.outcome s v = r.outcome s u := by
  obtain rfl : g' = g := hu.eq_of_same_entry hv hrecipe hlanguage
  rw [outcome_of_admits hu, outcome_of_admits hv]

theorem coherent_outcome : Outcomes.Coherent (r.outcome s) := by
  intro u v o o' ho ho' hrecipe hlanguage
  obtain ⟨g, hg, hgr, hgl⟩ := admits_of_outcome ho
  obtain ⟨g', hg', hgr', hgl'⟩ := admits_of_outcome ho'
  have hsame := outcome_eq_of_same_entry (s := s) hg hg' (by rw [← hgr', hrecipe, hgr])
    (by rw [← hgl', hlanguage, hgl])
  rw [ho, ho'] at hsame
  exact Option.some.inj (Except.ok.inj hsame)

theorem snd_update_eq : (r.update s u).2 = (r.outcome s u).map fun _ => () := by
  obtain ⟨st, as, h⟩ := update_eq r s u
  rw [h]

/-! ### One update after the other -/

namespace Renews

theorem none : r.Renews out (fun _ => False) r where
  entries := .none
  shown := by
    refine ⟨[], by simp, fun recipe p => ⟨fun h => absurd h (by simp [Publication.last?]), ?_⟩⟩
    rintro ⟨-, u, o, hu, -⟩
    exact hu.elim

theorem congr (h : r.Renews out Done r₁) (hd : ∀ v, Done' v ↔ Done v) : r.Renews out Done' r₁ where
  entries := h.entries.congr hd
  shown := by
    obtain ⟨ps, hps, hlast⟩ := h.shown
    refine ⟨ps, hps, fun recipe p => ?_⟩
    rw [Outcomes.reaches_congr hd]
    exact hlast recipe p

theorem settle (h : r.Renews out Done r₁) (hout : out.Coherent) (hu : out u = .ok (some o)) :
    r.Renews out (fun v => Done v ∨ v = u) (r₁.settle o) where
  entries := h.entries.set hout hu
  shown := by
    obtain ⟨ps, hps, hlast⟩ := h.shown
    refine ⟨ps ++ [(r₁.settle o).holding o.recipe], ?_, fun recipe p => ?_⟩
    · rw [published_settle, hps, List.append_assoc]
      rfl
    · rw [Publication.last?_concat, Outcomes.reaches_or_eq hu]
      show (if o.recipe = recipe then _ else _) = _ ↔ _
      by_cases hr : o.recipe = recipe
      · subst hr
        simp [eq_comm]
      · -- what is held for another recipe has not changed
        have hsame : (r₁.settle o).holding recipe = r₁.holding recipe := by
          refine congrArg (Publication.mk recipe) (Channels.merged_congr fun l => ?_)
          rw [get?_channel_settle, if_neg fun hk => hr hk.2.symm]
        rw [if_neg hr, or_iff_left hr, hsame]
        exact hlast recipe p

theorem pass (h : r.Renews out Done r₁) (hu : ∀ o, out u ≠ .ok (some o)) :
    r.Renews out (fun v => Done v ∨ v = u) r₁ where
  entries := h.entries.pass hu
  shown := by
    obtain ⟨ps, hps, hlast⟩ := h.shown
    refine ⟨ps, hps, fun recipe p => ?_⟩
    rw [Outcomes.reaches_or_eq_of_none hu]
    exact hlast recipe p

theorem update (h : r.Renews out Done r₁) (hout : out.Coherent) (heq : r₁.outcome s u = out u) :
    r.Renews out (fun v => Done v ∨ v = u) (r₁.update s u).1 := by
  obtain ⟨st, as, hu⟩ := update_eq r₁ s u
  have htake : r.Renews out (fun v => Done v ∨ v = u) (r₁.takeOver (r₁.outcome s u)) := by
    unfold takeOver
    split
    · next o ho => exact h.settle hout (heq ▸ ho)
    · next hno => exact h.pass fun o ho => hno o (heq.trans ho)
  rw [hu]
  exact ⟨htake.entries, htake.shown⟩

theorem updateAll (h : r.Renews out Done r₁) (hout : out.Coherent) (heq : ∀ u, r₁.outcome s u = out u)
    (us : List Uri) : r.Renews out (fun v => Done v ∨ v ∈ us) (r₁.updateAll s us).1 := by
  induction us generalizing r₁ Done with
  | nil => exact h.congr fun v => by simp
  | cons u us ih =>
    have hrest := ih (h.update hout (heq u)) fun v => outcome_update.trans (heq v)
    exact hrest.congr fun v => by rw [List.mem_cons, or_assoc]

theorem agree (h₁ : r.Renews out Done r₁) (h₂ : r.Renews out Done r₂) : r.AgreeSince r₁ r₂ where
  entries := h₁.entries.get?_eq h₂.entries
  shown := by
    obtain ⟨ps₁, hps₁, hlast₁⟩ := h₁.shown
    obtain ⟨ps₂, hps₂, hlast₂⟩ := h₂.shown
    refine ⟨ps₁, ps₂, hps₁, hps₂, fun recipe => Option.ext fun p => ?_⟩
    have hmerged : r₁.holding recipe = r₂.holding recipe := by
      rw [holding, holding, Channels.merged_congr fun l => h₁.entries.get?_eq h₂.entries l recipe]
    rw [hlast₁, hlast₂, hmerged]

end Renews

theorem renews_updateAll (r : Reconciler) (s : Surroundings) (us : List Uri) :
    r.Renews (r.outcome s) (· ∈ us) (r.updateAll s us).1 :=
  (Renews.none.updateAll coherent_outcome (fun _ => rfl) us).congr fun v => by simp

/-- Each of the updates ends as it would by itself. -/
theorem snd_updateAll (r : Reconciler) (s : Surroundings) (us : List Uri) :
    (r.updateAll s us).2 = us.map fun u => (r.update s u).2 := by
  have general (us : List Uri) : ∀ r₁ : Reconciler, (∀ u, r₁.outcome s u = r.outcome s u) →
      (r₁.updateAll s us).2 = us.map fun u => (r.update s u).2 := by
    induction us with
    | nil => exact fun _ _ => rfl
    | cons u us ih =>
      intro r₁ h
      rw [snd_updateAll_cons, ih _ fun v => outcome_update.trans (h v), snd_update_eq, h, ← snd_update_eq,
        List.map_cons]
  exact general us r fun _ => rfl

end Reconciler
end RecipeDiag
