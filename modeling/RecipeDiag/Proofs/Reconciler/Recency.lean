import Mathlib.Data.List.Induction
import RecipeDiag.Proofs.Reconciler.Locality
import RecipeDiag.Proofs.Reconciler.Transition

/-!
# Whose findings the channels show

Updates run side by side while findings are replaced and nothing else changes. An update takes the
findings about its document up once, and what it commits is their reconciliation, whatever happened
meanwhile (`Accounted`). The last update to commit has the last word: if some update that took the
latest findings up has committed, and no update that took others up has committed since, the entry is
the reconciliation of the latest findings (`entry_of_latest_findings`).

Nothing keeps an update that took older findings up from committing last (`entry_of_older_findings`).
-/

namespace RecipeDiag

namespace Reconciler
variable {r r' : Reconciler} {s : Surroundings} {u : Uri} {g g' : Reading} {l : Listing} {o : Outcome}

namespace Alike

theorem opening?_eq (h : r.Alike r') : r.opening? = r'.opening? := by
  funext u
  rw [opening?, h.registry, h.configuration, opening?]

theorem reading?_eq (h : r.Alike r') : r.reading? = r'.reading? := by
  funext o
  rw [reading?, h.registry, h.texts, reading?]

end Alike

/-- A recipe has one document to read in each language. -/
theorem Admits.eq_of_same_entry {u' : Uri} (h : r.Admits u g) (h' : r.Admits u' g')
    (hr : g'.opening.recipe = g.opening.recipe) (hl : g'.opening.language = g.opening.language) :
    g' = g := by
  obtain ⟨⟨recipe, language, threshold⟩, text, document⟩ := g
  obtain ⟨⟨recipe', language', threshold'⟩, text', document'⟩ := g'
  obtain rfl : recipe' = recipe := hr
  obtain rfl : language' = language := hl
  have hthreshold : threshold' = threshold := h'.threshold.trans h.threshold.symm
  have htext : text' = text := Option.some.inj (h'.text.symm.trans h.text)
  have hdocument : document' = document := Option.some.inj (h'.document.symm.trans h.document)
  rw [hthreshold, htext, hdocument]

/-- The document of some update was read as it is. -/
structure Reads (r : Reconciler) (s : Surroundings) (l : Listing) : Prop where
  admits : ∃ u, r.Admits u l.reading
  text : r.registry.read s.files l.reading.document.uri = .ok l.generatedText

end Reconciler

/-- All findings come to verdicts, and these to the outcome. -/
def Listing.ComesTo (l : Listing) (service : LanguageService) (fs : List Finding) (o : Outcome) : Prop :=
  ∃ vs, (fs.map fun f => (l.assignment.judge f).run service l.assignment.recipe) = vs.map .ok ∧
    o = l.outcome vs

namespace Reconciler
variable {r : Reconciler} {s : Surroundings} {u : Uri} {l : Listing} {o : Outcome}

theorem outcome_of_comesTo (hg : r.Admits u l.reading)
    (ht : r.registry.read s.files l.reading.document.uri = .ok l.generatedText)
    (h : l.ComesTo s.service (r.workspace.findingsOf l.reading.document.uri) o) :
    r.outcome s u = .ok (some o) := by
  obtain ⟨vs, hvs, rfl⟩ := h
  exact (outcome_eq_ok_iff hg).2 ⟨l.generatedText, vs, ht, Listing.verdicts_eq_ok_iff.2 hvs, rfl⟩

end Reconciler

namespace Concurrent
variable {c c' : Concurrent} {r : Reconciler} {s : Surroundings} {moves : List Move} {m : Move}
  {i : Nat} {u : Uri} {fs fs' : List Finding} {o : Outcome} {g : Reading}

theorem run_concat : c.run (moves ++ [m]) = (c.run moves).step m := by
  simp [run]

/-! ### Taking findings up -/

/-- In the move an update takes the findings about a document up. -/
def TakesUp (c : Concurrent) (i : Nat) (u : Uri) (fs : List Finding) (m : Move) : Prop :=
  ∃ l, c.activities[i]? = some (.update (.listing l)) ∧ l.reading.document.uri = u ∧
    c.reconciler.workspace.findingsOf u = fs ∧ ∃ chance s, m = .proceed i chance s

/-- In the course of the moves an update took the findings about a document up. -/
def TookUp (c : Concurrent) (moves : List Move) (i : Nat) (u : Uri) (fs : List Finding) : Prop :=
  ∃ before m, before ++ [m] <+: moves ∧ (c.run before).TakesUp i u fs m

theorem tookUp_concat : c.TookUp (moves ++ [m]) i u fs ↔
    (c.run moves).TakesUp i u fs m ∨ c.TookUp moves i u fs := by
  simp only [TookUp, List.prefix_concat_iff]
  constructor
  · rintro ⟨before, m', heq | hp, h⟩
    · obtain ⟨rfl, hm⟩ := List.append_inj' heq rfl
      cases hm
      exact .inl h
    · exact .inr ⟨before, m', hp, h⟩
  · rintro (h | ⟨before, m', hp, h⟩)
    · exact ⟨moves, m, .inl rfl, h⟩
    · exact ⟨before, m', .inr hp, h⟩

theorem TookUp.mono {moves' : List Move} (h : c.TookUp moves i u fs) (hp : moves <+: moves') :
    c.TookUp moves' i u fs := by
  obtain ⟨before, m, hb, ht⟩ := h
  exact ⟨before, m, hb.trans hp, ht⟩

theorem tookUp_concat_eq (h : ∀ u fs, ¬ (c.run moves).TakesUp i u fs m) :
    c.TookUp (moves ++ [m]) i = c.TookUp moves i := by
  funext u fs
  rw [tookUp_concat, or_iff_right (h u fs)]

theorem not_tookUp_nil : ¬ c.TookUp [] i u fs := by
  rintro ⟨before, m, hp, -⟩
  simp at hp

theorem TakesUp.lt (h : c.TakesUp i u fs m) : i < c.activities.length := by
  obtain ⟨l, hi, -⟩ := h
  exact (List.getElem?_eq_some_iff.1 hi).1

theorem TakesUp.eq_number (h : c.TakesUp i u fs m) {j : Nat} {u' : Uri} (h' : c.TakesUp j u' fs' m) :
    i = j := by
  obtain ⟨-, -, -, -, chance, s, rfl⟩ := h
  obtain ⟨-, -, -, -, chance', s', hm⟩ := h'
  cases hm
  rfl

theorem TakesUp.unique (h : c.TakesUp i u fs m) {u' : Uri} (h' : c.TakesUp i u' fs' m) :
    u = u' ∧ fs = fs' := by
  obtain ⟨l, hi, rfl, rfl, -⟩ := h
  obtain ⟨l', hi', rfl, rfl, -⟩ := h'
  rw [hi] at hi'
  cases hi'
  exact ⟨rfl, rfl⟩

/-! ### What an update has to show for itself -/

/-- What updates take up. -/
abbrev Taken : Type := Uri → List Finding → Prop

def Taken.IsNothing (t : Taken) : Prop := ∀ u fs, ¬ t u fs

/-- The findings about a document, and nothing else. -/
def Taken.IsExactly (t : Taken) (u : Uri) (fs : List Finding) : Prop :=
  ∀ u' fs', t u' fs' ↔ u' = u ∧ fs' = fs

/-- What an update has found out is so for the reconciler that all began with. When it commits, it
commits what the findings that it took up come to. -/
def Accounted (r : Reconciler) (s : Surroundings) (t : Taken) : UpdateStage → Prop
  | .begun _ => t.IsNothing
  | .opening o => t.IsNothing ∧ ∃ u, r.opening? u = some o
  | .reading g => t.IsNothing ∧ ∃ u, r.Admits u g
  | .listing l => t.IsNothing ∧ r.Reads s l
  | .judging l ps => r.Reads s l ∧ ∃ fs, t.IsExactly l.reading.document.uri fs ∧
      ps.map (Progress.finish s.service l.assignment.recipe) =
        fs.map fun f => (l.assignment.judge f).run s.service l.assignment.recipe
  | .committing o => ∃ l fs, r.Reads s l ∧ t.IsExactly l.reading.document.uri fs ∧
      l.ComesTo s.service fs o
  | .publishing _ | .handedOver _ | .ended _ | .aborted => True

namespace Accounted
variable {chance : Chance} {t t' : Taken} {r' r'' : Reconciler} {l : Listing} {stage stage' : UpdateStage}

/-- A stage in which nothing is taken up keeps the account. -/
theorem leads (h : Accounted r s t stage) (hr : r.Alike r')
    (hl : r'.Leads s chance stage r'' stage') (hne : ∀ l, stage ≠ .listing l) :
    Accounted r s t stage' := by
  cases hl with
  | @opens u o ho => exact ⟨h, u, (congrFun hr.opening?_eq u).trans ho⟩
  | @finds o g hg =>
    obtain ⟨hn, u, ho⟩ := h
    rw [← hr.reading?_eq] at hg
    exact ⟨hn, u, Reconciler.admits_iff.1 (Option.bind_eq_some_iff.2 ⟨o, ho, hg⟩)⟩
  | @lists g l hg =>
    obtain ⟨hn, u, hu⟩ := h
    obtain ⟨rfl, ht⟩ := Reconciler.listing_eq_ok_iff.1 hg
    exact ⟨hn, ⟨u, hu⟩, hr.registry ▸ ht⟩
  | takesUp => exact absurd rfl (hne _)
  | @asks l ps p hx hp =>
    obtain ⟨hread, fs, hfs, hps⟩ := h
    exact ⟨hread, fs, hfs, (Progress.map_finish_set r' hp).trans hps⟩
  | idles => exact h
  | @concludes l ps xs vs hx hvs =>
    obtain ⟨hread, fs, hfs, hps⟩ := h
    refine ⟨l, fs, hread, hfs, vs, ?_, rfl⟩
    rw [← hps, Progress.map_finish_of_mapM_result? hx]
    exact Reconciler.firstFailure_eq_ok_iff.1 hvs
  | rests hover => exact h
  | _ => trivial

/-- The update takes up what the findings about its document are now. -/
theorem takesUp (h : Accounted r s t (.listing l)) {w : Workspace}
    (ht : t'.IsExactly l.reading.document.uri (w.findingsOf l.reading.document.uri)) :
    Accounted r s t' (.judging l ((l.inquiries w).map .asking)) := by
  refine ⟨h.2, _, ht, ?_⟩
  rw [Listing.inquiries, List.map_map, List.map_map]
  rfl

end Accounted

/-- Every activity is an update that is accounted for. -/
def AllAccounted (r : Reconciler) (s : Surroundings) (t : Nat → Taken) (as : List Activity) : Prop :=
  ∀ i a, as[i]? = some a → ∃ stage, a = .update stage ∧ Accounted r s (t i) stage

namespace AllAccounted
variable {t t' : Nat → Taken} {as : List Activity} {stage : UpdateStage}

theorem append (h : AllAccounted r s t as) (hn : ∀ i, as[i]? = none → (t i).IsNothing) (us : List Uri) :
    AllAccounted r s t (as ++ us.map fun u => .update (.begun u)) := by
  intro i a hi
  rcases Nat.lt_or_ge i as.length with hlt | hge
  · exact h i a ((List.getElem?_append_left hlt).symm.trans hi)
  · have hi' := (List.getElem?_append_right hge).symm.trans hi
    obtain ⟨u, -, rfl⟩ := List.mem_map.1 (List.mem_of_getElem? hi')
    exact ⟨.begun u, rfl, hn i (List.getElem?_eq_none hge)⟩

theorem set (h : AllAccounted r s t as) (hne : ∀ j, j ≠ i → t' j = t j)
    (hs : Accounted r s (t' i) stage) : AllAccounted r s t' (as.set i (.update stage)) := by
  intro j a hj
  by_cases hji : j = i
  · subst hji
    obtain ⟨hlt, rfl⟩ := List.getElem?_eq_some_iff.1 hj
    exact ⟨stage, List.getElem_set_self .., hs⟩
  · rw [List.getElem?_set_ne (Ne.symm hji)] at hj
    rw [hne j hji]
    exact h j a hj

end AllAccounted

namespace Turn
variable {t t' : Nat → Taken}

theorem alike (h : Turn s c m c') (hr : r.Alike c.reconciler) : r.Alike c'.reconciler := by
  cases h with
  | goesOn hi hf h =>
    obtain ⟨hworkspace, hregistry, hconfiguration⟩ := h.reads_eq
    exact ⟨hr.registry.trans hregistry.symm, hr.configuration.trans hconfiguration.symm,
      fun u => (hr.texts u).trans (by rw [hworkspace])⟩
  | _ => exact ⟨hr.registry, hr.configuration, hr.texts⟩

theorem length_le (h : Turn s c m c') : c.activities.length ≤ c'.activities.length := by
  cases h <;> simp [begin]

/-- A move keeps the accounts, if they tell what is taken up in it. -/
theorem accounted (h : Turn s c m c') (hr : r.Alike c.reconciler)
    (hsame : ∀ i, (∀ u fs, ¬ c.TakesUp i u fs m) → t' i = t i)
    (htakes : ∀ i u fs, c.TakesUp i u fs m → (t i).IsNothing → (t' i).IsExactly u fs)
    (hnew : ∀ i, c.activities[i]? = none → (t i).IsNothing)
    (ha : AllAccounted r s t c.activities) : AllAccounted r s t' c'.activities := by
  -- only the update that takes findings up in the move gets another account
  by_cases hm : ∃ i u fs, c.TakesUp i u fs m
  · obtain ⟨j, u, fs, hj⟩ := hm
    have hne : ∀ i, i ≠ j → t' i = t i := fun i hij => hsame i fun u' fs' h => hij (h.eq_number hj)
    have hexactly := htakes j u fs hj
    obtain ⟨l, hl, rfl, rfl, chance, s', rfl⟩ := hj
    cases h with
    | goesOn hj hf h =>
      rw [hl] at hj
      cases hj
      cases h with
      | takesUp =>
        obtain ⟨stage, ⟨⟩, hstage⟩ := ha j _ hl
        exact ha.set hne (hstage.takesUp (hexactly hstage.1))
      | rests h => exact nomatch h
    | waits hj hf => exact nomatch hl.symm.trans hj
    | begins hm => simp at hm
    | misses hm hj =>
      rcases hm with hm | ⟨chance', hm⟩
      · exact nomatch hm
      · cases hm
        exact nomatch hl.symm.trans hj
  · have hsame : t' = t := funext fun i => hsame i fun u fs h => hm ⟨i, u, fs, h⟩
    subst hsame
    cases h with
    | begins => exact ha.append hnew _
    | @goesOn j chance stage stage' r' hj hf h =>
      obtain ⟨stage, ⟨⟩, hstage⟩ := ha j _ hj
      refine ha.set (fun _ _ => rfl) (hstage.leads hr h ?_)
      rintro l rfl
      exact hm ⟨j, _, _, l, hj, rfl, rfl, chance, s, rfl⟩
    | breaksOff hs =>
      refine ha.set (fun _ _ => rfl) ?_
      rcases hs with rfl | ⟨result, rfl⟩ <;> trivial
    | waits => exact ha
    | misses => exact ha
    | reports => exact ha

end Turn

/-! ### Runs of updates -/

/-- After the moves nothing that updates read has changed but findings, and every activity is an update
that is accounted for. -/
structure Sound (r : Reconciler) (s : Surroundings) (moves : List Move) : Prop where
  alike : r.Alike ((quiet r).run moves).reconciler
  lt : ∀ i u fs, (quiet r).TookUp moves i u fs → i < ((quiet r).run moves).activities.length
  accounted : AllAccounted r s ((quiet r).TookUp moves) ((quiet r).run moves).activities

namespace Sound

theorem nil : Sound r s [] where
  alike := ⟨rfl, rfl, fun _ => rfl⟩
  lt i u fs h := absurd h not_tookUp_nil
  accounted i a h := by simp [run, quiet] at h

theorem isNothing_of_none (h : Sound r s moves) (hi : ((quiet r).run moves).activities[i]? = none) :
    Taken.IsNothing ((quiet r).TookUp moves i) := by
  intro u fs ht
  have hlt := h.lt i u fs ht
  have hge := List.getElem?_eq_none_iff.1 hi
  omega

theorem turn (h : Sound r s moves) (hm : m.IsSteady s) :
    Turn s ((quiet r).run moves) m ((quiet r).run (moves ++ [m])) := by
  rw [run_concat]
  refine turn_step (fun a ha => ?_) hm
  obtain ⟨i, hi⟩ := List.mem_iff_getElem?.1 ha
  obtain ⟨stage, ha, -⟩ := h.accounted i a hi
  exact ⟨stage, ha⟩

theorem concat (h : Sound r s moves) (hm : m.IsSteady s) : Sound r s (moves ++ [m]) := by
  have hturn := h.turn hm
  refine ⟨hturn.alike h.alike, fun i u fs ht => ?_, ?_⟩
  · refine Nat.lt_of_lt_of_le ?_ hturn.length_le
    rcases tookUp_concat.1 ht with ht | ht
    · exact ht.lt
    · exact h.lt i u fs ht
  · refine hturn.accounted h.alike (fun i hno => tookUp_concat_eq hno) (fun i u fs htakes hn => ?_)
      (fun i hi => h.isNothing_of_none hi) h.accounted
    intro u' fs'
    rw [tookUp_concat, or_iff_left (hn u' fs')]
    exact ⟨fun h' => h'.unique htakes, fun ⟨hu, hfs⟩ => hu ▸ hfs ▸ htakes⟩

theorem run (hm : ∀ m ∈ moves, m.IsSteady s) : Sound r s moves := by
  induction moves using List.reverseRecOn with
  | nil => exact nil
  | append_singleton moves m ih =>
    exact (ih fun m' hm' => hm m' (by simp [hm'])).concat (hm m (by simp))

end Sound

/-! ### The last word -/

/-- In the move after `before` an update that took the findings about the document up makes their
reconciliation the entry. -/
def CommitsOf (c : Concurrent) (g : Reading) (fs : List Finding) (before : List Move) (m : Move) : Prop :=
  ∃ i o, (c.run before).Commits i o m ∧ o.recipe = g.opening.recipe ∧ o.language = g.opening.language ∧
    c.TookUp before i g.document.uri fs

/-- The outcome is the reconciliation of the findings about the document. -/
def Reconciles (r : Reconciler) (s : Surroundings) (g : Reading) (fs : List Finding) (o : Outcome) : Prop :=
  ∃ text, r.registry.read s.files g.document.uri = .ok text ∧
    (⟨g, text⟩ : Listing).ComesTo s.service fs o

/-- The channels' entry for the recipe and the language of a document. -/
def entryOf (c : Concurrent) (g : Reading) : Option (List Diagnostic) :=
  (c.reconciler.channels.channel g.opening.language).get? g.opening.recipe

/-- An outcome that is committed is the reconciliation of what the update took up. -/
theorem Sound.commits (h : Sound r s moves) (hg : r.Admits u g)
    (hc : ((quiet r).run moves).Commits i o m) (hrecipe : o.recipe = g.opening.recipe)
    (hlanguage : o.language = g.opening.language) :
    ∃ fs, Taken.IsExactly ((quiet r).TookUp moves i) g.document.uri fs ∧ Reconciles r s g fs o := by
  obtain ⟨stage, ⟨⟩, l, fs, ⟨⟨u', hu'⟩, ht⟩, hexactly, vs, hvs, rfl⟩ := h.accounted i _ hc.1
  obtain ⟨g', text⟩ := l
  obtain rfl : g' = g := hg.eq_of_same_entry hu' hrecipe hlanguage
  exact ⟨fs, hexactly, text, ht, vs, hvs, rfl⟩

theorem entryOf_of_commitsOf (h : Sound r s moves) (hm : m.IsSteady s) (hg : r.Admits u g)
    (hc : (quiet r).CommitsOf g fs moves m) :
    ∃ o, Reconciles r s g fs o ∧ ((quiet r).run (moves ++ [m])).entryOf g = some o.diagnostics := by
  obtain ⟨i, o, hc, hrecipe, hlanguage, htook⟩ := hc
  obtain ⟨fs', hexactly, ho⟩ := h.commits hg hc hrecipe hlanguage
  -- an update takes findings up once, so these are the ones
  obtain ⟨-, rfl⟩ := (hexactly _ _).1 htook
  refine ⟨o, ho, ?_⟩
  rw [entryOf, (h.turn hm).channels_of_commits hc, Channels.get?_channel_set,
    if_pos ⟨hlanguage.symm, hrecipe.symm⟩]

/-- A move changes the entry only if in it an update commits for the entry. -/
theorem entryOf_concat (h : Sound r s moves) (hm : m.IsSteady s) (hg : r.Admits u g)
    (hno : ∀ fs, ¬ (quiet r).CommitsOf g fs moves m) :
    ((quiet r).run (moves ++ [m])).entryOf g = ((quiet r).run moves).entryOf g := by
  by_cases hc : ∃ i o, ((quiet r).run moves).Commits i o m
  · obtain ⟨i, o, hc⟩ := hc
    rw [entryOf, (h.turn hm).channels_of_commits hc, Channels.get?_channel_set, if_neg, entryOf]
    rintro ⟨hlanguage, hrecipe⟩
    obtain ⟨fs, hexactly, -⟩ := h.commits hg hc hrecipe.symm hlanguage.symm
    exact hno fs ⟨i, o, hc, hrecipe.symm, hlanguage.symm, (hexactly _ _).2 ⟨rfl, rfl⟩⟩
  · rw [entryOf, (h.turn hm).channels_eq fun i o hc' => hc ⟨i, o, hc'⟩, entryOf]

/-- An entry stays the reconciliation of the same findings as long as no update that took others up
commits. -/
theorem entryOf_of_commits_since (hm : ∀ m ∈ moves, m.IsSteady s) (hg : r.Admits u g)
    {before : List Move} (hp : before ++ [m] <+: moves) (hc : (quiet r).CommitsOf g fs before m)
    (hsince : ∀ before' m' fs', before ++ [m] <+: before' → before' ++ [m'] <+: moves →
      (quiet r).CommitsOf g fs' before' m' → fs' = fs) :
    ∃ o, Reconciles r s g fs o ∧ ((quiet r).run moves).entryOf g = some o.diagnostics := by
  -- the last move either is the commit, or commits again for the entry, or leaves the entry alone
  induction moves using List.reverseRecOn with
  | nil => simp at hp
  | append_singleton moves m' ih =>
    have hsteady : ∀ m ∈ moves, m.IsSteady s := fun m hm' => hm m (by simp [hm'])
    have hm' : m'.IsSteady s := hm m' (by simp)
    rcases List.prefix_concat_iff.1 hp with heq | hp
    · obtain ⟨rfl, hlast⟩ := List.append_inj' heq rfl
      cases hlast
      exact entryOf_of_commitsOf (.run hsteady) hm' hg hc
    · by_cases hlater : ∃ fs', (quiet r).CommitsOf g fs' moves m'
      · obtain ⟨fs', hc'⟩ := hlater
        obtain rfl := hsince moves m' fs' hp (List.prefix_refl _) hc'
        exact entryOf_of_commitsOf (.run hsteady) hm' hg hc'
      · rw [entryOf_concat (.run hsteady) hm' hg fun fs' hc' => hlater ⟨fs', hc'⟩]
        refine ih hsteady hp fun before' m'' fs' hb hb' => ?_
        exact hsince before' m'' fs' hb (hb'.trans (List.prefix_append ..))

/-- However updates and reviews of documents are interleaved with reports that replace findings, begin,
go on or are broken off: if an update that took the latest findings about a document up has committed,
and no update that took others up has committed since, then the entry for its recipe and language is
the reconciliation of the latest findings. -/
theorem entry_of_latest_findings (r : Reconciler) (s : Surroundings) (moves : List Move)
    (hm : ∀ m ∈ moves, m.IsSteady s) (u : Uri) (g : Reading) (hg : r.Admits u g) :
    let c := (quiet r).run moves
    let latest := c.reconciler.workspace.findingsOf g.document.uri
    ∀ before m, before ++ [m] <+: moves → (quiet r).CommitsOf g latest before m →
      (∀ before' m' fs, before ++ [m] <+: before' → before' ++ [m'] <+: moves →
        (quiet r).CommitsOf g fs before' m' → fs = latest) →
      ∃ o, c.reconciler.outcome s u = .ok (some o) ∧ c.entryOf g = some o.diagnostics := by
  intro c latest before m hp hc hsince
  obtain ⟨o, ⟨text, ht, hcomes⟩, hentry⟩ := entryOf_of_commits_since hm hg hp hc hsince
  have halike : r.Alike c.reconciler := (Sound.run hm).alike
  refine ⟨o, ?_, hentry⟩
  exact Reconciler.outcome_of_comesTo (l := ⟨g, text⟩) (halike.admits hg) (halike.registry ▸ ht) hcomes

/-! ### A review that is overtaken -/

namespace Sample
open Reconciler.Sample

/-- An activity goes on, each time with the inquiry chosen. -/
def goOn (i : Nat) (choices : List Nat) : List Move :=
  choices.map fun index => .proceed i (pick index) surroundings

/-- A review takes the two findings about the script up. Then these are replaced by none, and an update
takes that up. -/
def bothUnderWay : List Move :=
  .review surroundings :: goOn 0 [0, 0, 0, 0] ++
    .edit (.setFindings script []) :: .update script :: goOn 1 [0, 0, 0, 0]

/-- The review commits and ends, then the update concludes. -/
def reviewFirst : List Move := bothUnderWay ++ goOn 0 [0, 0, 1, 0, 0, 0] ++ goOn 1 [0]

/-- The update concludes, commits and ends, and then the review does. -/
def reviewLast : List Move := bothUnderWay ++ goOn 1 [0] ++ goOn 1 [0, 0] ++ goOn 0 [0, 0, 1, 0, 0, 0]

def reading : Reading := ⟨⟨recipe, .bash, 7⟩, "cp $A", document⟩

theorem admits_reading : idle.Admits script reading := ⟨rfl, rfl, rfl, rfl, rfl, rfl⟩

/-- The script is all that there is to review. -/
theorem run_review (moves : List Move) :
    (quiet idle).run (.review surroundings :: moves) = (quiet idle).run (.update script :: moves) := by
  have h : surroundings.reported idle.workspace = [script] := by decide +kernel
  have hstep : (quiet idle).step (.review surroundings) = (quiet idle).step (.update script) := by
    simp only [step, quiet, h, List.map_cons, List.map_nil]
  simp only [run, List.foldl_cons, hstep]

theorem tookUp_bothUnderWay : (quiet idle).TookUp bothUnderWay 1 script [] := by
  refine ⟨.review surroundings :: goOn 0 [0, 0, 0, 0] ++
    .edit (.setFindings script []) :: .update script :: goOn 1 [0, 0, 0], .proceed 1 (pick 0) surroundings,
    List.prefix_refl _, ⟨reading, "cp $"⟩, ?_, rfl, ?_, pick 0, surroundings, rfl⟩
  · rw [List.cons_append, run_review]
    rfl
  · rw [List.cons_append, run_review]
    rfl

/-- Once it has concluded, the update commits what no findings come to. -/
theorem commitsOf_goOn {before : List Move} (hp : bothUnderWay <+: before)
    (hi : ((quiet idle).run before).activities[1]? = some (.update (.committing ⟨recipe, .bash, []⟩)))
    (hfree : ((quiet idle).run before).isFree recipe) :
    (quiet idle).CommitsOf reading [] before (.proceed 1 (pick 0) surroundings) :=
  ⟨1, ⟨recipe, .bash, []⟩, ⟨hi, hfree, pick 0, surroundings, rfl⟩, rfl, rfl, tookUp_bothUnderWay.mono hp⟩

end Sample

open Reconciler.Sample Sample in
theorem entry_of_latest_findings_of_script :
    ∃ o, ((quiet idle).run (reviewFirst ++ goOn 1 [0, 0])).reconciler.outcome surroundings script =
      .ok (some o) ∧ ((quiet idle).run (reviewFirst ++ goOn 1 [0, 0])).entryOf reading = some o.diagnostics := by
  have hsteady : ∀ m ∈ reviewFirst ++ goOn 1 [0, 0], m.IsSteady surroundings := by
    simp [reviewFirst, bothUnderWay, goOn, Move.IsSteady]
  have hlatest : ((quiet idle).run (reviewFirst ++ goOn 1 [0, 0])).reconciler.workspace.findingsOf
      reading.document.uri = [] := by
    decide +kernel
  have hi : ((quiet idle).run reviewFirst).activities[1]? =
      some (.update (.committing ⟨recipe, .bash, []⟩)) := (congrArg (·.activities[1]?) (run_review _)).trans rfl
  have hfree : ((quiet idle).run reviewFirst).isFree recipe := by decide +kernel
  refine entry_of_latest_findings idle surroundings _ hsteady script reading admits_reading reviewFirst
    (.proceed 1 (pick 0) surroundings) ⟨[.proceed 1 (pick 0) surroundings], by simp [goOn]⟩ ?_ ?_
  · rw [hlatest]
    exact commitsOf_goOn ⟨_, (List.append_assoc ..).symm⟩ hi hfree
  · -- what is left is to let go of the recipe
    rintro before' m' fs hb hb' ⟨i, o, ⟨hi', -, chance, s', rfl⟩, -⟩
    have hsplit : reviewFirst ++ goOn 1 [0, 0] =
        (reviewFirst ++ goOn 1 [0]) ++ [.proceed 1 (pick 0) surroundings] := by simp [goOn]
    rw [hsplit, List.prefix_concat_iff] at hb'
    rcases hb' with heq | hb'
    · obtain ⟨rfl, hm⟩ := List.append_inj' heq rfl
      cases hm
      have hshown : ((quiet idle).run (reviewFirst ++ goOn 1 [0])).activities[1]? =
          some (.update (.handedOver recipe)) :=
        (congrArg (·.activities[1]?) (run_review _)).trans rfl
      exact nomatch hshown.symm.trans hi'
    · have hle := hb.length_le
      have hle' := hb'.length_le
      simp only [List.length_append, goOn, List.length_map, List.length_singleton] at hle hle'
      omega

open Reconciler.Sample Sample in
/-- The review took the older findings up, and commits after the update that took the latest up. -/
theorem entry_of_older_findings :
    ¬ ∀ (r : Reconciler) (s : Surroundings) (moves : List Move) (u : Uri) (g : Reading), r.Admits u g →
      (∀ recipe p, (∃ l, s.service.languageAt recipe p = .ok l) ∧
        ∃ ls, s.service.definitions recipe p = .ok ls) →
      (∀ m ∈ moves, m = .update u ∨ m = .review s ∨ (∃ i chance, m = .proceed i chance s) ∨
        ∃ fs, m = .edit (.setFindings g.document.uri fs)) →
      let c := (quiet r).run moves
      let latest := c.reconciler.workspace.findingsOf g.document.uri
      (∃ before m, before ++ [m] <+: moves ∧ (quiet r).CommitsOf g latest before m) → c.isQuiet →
        ∃ o, c.reconciler.outcome s u = .ok (some o) ∧ c.entryOf g = some o.diagnostics := by
  intro h
  have hmoves : ∀ m ∈ reviewLast, m = .update script ∨ m = .review surroundings ∨
      (∃ i chance, m = .proceed i chance surroundings) ∨
        ∃ fs, m = .edit (.setFindings reading.document.uri fs) := by
    have huri : reading.document.uri = script := rfl
    simp [reviewLast, bothUnderWay, goOn, huri]
  have hlatest : ((quiet idle).run reviewLast).reconciler.workspace.findingsOf
      reading.document.uri = [] := by
    decide +kernel
  have hi : ((quiet idle).run (bothUnderWay ++ goOn 1 [0])).activities[1]? =
      some (.update (.committing ⟨recipe, .bash, []⟩)) := (congrArg (·.activities[1]?) (run_review _)).trans rfl
  have hcommits : (quiet idle).CommitsOf reading [] (bothUnderWay ++ goOn 1 [0])
      (.proceed 1 (pick 0) surroundings) :=
    commitsOf_goOn (List.prefix_append ..) hi (by decide +kernel)
  have hprefix : bothUnderWay ++ goOn 1 [0] ++ [.proceed 1 (pick 0) surroundings] <+: reviewLast :=
    ⟨goOn 1 [0] ++ goOn 0 [0, 0, 1, 0, 0, 0], by simp [reviewLast, goOn]⟩
  obtain ⟨o, ho, hentry⟩ := h idle surroundings reviewLast script reading admits_reading
    (fun _ _ => ⟨⟨_, rfl⟩, _, rfl⟩) hmoves ⟨_, _, hprefix, hlatest ▸ hcommits⟩ (by decide +kernel)
  have hnone : ((quiet idle).run reviewLast).reconciler.outcome surroundings script =
      .ok (some ⟨recipe, .bash, []⟩) :=
    (congrArg (·.reconciler.outcome surroundings script) (run_review _)).trans rfl
  cases hnone.symm.trans ho
  exact absurd hentry (by decide +kernel)

end Concurrent
end RecipeDiag
