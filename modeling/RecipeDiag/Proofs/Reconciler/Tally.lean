import Mathlib.Algebra.Ring.Nat
import RecipeDiag.Proofs.Reconciler.ReviewOrder

/-!
# What updates count

`Statistics.Gains` tells what was counted and timed since. What the update of a document counts, and whether
it is timed (`Reconciler.tally`), depends only on what updates read, so the updates of a list of documents
count the same in whatever order they are made (`gains_updateAll`). While they run side by side each has
counted so far what its stage tells (`UpdateStage.tally`, `Leads.gains`), which adds up to the same once all
have ended (`counts_of_review_side_by_side`).
-/

namespace RecipeDiag

/-! ### Statistics that grow -/

/-- Names were counted, each as often as it occurs, and updates were timed. -/
structure Statistics.Gains (st st' : Statistics) (names : List String) (times : Nat) : Prop where
  enabled : st'.enabled = true
  counter : ∀ name, st'.counter name = st.counter name + UInt64.ofNat (names.count name)
  durations : (st'.durations updateOperation).length = (st.durations updateOperation).length + times

namespace Statistics
variable {st st' st'' : Statistics} {name : String} {names names' : List String} {times times' : Nat}

namespace Gains

theorem refl (h : st.enabled = true) : st.Gains st [] 0 := ⟨h, fun _ => by simp, rfl⟩

theorem trans (h : st.Gains st' names times) (h' : st'.Gains st'' names' times') :
    st.Gains st'' (names ++ names') (times + times') where
  enabled := h'.enabled
  counter name := by
    rw [h'.counter, h.counter, List.count_append, UInt64.ofNat_add, UInt64.add_assoc]
  durations := by
    rw [h'.durations, h.durations, Nat.add_assoc]

/-- Only how often each name occurs matters. -/
theorem congr (h : st.Gains st' names times) (hc : ∀ name, names'.count name = names.count name) :
    st.Gains st' names' times :=
  ⟨h.enabled, fun name => by rw [hc]; exact h.counter name, h.durations⟩

theorem increment (h : st.enabled = true) (name : String) (n : Nat) :
    st.Gains (st.increment name (UInt64.ofNat n)) (List.replicate n name) 0 where
  enabled := enabled_increment.trans h
  counter name' := by
    rw [counter_increment h, List.count_replicate]
    by_cases hn : name' = name
    · simp [hn]
    · simp [hn, Ne.symm hn]
  durations := by rw [durations_increment, Nat.add_zero]

theorem record (h : st.enabled = true) (nanos : Nat) : st.Gains (st.record updateOperation nanos) [] 1 where
  enabled := enabled_record.trans h
  counter name := by
    rw [counter_record]
    simp
  durations := by
    rw [durations_record h, if_pos rfl, List.length_append, List.length_singleton]

end Gains
end Statistics

/-! ### What an update counts -/

/-- The names that are counted, each as often as it occurs, and how often an update is timed. -/
structure Tally where
  names : List String
  times : Nat

/-- What is counted as soon as an inquiry has ended. -/
def Verdict.counterOf? : Except Fault Verdict → Option String
  | .ok v => v.counter?
  | .error _ => none

namespace Listing

/-- How the inquiries about all findings end. -/
def results (l : Listing) (w : Workspace) (service : LanguageService) : List (Except Fault Verdict) :=
  (l.inquiries w).map (·.run service l.reading.opening.recipe)

/-- What is counted for the findings, the diagnostics among it if no finding fails. -/
def names (l : Listing) (w : Workspace) (service : LanguageService) : List String :=
  (l.results w service).filterMap Verdict.counterOf? ++
    match Reconciler.firstFailure (l.results w service) with
    | .ok vs => List.replicate (l.outcome vs).diagnostics.length Statistics.published
    | .error _ => []

end Listing

namespace Reconciler
variable {r r' r'' : Reconciler} {s : Surroundings} {u : Uri} {g : Reading} {l : Listing} {chance : Chance}
  {stage stage' : UpdateStage}

/-- What the update of a document counts, and whether it is timed. -/
def tally (r : Reconciler) (s : Surroundings) (u : Uri) : Tally :=
  match (r.opening? u).bind r.reading? with
  | none => ⟨[], 0⟩
  | some g =>
    match r.listing s.files g with
    | .error _ => ⟨[], 1⟩
    | .ok l => ⟨l.names r.workspace s.service, 1⟩

theorem tally_of_skips (h : r.Skips u) : r.tally s u = ⟨[], 0⟩ := by
  unfold tally
  rw [skips_iff.2 h]

theorem tally_of_unreadable {e : Fault} (hg : r.Admits u g) (h : r.listing s.files g = .error e) :
    r.tally s u = ⟨[], 1⟩ := by
  unfold tally
  simp only [admits_iff.2 hg, h]

theorem tally_of_listing (hg : r.Admits u g) (h : r.listing s.files g = .ok l) :
    r.tally s u = ⟨l.names r.workspace s.service, 1⟩ := by
  unfold tally
  simp only [admits_iff.2 hg, h]

theorem times_tally (hg : r.Admits u g) : (r.tally s u).times = 1 := by
  cases h : r.listing s.files g with
  | error e => rw [tally_of_unreadable hg h]
  | ok l => rw [tally_of_listing hg h]

theorem tally_congr (h : r.SameView r') : r'.tally s u = r.tally s u := by
  unfold tally listing
  rw [h.alike.opening?_eq, h.alike.reading?_eq, h.registry, h.workspace]

theorem gains_countVerdict {st : Statistics} (hr : r.statistics = st) (h : st.enabled = true)
    (v : Verdict) : st.Gains (r.countVerdict v).statistics v.counter?.toList 0 := by
  subst hr
  unfold countVerdict
  cases v.counter? with
  | none => exact .refl h
  | some name => exact .increment h name 1

theorem gains_inquireAll {service : LanguageService} {recipe : Uri} {qs : List (Inquiry Verdict)}
    (h : r.statistics.enabled = true) : r.statistics.Gains (r.inquireAll service recipe qs).1.statistics
      ((qs.map (·.run service recipe)).filterMap Verdict.counterOf?) 0 := by
  induction qs generalizing r with
  | nil => exact .refl h
  | cons q qs ih =>
    have hone : r.statistics.Gains (r.inquire service recipe q).1.statistics
        (Verdict.counterOf? (q.run service recipe)).toList 0 := by
      simp only [inquire, foldl_ask]
      cases q.run service recipe with
      | ok v =>
        refine gains_countVerdict ?_ h v
        rfl
      | error e => exact .refl h
    refine (hone.trans (ih hone.enabled)).congr fun name => ?_
    rw [List.map_cons, List.filterMap_cons]
    cases Verdict.counterOf? (q.run service recipe) <;> simp [List.count_cons]

theorem gains_judgeAll (h : r.statistics.enabled = true) (l : Listing) :
    r.statistics.Gains (r.judgeAll s l).1.statistics (l.names r.workspace s.service) 0 := by
  have hinquired : r.statistics.Gains
      (r.inquireAll s.service l.reading.opening.recipe (l.inquiries r.workspace)).1.statistics
      ((l.results r.workspace s.service).filterMap Verdict.counterOf?) 0 := gains_inquireAll h
  obtain ⟨st, as, hinquire⟩ := inquireAll_eq (r := r) s.service l.reading.opening.recipe
    (l.inquiries r.workspace)
  rw [hinquire] at hinquired
  have hresults : (l.inquiries r.workspace).map (·.run s.service l.reading.opening.recipe) =
      l.results r.workspace s.service := rfl
  simp only [judgeAll, hinquire, Listing.names, hresults]
  cases firstFailure (l.results r.workspace s.service) with
  | error e => simpa using hinquired
  | ok vs => exact hinquired.trans (.increment hinquired.enabled _ _)

theorem gains_update (h : r.statistics.enabled = true) :
    r.statistics.Gains (r.update s u).1.statistics (r.tally s u).names (r.tally s u).times := by
  cases hg : (r.opening? u).bind r.reading? with
  | none =>
    simp only [update, tally, hg]
    exact .refl h
  | some g =>
    cases hl : r.listing s.files g with
    | error e =>
      simp only [update, tally, hg, hl]
      exact .record h _
    | ok l =>
      have hjudged := gains_judgeAll (s := s) h l
      have hboth := hjudged.trans (.record hjudged.enabled (s.elapsed u))
      rw [List.append_nil] at hboth
      simp only [update, tally, hg, hl]
      exact hboth

theorem sameView_update (r : Reconciler) (s : Surroundings) (u : Uri) : r.SameView (r.update s u).1 := by
  obtain ⟨st, as, h⟩ := update_eq r s u
  rw [h]
  exact ⟨workspace_takeOver, registry_takeOver, configuration_takeOver⟩

theorem SameView.trans (h : r.SameView r') (h' : r'.SameView r'') : r.SameView r'' :=
  ⟨h'.workspace.trans h.workspace, h'.registry.trans h.registry, h'.configuration.trans h.configuration⟩

theorem gains_updateAll (h : r'.statistics.enabled = true) (hv : r.SameView r') (us : List Uri) :
    r'.statistics.Gains (r'.updateAll s us).1.statistics (us.flatMap fun u => (r.tally s u).names)
      (us.map fun u => (r.tally s u).times).sum := by
  induction us generalizing r' with
  | nil => exact .refl h
  | cons u us ih =>
    have hone := gains_update (s := s) (u := u) h
    rw [tally_congr hv] at hone
    exact hone.trans (ih hone.enabled (hv.trans (sameView_update r' s u)))

end Reconciler

/-! ### What an update has counted so far -/

/-- What has been counted for an inquiry under way. -/
def Progress.counter? (p : Progress) : Option String := p.result?.bind Verdict.counterOf?

namespace Progress
variable {ps : List Progress} {xs : List (Except Fault Verdict)}

theorem filterMap_counter?_of_mapM_result? (h : ps.mapM result? = some xs) :
    ps.filterMap counter? = xs.filterMap Verdict.counterOf? := by
  induction ps generalizing xs with
  | nil =>
    cases h
    rfl
  | cons p ps ih =>
    simp only [List.mapM_cons, Option.pure_def, Option.bind_eq_bind, Option.bind_eq_some_iff,
      Option.some.injEq] at h
    obtain ⟨x, hx, xs', hxs, rfl⟩ := h
    rw [List.filterMap_cons, List.filterMap_cons, ih hxs, counter?, hx, Option.bind_some]

theorem count_filterMap_counter?_set {i : Nat} {p : Progress} (hp : ps[i]? = some p) (p' : Progress)
    (name : String) :
    ((ps.set i p').filterMap counter?).count name + p.counter?.toList.count name =
      (ps.filterMap counter?).count name + p'.counter?.toList.count name := by
  induction ps generalizing i with
  | nil => cases hp
  | cons q ps ih =>
    have hcons : ∀ (q : Progress) (qs : List Progress), ((q :: qs).filterMap counter?).count name =
        q.counter?.toList.count name + (qs.filterMap counter?).count name := by
      intro q qs
      rw [List.filterMap_cons]
      cases q.counter? <;> simp [List.count_cons, Nat.add_comm]
    cases i with
    | zero =>
      cases hp
      rw [List.set_cons_zero, hcons, hcons]
      omega
    | succ i =>
      rw [List.set_cons_succ, hcons, hcons]
      have h := ih hp
      omega

end Progress

/-- What the update of a document has counted when it stands here, if what it reads does not change. -/
def UpdateStage.tally (r : Reconciler) (s : Surroundings) (u : Uri) : UpdateStage → Tally
  | begun _ | opening _ | reading _ | listing _ | aborted => ⟨[], 0⟩
  | judging _ ps => ⟨ps.filterMap Progress.counter?, 0⟩
  | committing _ | publishing _ | handedOver _ => ⟨(r.tally s u).names, 0⟩
  | ended _ => r.tally s u

namespace Reconciler
variable {r r' r'' : Reconciler} {s : Surroundings} {u : Uri} {l : Listing} {chance : Chance} {p : Progress}
  {stage stage' : UpdateStage}

theorem gains_progress (h : r.statistics.enabled = true) (service : LanguageService) (recipe : Uri)
    (p : Progress) : ∃ names, r.statistics.Gains (r.progress service recipe p).1.statistics names 0 ∧
      ∀ name, (r.progress service recipe p).2.counter?.toList.count name =
        p.counter?.toList.count name + names.count name := by
  cases p with
  | asking q =>
    cases q with
    | done v => exact ⟨_, gains_countVerdict rfl h v, fun name => (Nat.zero_add _).symm⟩
    | askLanguage pos next =>
      refine ⟨[], .refl h, fun name => ?_⟩
      simp only [progress]
      cases service.languageAt recipe pos <;> rfl
    | askDefinitions pos next =>
      refine ⟨[], .refl h, fun name => ?_⟩
      simp only [progress]
      cases service.definitions recipe pos <;> rfl
    | overflow next => exact ⟨[], .refl h, fun name => rfl⟩
  | reached v => exact ⟨[], .refl h, fun name => rfl⟩
  | failed e => exact ⟨[], .refl h, fun name => rfl⟩

/-- What a stage adds is what it counts. -/
theorem Leads.gains (h : r'.Leads s chance stage r'' stage') (hv : r.SameView r') (hc : r.OnCourse s u stage)
    (he : r'.statistics.enabled = true) : ∃ names times, r'.statistics.Gains r''.statistics names times ∧
      (∀ name, (stage'.tally r s u).names.count name =
        (stage.tally r s u).names.count name + names.count name) ∧
      (stage'.tally r s u).times = (stage.tally r s u).times + times := by
  -- so it is in every stage that counts nothing
  have hsame (hstat : r''.statistics = r'.statistics) (ht : stage'.tally r s u = stage.tally r s u) :
      ∃ names times, r'.statistics.Gains r''.statistics names times ∧
        (∀ name, (stage'.tally r s u).names.count name =
          (stage.tally r s u).names.count name + names.count name) ∧
        (stage'.tally r s u).times = (stage.tally r s u).times + times :=
    ⟨[], 0, by rw [hstat]; exact .refl he, by simp [ht], by rw [ht]; rfl⟩
  cases h with
  | opens | finds | lists | idles | commits | commitsAtOnce | publishes | rests => exact hsame rfl rfl
  | @skips u' hno =>
    cases hc
    exact hsame rfl (tally_of_skips (skips_iff.1 (by rw [hv.alike.opening?_eq, hno]; rfl)))
  | @misses o hno =>
    cases hc with
    | opening ho =>
      refine hsame rfl (tally_of_skips (skips_iff.1 ?_))
      rw [ho, Option.bind_some, hv.alike.reading?_eq, hno]
  | takesUp => exact hsame rfl (by simp [UpdateStage.tally, Progress.counter?, Progress.result?])
  | @failsToList g e hl =>
    cases hc with
    | reading hg =>
      rw [listing, hv.registry] at hl
      have ht := tally_of_unreadable (s := s) hg hl
      exact ⟨[], 1, .record he _, by simp [UpdateStage.tally, ht], by simp [UpdateStage.tally, ht]⟩
  | @asks l ps p hx hp =>
    obtain ⟨names, hgains, hcount⟩ := gains_progress he s.service l.reading.opening.recipe p
    refine ⟨names, 0, hgains, fun name => ?_, rfl⟩
    have hset := Progress.count_filterMap_counter?_set hp
      (r'.progress s.service l.reading.opening.recipe p).2 name
    rw [hcount] at hset
    simp only [UpdateStage.tally]
    omega
  | @concludes l ps xs vs hx hvs =>
    cases hc with
    | judging hg hl hps =>
      have hresults : l.results r.workspace s.service = xs :=
        hps.symm.trans (Progress.map_finish_of_mapM_result? hx)
      refine ⟨_, 0, .increment he _ _, fun name => ?_, rfl⟩
      simp only [UpdateStage.tally, tally_of_listing hg hl, Listing.names, hresults, hvs,
        Progress.filterMap_counter?_of_mapM_result? hx, List.count_append]
  | @failsToJudge l ps xs e hx hfirst =>
    cases hc with
    | judging hg hl hps =>
      have hresults : l.results r.workspace s.service = xs :=
        hps.symm.trans (Progress.map_finish_of_mapM_result? hx)
      have ht := tally_of_listing hg hl
      refine ⟨[], 1, .record he _, fun name => ?_, ?_⟩
      · simp [UpdateStage.tally, ht, Listing.names, hresults, hfirst,
          Progress.filterMap_counter?_of_mapM_result? hx]
      · simp [UpdateStage.tally, ht]
  | finishes =>
    cases hc with
    | handedOver ho =>
      obtain ⟨g, hg, -⟩ := admits_of_outcome ho
      exact ⟨[], 1, .record he _, by simp [UpdateStage.tally], by simp [UpdateStage.tally, times_tally hg]⟩

end Reconciler

/-! ### Updates side by side -/

/-- What an activity has counted. -/
def Activity.tally (r : Reconciler) (s : Surroundings) (u : Uri) : Activity → Tally
  | update stage => stage.tally r s u
  | clear _ => ⟨[], 0⟩

namespace Concurrent
variable {c : Concurrent} {r : Reconciler} {s s' : Surroundings} {us : List Uri} {i : Nat}

/-- The statistics have grown by what the updates of a list of documents have counted so far. -/
def Tallied (r : Reconciler) (s : Surroundings) (us : List Uri) (c : Concurrent) : Prop :=
  r.statistics.Gains c.reconciler.statistics
    ((us.zip c.activities).flatMap fun x => (x.2.tally r s x.1).names)
    ((us.zip c.activities).map fun x => (x.2.tally r s x.1).times).sum

theorem zip_set {u : Uri} {as : List Activity} (hu : us[i]? = some u) (a : Activity) :
    us.zip (as.set i a) = (us.zip as).set i (u, a) := by
  induction us generalizing i as with
  | nil => cases hu
  | cons v us ih =>
    cases as with
    | nil => rfl
    | cons b as =>
      cases i with
      | zero =>
        cases hu
        rfl
      | succ i => exact congrArg ((v, b) :: ·) (ih hu)

theorem sum_map_set {α : Type} {f : α → Nat} {xs : List α} {x : α} (hx : xs[i]? = some x) (y : α) :
    ((xs.set i y).map f).sum + f x = (xs.map f).sum + f y := by
  induction xs generalizing i with
  | nil => cases hx
  | cons z xs ih =>
    cases i with
    | zero =>
      cases hx
      simp only [List.set_cons_zero, List.map_cons, List.sum_cons]
      omega
    | succ i =>
      have h := ih hx
      simp only [List.set_cons_succ, List.map_cons, List.sum_cons]
      omega

theorem Tallied.proceed (h : c.Tallied r s us) (hr : UnderReview r s us c) (i : Nat) (chance : Chance) :
    Tallied r s us (c.proceed i chance s) := by
  rcases proceed_cases c i chance s with hsame | ⟨a, hi, hf⟩
  · rw [hsame]
    exact h
  · obtain ⟨u, stage, hu, rfl, hc⟩ := hr.course i a hi
    have hleads : c.reconciler.Leads s chance stage _ _ := Reconciler.leads_proceedUpdate stage
    obtain ⟨names, times, hgains, hnames, htimes⟩ := hleads.gains hr.view hc h.enabled
    rw [proceed_of_free hi hf]
    simp only [Reconciler.proceed]
    generalize c.reconciler.proceedUpdate s chance stage = next at hgains hnames htimes ⊢
    obtain ⟨r', stage'⟩ := next
    rw [Tallied, zip_set hu]
    have hx : (us.zip c.activities)[i]? = some (u, .update stage) := List.getElem?_zip_eq_some.2 ⟨hu, hi⟩
    have htotal : (((us.zip c.activities).set i (u, .update stage')).map
        fun x => (x.2.tally r s x.1).times).sum =
          ((us.zip c.activities).map fun x => (x.2.tally r s x.1).times).sum + times := by
      have hsum := sum_map_set (f := fun x => (x.2.tally r s x.1).times) hx (u, .update stage')
      simp only [Activity.tally] at hsum htimes ⊢
      omega
    rw [htotal]
    refine (h.trans hgains).congr fun name => ?_
    have hcount := sum_map_set (f := fun x => (x.2.tally r s x.1).names.count name) hx (u, .update stage')
    have hone := hnames name
    rw [List.count_append, List.count_flatMap, List.count_flatMap]
    simp only [Activity.tally, Function.comp_def] at hcount hone ⊢
    omega

theorem Tallied.run (h : c.Tallied r s us) (hr : UnderReview r s us c) {moves : List Move}
    (hm : ∀ m ∈ moves, ∃ i chance, m = .proceed i chance s) : Tallied r s us (c.run moves) := by
  induction moves generalizing c with
  | nil => exact h
  | cons m moves ih =>
    obtain ⟨i, chance, rfl⟩ := hm m (List.mem_cons_self ..)
    exact ih (h.proceed hr i chance) (hr.proceed i chance) fun m' hm' => hm m' (List.mem_cons_of_mem _ hm')

theorem tallied_begun (h : r.statistics.enabled = true) (us : List Uri) :
    Tallied r s us ⟨r, us.map fun u => .update (.begun u)⟩ := by
  have hzip : us.zip (us.map fun u => Activity.update (.begun u)) =
      us.map fun u => (u, .update (.begun u)) := by
    induction us with
    | nil => rfl
    | cons u us ih => exact congrArg (_ :: ·) ih
  have hnames : (us.flatMap fun u => ((Activity.update (.begun u)).tally r s u).names) = [] := by
    simp [Activity.tally, UpdateStage.tally]
  have htimes : (us.map fun u => ((Activity.update (.begun u)).tally r s u).times).sum = 0 := by
    simp [Activity.tally, UpdateStage.tally, List.map_const']
  rw [Tallied, hzip, List.flatMap_map, List.map_map]
  simp only [Function.comp_def, hnames, htimes]
  exact .refl h

/-- Once nothing is under way any more the updates of a review that run side by side have counted what the
updates of a review count that are made one after the other, in whatever order each of them lists the
documents, and as many of them were timed. -/
theorem counts_of_review_side_by_side (h : r.statistics.enabled = true) (s s' : Surroundings)
    {moves : List Move} (hm : ∀ m ∈ moves, ∃ i chance, m = .proceed i chance s) :
    let c := (quiet r).run (.review s' :: moves)
    c.isQuiet →
      (∀ name, c.reconciler.statistics.counter name = (r.review s).1.statistics.counter name) ∧
      (c.reconciler.statistics.durations Statistics.updateOperation).length =
        ((r.review s).1.statistics.durations Statistics.updateOperation).length := by
  intro c hq
  have hbegun := UnderReview.begun r s (s'.reported r.workspace)
  have hactivities : c.activities = _ := (hbegun.run hm).activities_of_isQuiet hq
  have htallied : Tallied r s (s'.reported r.workspace) c :=
    (tallied_begun h (s'.reported r.workspace)).run hbegun hm
  have hzip : ∀ us : List Uri, us.zip (us.map fun u => Activity.update (.ended (r.update s u).2)) =
      us.map fun u => (u, .update (.ended (r.update s u).2)) := by
    intro us
    induction us with
    | nil => rfl
    | cons u us ih => exact congrArg (_ :: ·) ih
  rw [Tallied, hactivities, hzip, List.flatMap_map, List.map_map] at htallied
  have hreview : r.statistics.Gains (r.review s).1.statistics _ _ :=
    Reconciler.gains_updateAll h ⟨rfl, rfl, rfl⟩ (s.reported r.workspace)
  have hperm : (s'.reported r.workspace).Perm (s.reported r.workspace) :=
    (s'.arrangement.perm _).trans (s.arrangement.perm _).symm
  constructor
  · intro name
    rw [htallied.counter, hreview.counter, (hperm.flatMap_right _).count_eq]
    rfl
  · rw [htallied.durations, hreview.durations, (hperm.map _).sum_nat]
    rfl

end Concurrent
end RecipeDiag
