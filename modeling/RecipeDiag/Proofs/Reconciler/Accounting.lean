import RecipeDiag.Proofs.Reconciler.Tally

/-!
# Every finding is accounted for

A verdict counts under the names `Verdict.countedAs`, and exactly one of them is one of the eight ends
that a finding can come to (`length_eq_of_count`). An update that succeeds counts the verdicts on all
findings that it took up, once each, and is timed once (`cover_update`). What a run of operations has
counted is the sum of what its updates have (`cover_performAll`).
-/

namespace RecipeDiag

/-! ### What verdicts count as -/

namespace Verdict

/-- The names that a finding is counted under in the end. -/
def countedAs : Verdict → List String
  | dropped reason => [reason.counter]
  | kept _ reworded => Statistics.published :: if reworded then [Statistics.messagesReworded] else []

/-- Whether the finding is shown with another message. -/
def isReworded : Verdict → Bool
  | dropped _ => false
  | kept _ reworded => reworded

/-- What a finding is counted as at once, and what it is counted as once all findings have come to a
verdict. -/
theorem count_flatMap_countedAs (name : String) (vs : List Verdict) :
    (vs.flatMap countedAs).count name = (vs.filterMap counter?).count name +
      (List.replicate (vs.filterMap diagnostic?).length Statistics.published).count name := by
  induction vs with
  | nil => rfl
  | cons v vs ih =>
    rw [List.flatMap_cons, List.count_append, ih]
    cases v with
    | dropped reason =>
      simp only [countedAs, counter?, diagnostic?, List.filterMap_cons, List.count_cons, List.count_nil]
      omega
    | kept d reworded =>
      cases reworded with
      | false =>
        simp [countedAs, counter?, diagnostic?, List.count_cons, List.replicate_succ]
        omega
      | true =>
        simp [countedAs, counter?, diagnostic?, List.count_cons, List.replicate_succ]
        omega

theorem count_messagesReworded (vs : List Verdict) :
    (vs.flatMap countedAs).count Statistics.messagesReworded = vs.countP isReworded := by
  induction vs with
  | nil => rfl
  | cons v vs ih =>
    have hone : v.countedAs.count Statistics.messagesReworded = if v.isReworded then 1 else 0 := by
      cases v with
      | dropped reason => rcases reason with _ | _ | _ | (_ | _ | _ | _) <;> rfl
      | kept d reworded => cases reworded <;> rfl
    rw [List.flatMap_cons, List.count_append, ih, hone, List.countP_cons, Nat.add_comm]

/-- A finding comes to one of eight ends: it is shown, dropped for one of three reasons or ignored by one
of four rules. -/
theorem length_eq_of_count (vs : List Verdict) :
    (vs.flatMap countedAs).count Statistics.published +
      (vs.flatMap countedAs).count Statistics.droppedSource +
      (vs.flatMap countedAs).count Statistics.droppedUnmapped +
      (vs.flatMap countedAs).count Statistics.droppedLanguage +
      (vs.flatMap countedAs).count (Rule.counter .alwaysIgnoredCode) +
      (vs.flatMap countedAs).count (Rule.counter .anonymousFunction) +
      (vs.flatMap countedAs).count (Rule.counter .definedVariable) +
      (vs.flatMap countedAs).count (Rule.counter .assignedShellVariable) = vs.length := by
  induction vs with
  | nil => rfl
  | cons v vs ih =>
    have hone : v.countedAs.count Statistics.published + v.countedAs.count Statistics.droppedSource +
        v.countedAs.count Statistics.droppedUnmapped + v.countedAs.count Statistics.droppedLanguage +
        v.countedAs.count (Rule.counter .alwaysIgnoredCode) +
        v.countedAs.count (Rule.counter .anonymousFunction) +
        v.countedAs.count (Rule.counter .definedVariable) +
        v.countedAs.count (Rule.counter .assignedShellVariable) = 1 := by
      cases v with
      | dropped reason => rcases reason with _ | _ | _ | (_ | _ | _ | _) <;> rfl
      | kept d reworded => cases reworded <;> rfl
    simp only [List.flatMap_cons, List.count_append, List.length_cons]
    omega

end Verdict

/-! ### One update -/

namespace Assignment
variable {a : Assignment} {f : Finding} {v : Verdict} {s : LanguageService}

/-- A verdict tells whether the message was reworded. -/
theorem yields_isReworded (a : Assignment) (f : Finding) : (a.judge f).Yields fun v =>
    v.isReworded ↔ ∃ d, v.diagnostic? = some d ∧ d.message ≠ f.message := by
  refine yields_judge (fun reason => ?_) fun range _ _ _ => ?_
  · refine iff_of_false Bool.false_ne_true ?_
    rintro ⟨d, hd, -⟩
    cases hd
  · simp [Verdict.isReworded, Verdict.diagnostic?]

end Assignment

namespace Reconciler
variable {r : Reconciler} {s : Surroundings} {u : Uri} {g : Reading} {vs : List Verdict}

/-- An update that works on something and succeeds counts the verdicts on all findings and is timed. -/
theorem gains_of_success (h : r.statistics.enabled = true) (hg : r.Admits u g)
    (hok : (r.update s u).2 = .ok ()) : ∃ text vs, r.registry.read s.files g.document.uri = .ok text ∧
      (⟨g, text⟩ : Listing).verdicts r.workspace s.service = .ok vs ∧
      r.statistics.Gains (r.update s u).1.statistics (vs.flatMap Verdict.countedAs) 1 := by
  have hout : ∃ o?, r.outcome s u = .ok o? := by
    obtain ⟨st, as, hu⟩ := update_eq r s u
    rw [hu] at hok
    cases ho : r.outcome s u with
    | ok o? => exact ⟨o?, rfl⟩
    | error e =>
      rw [ho] at hok
      cases hok
  obtain ⟨o?, ho⟩ := hout
  obtain ⟨text, vs, hr, hvs, -⟩ := (outcome_eq_ok_iff hg).1 ho
  refine ⟨text, vs, hr, hvs, ?_⟩
  have hlisting : r.listing s.files g = .ok ⟨g, text⟩ := listing_eq_ok_iff.2 ⟨rfl, hr⟩
  have hresults : (⟨g, text⟩ : Listing).results r.workspace s.service = vs.map .ok :=
    firstFailure_eq_ok_iff.1 hvs
  have hgains := gains_update (s := s) (u := u) h
  rw [tally_of_listing hg hlisting] at hgains
  refine hgains.congr fun name => ?_
  have hfirst : firstFailure (vs.map .ok) = .ok vs := firstFailure_eq_ok_iff.2 rfl
  simp only [Listing.names, hresults, hfirst, List.count_append, List.filterMap_map]
  exact Verdict.count_flatMap_countedAs name vs

end Reconciler

/-! ### A run of operations -/

namespace Call

/-- The finding is shown, and not with the message that it has. -/
def Rewords (x : Call) (f : Finding) : Prop :=
  ∃ g text d, x.reading? = some g ∧
    x.reconciler.registry.read x.surroundings.files g.document.uri = .ok text ∧
    (⟨g, text⟩ : Listing).assignment.Shows x.surroundings.service f d ∧ d.message ≠ f.message

open Classical in
noncomputable def reworded (x : Call) : List Finding := x.findings.filter fun f => x.Rewords f

variable {x : Call} {xs ys : List Call} {st st' st'' : Statistics} {g : Reading} {text : String}

/-- Statistics have grown by what the updates made of the findings that they took up. -/
def Cover (xs : List Call) (st st' : Statistics) : Prop :=
  ∃ vs : List Verdict, vs.length = (xs.flatMap findings).length ∧
    vs.countP Verdict.isReworded = (xs.flatMap reworded).length ∧
    st.Gains st' (vs.flatMap Verdict.countedAs) (xs.filterMap reading?).length

theorem cover_nil (h : st.enabled = true) : Cover [] st st := ⟨[], rfl, rfl, .refl h⟩

theorem Cover.append (h : Cover xs st st') (h' : Cover ys st' st'') : Cover (xs ++ ys) st st'' := by
  obtain ⟨vs, hlength, hreworded, hgains⟩ := h
  obtain ⟨vs', hlength', hreworded', hgains'⟩ := h'
  refine ⟨vs ++ vs', ?_, ?_, ?_⟩
  · rw [List.length_append, List.flatMap_append, List.length_append, hlength, hlength']
  · rw [List.countP_append, List.flatMap_append, List.length_append, hreworded, hreworded']
  · rw [List.flatMap_append, List.filterMap_append, List.length_append]
    exact hgains.trans hgains'

theorem Cover.enabled (h : Cover xs st st') : st'.enabled = true := by
  obtain ⟨vs, -, -, hgains⟩ := h
  exact hgains.enabled

/-- The verdicts tell which findings are shown with another message. -/
theorem isReworded_iff (hg : x.reading? = some g)
    (hr : x.reconciler.registry.read x.surroundings.files g.document.uri = .ok text) {f : Finding}
    {v : Verdict} (hv : ((⟨g, text⟩ : Listing).assignment.judge f).run x.surroundings.service
      (⟨g, text⟩ : Listing).assignment.recipe = .ok v) : v.isReworded ↔ x.Rewords f := by
  refine ((Assignment.yields_isReworded _ f).of_run hv).trans ?_
  simp only [Assignment.diagnostic?_eq_some_iff hv]
  constructor
  · rintro ⟨d, hd, hne⟩
    exact ⟨g, text, d, hg, hr, hd, hne⟩
  · rintro ⟨g', text', d, hg', hr', hd, hne⟩
    cases hg.symm.trans hg'
    cases hr.symm.trans hr'
    exact ⟨d, hd, hne⟩

open Classical in
theorem countP_isReworded {P : Finding → Prop} {judged : Finding → Except Fault Verdict}
    (hP : ∀ f v, judged f = .ok v → (v.isReworded ↔ P f)) {fs : List Finding} {vs : List Verdict}
    (h : fs.map judged = vs.map .ok) :
    vs.countP Verdict.isReworded = (fs.filter fun f => P f).length := by
  induction fs generalizing vs with
  | nil =>
    cases vs with
    | nil => rfl
    | cons v vs => cases h
  | cons f fs ih =>
    cases vs with
    | nil => cases h
    | cons v vs =>
      obtain ⟨hv, hvs⟩ := List.cons.inj h
      have hone := hP f v hv
      rw [List.countP_cons, List.filter_cons, ih hvs]
      by_cases hf : P f
      · simp [hf, hone.2 hf]
      · have hnot : v.isReworded = false := Bool.eq_false_iff.2 fun hw => hf (hone.1 hw)
        simp [hf, hnot]

theorem cover_update (h : x.reconciler.statistics.enabled = true) (hok : x.result = .ok ()) :
    Cover [x] x.reconciler.statistics (x.reconciler.update x.surroundings x.generated).1.statistics := by
  cases hg : x.reading? with
  | none =>
    -- the guards hold the update back
    have hsame : x.reconciler.update x.surroundings x.generated = (x.reconciler, .ok ()) := by
      unfold reading? at hg
      simp only [Reconciler.update, hg]
    refine ⟨[], ?_, ?_, ?_⟩
    · simp [findings, hg]
    · simp [reworded, findings, hg]
    · rw [hsame, List.filterMap_cons_none hg]
      exact .refl h
  | some g =>
    obtain ⟨text, vs, hr, hvs, hgains⟩ := Reconciler.gains_of_success h (Reconciler.admits_iff.1 hg) hok
    have hfindings : x.findings = x.reconciler.workspace.findingsOf g.document.uri := by
      rw [findings, hg]
      rfl
    have hjudged := Listing.verdicts_eq_ok_iff.1 hvs
    refine ⟨vs, ?_, ?_, ?_⟩
    · have hlength := congrArg List.length hjudged
      rw [List.length_map, List.length_map] at hlength
      simp [hfindings, hlength]
    · rw [countP_isReworded (fun f v => isReworded_iff hg hr) hjudged]
      simp [reworded, hfindings]
    · rw [List.filterMap_cons_some hg]
      exact hgains

end Call

namespace Reconciler
variable {r : Reconciler} {s : Surroundings}

theorem cover_updateAll (h : r.statistics.enabled = true) (us : List Uri)
    (hok : ∀ x ∈ r.callsOfAll s us, x.result = .ok ()) :
    Call.Cover (r.callsOfAll s us) r.statistics (r.updateAll s us).1.statistics := by
  induction us generalizing r with
  | nil => exact Call.cover_nil h
  | cons u us ih =>
    have hone := Call.cover_update (x := ⟨r, s, u⟩) h (hok _ (List.mem_cons_self ..))
    have hrest := ih hone.enabled fun x hx => hok x (List.mem_cons_of_mem _ hx)
    exact hone.append hrest

theorem statistics_clear : r.clear.statistics = r.statistics :=
  clear_induction (P := fun r' => r'.statistics = r.statistics) rfl fun _ _ h => h

theorem cover_perform (h : r.statistics.enabled = true) (op : Operation)
    (hok : ∀ x ∈ r.callsOf op, x.result = .ok ()) :
    Call.Cover (r.callsOf op) r.statistics (r.perform op).statistics := by
  cases op with
  | update s u => exact Call.cover_update (x := ⟨r, s, u⟩) h (hok _ (List.mem_singleton_self _))
  | review s => exact cover_updateAll h _ hok
  | clear =>
    show Call.Cover [] r.statistics r.clear.statistics
    rw [statistics_clear]
    exact Call.cover_nil h
  | edit e => cases e <;> exact Call.cover_nil h
  | configure settings => exact Call.cover_nil h

theorem cover_performAll (h : r.statistics.enabled = true) (ops : List Operation)
    (hok : ∀ x ∈ r.calls ops, x.result = .ok ()) :
    Call.Cover (r.calls ops) r.statistics (r.performAll ops).statistics := by
  induction ops generalizing r with
  | nil => exact Call.cover_nil h
  | cons op ops ih =>
    have hone := cover_perform h op fun x hx => hok x (List.mem_append_left _ hx)
    exact hone.append (ih hone.enabled fun x hx => hok x (List.mem_append_right _ hx))

/-- If statistics are switched on before a run of operations in which every update succeeds, then of all
findings that the updates took up each was counted as shown, as dropped for one of three reasons or as
ignored by one of four rules; the messages counted as reworded are those of findings that are shown
with another message; and each update that got past the guards was timed once. A review counts the same, and
as many updates of it are timed, if its updates run side by side. -/
theorem every_finding_is_counted_once (r : Reconciler) (before : Statistics)
    (hr : r.statistics = before.setEnabled true) (ops : List Operation)
    (hok : ∀ x ∈ r.calls ops, x.result = .ok ())
    (hlt : ((r.calls ops).flatMap Call.findings).length < UInt64.size) :
    let st := (r.performAll ops).statistics
    ((st.counter Statistics.published).toNat + (st.counter Statistics.droppedSource).toNat +
        (st.counter Statistics.droppedUnmapped).toNat + (st.counter Statistics.droppedLanguage).toNat +
        (st.counter (Rule.counter .alwaysIgnoredCode)).toNat +
        (st.counter (Rule.counter .anonymousFunction)).toNat +
        (st.counter (Rule.counter .definedVariable)).toNat +
        (st.counter (Rule.counter .assignedShellVariable)).toNat =
      ((r.calls ops).flatMap Call.findings).length) ∧
    (st.counter Statistics.messagesReworded).toNat = ((r.calls ops).flatMap Call.reworded).length ∧
    (st.durations Statistics.updateOperation).length = ((r.calls ops).filterMap Call.reading?).length ∧
    ∀ s s' moves, (∀ m ∈ moves, ∃ i chance, m = .proceed i chance s) →
      let c := (Concurrent.quiet (r.performAll ops)).run (.review s' :: moves)
      let st' := (r.performAll (ops ++ [.review s])).statistics
      c.isQuiet → (∀ name, c.reconciler.statistics.counter name = st'.counter name) ∧
        (c.reconciler.statistics.durations Statistics.updateOperation).length =
          (st'.durations Statistics.updateOperation).length := by
  intro st
  have henabled : r.statistics.enabled = true := by rw [hr]; rfl
  obtain ⟨vs, hlength, hreworded, hgains⟩ := cover_performAll henabled ops hok
  rw [hr] at hgains
  have hcounter : ∀ name, (vs.flatMap Verdict.countedAs).count name ≤ vs.length →
      (st.counter name).toNat = (vs.flatMap Verdict.countedAs).count name := by
    intro name hle
    rw [hgains.counter, Statistics.counter_setEnabled_true, UInt64.zero_add]
    exact UInt64.toNat_ofNat_of_lt (by omega)
  have height := Verdict.length_eq_of_count vs
  refine ⟨?_, ?_, ?_, fun s s' moves hm => ?_⟩
  · rw [← hlength, ← height]
    iterate 8 rw [hcounter _ (by omega)]
  · have hle : (vs.flatMap Verdict.countedAs).count Statistics.messagesReworded ≤ vs.length := by
      rw [Verdict.count_messagesReworded]
      exact List.countP_le_length
    rw [hcounter _ hle, Verdict.count_messagesReworded, hreworded]
  · rw [hgains.durations, Statistics.durations_setEnabled_true, List.length_nil, Nat.zero_add]
  · have hreviewed : r.performAll (ops ++ [.review s]) = ((r.performAll ops).review s).1 := by
      rw [performAll, List.foldl_append]
      rfl
    rw [hreviewed]
    exact Concurrent.counts_of_review_side_by_side hgains.enabled s s' hm

namespace Sample

def counting : Reconciler := { idle with statistics := Statistics.empty.setEnabled true }

def twice : List Operation := [.update surroundings script, .review surroundings]

theorem calls_twice : counting.calls twice = [⟨counting, surroundings, script⟩,
    ⟨(counting.update surroundings script).1, surroundings, script⟩] := by
  have hreported : surroundings.reported (counting.update surroundings script).1.workspace = [script] := by
    decide +kernel
  show [_] ++ ((counting.update surroundings script).1.callsOfAll surroundings
    (surroundings.reported (counting.update surroundings script).1.workspace) ++ []) = _
  rw [hreported]
  rfl

end Sample

open Sample in
/-- In each of two updates one of two findings is shown, and the other has no origin. -/
theorem every_finding_is_counted_once_of_script :
    (∀ x ∈ counting.calls twice, x.result = .ok ()) ∧
    ((counting.calls twice).flatMap Call.findings).length = 4 ∧
    ((counting.performAll twice).statistics.counter Statistics.published).toNat = 2 ∧
    ((counting.performAll twice).statistics.counter Statistics.droppedUnmapped).toNat = 2 ∧
    ((counting.performAll twice).statistics.counter Statistics.messagesReworded).toNat =
      ((counting.calls twice).flatMap Call.reworded).length ∧
    ((counting.performAll twice).statistics.durations Statistics.updateOperation).length = 2 := by
  have hok : ∀ x ∈ counting.calls twice, x.result = .ok () := by
    rw [calls_twice]
    intro x hx
    rcases List.mem_cons.1 hx with rfl | hx
    · rfl
    · rw [List.mem_singleton.1 hx]
      rfl
  have hlength : ((counting.calls twice).flatMap Call.findings).length = 4 := by
    rw [calls_twice]
    decide +kernel
  obtain ⟨-, hreworded, hdurations, -⟩ := every_finding_is_counted_once counting .empty rfl twice hok (by
    rw [hlength]
    decide)
  refine ⟨hok, hlength, by decide +kernel, by decide +kernel, hreworded, hdurations.trans ?_⟩
  rw [calls_twice]
  decide +kernel

end Reconciler
end RecipeDiag
