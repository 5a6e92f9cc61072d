import RecipeDiag.Proofs.Registry.History
import RecipeDiag.Proofs.Server.Trace

/-!
# Findings that are superseded

Two servers may differ in what was reported about one document (`AlikeBut`). As long as no update of
that document runs and nothing is reviewed, nothing else comes to differ (`AlikeUntil.step`), and the next
report about it makes them equal. If that report comes within the delay, no update of the document
runs in between, so what was reported first shows nowhere.
-/

namespace RecipeDiag

namespace Workspace
variable {w : Workspace} {g u : Uri} {f : Table Uri (List Finding)}

theorem setFindings_congr (h : f.erase g = w.findings.erase g) (fs : List Finding) :
    ({ w with findings := f } : Workspace).setFindings g fs = w.setFindings g fs := by
  unfold setFindings
  cases fs.isEmpty with
  | true => simp only [if_true, h]
  | false => simp only [Bool.false_eq_true, if_false, Table.insert_eq_of_erase_eq h]

theorem erase_findings_setFindings_self (fs : List Finding) :
    (w.setFindings g fs).findings.erase g = w.findings.erase g := by
  unfold setFindings
  cases fs.isEmpty with
  | true => exact Table.erase_erase_self ..
  | false => exact Table.erase_insert_self ..

theorem erase_findings_setFindings_of_ne (hu : u ≠ g) (h : f.erase g = w.findings.erase g) (fs : List Finding) :
    (({ w with findings := f } : Workspace).setFindings u fs).findings.erase g =
      (w.setFindings u fs).findings.erase g := by
  unfold setFindings
  cases fs.isEmpty with
  | true =>
    show (f.erase u).erase g = (w.findings.erase u).erase g
    rw [Table.erase_comm, h, Table.erase_comm]
  | false =>
    show (f.insert u fs).erase g = (w.findings.insert u fs).erase g
    rw [Table.erase_insert_of_ne _ hu, h, Table.erase_insert_of_ne _ hu]

end Workspace

/-! ### Updates that do not read what differs -/

namespace Reconciler
variable {r : Reconciler} {s : Surroundings} {u g : Uri} {f : Table Uri (List Finding)} {reading : Reading}
  {l : Listing}

def withFindings (r : Reconciler) (f : Table Uri (List Finding)) : Reconciler :=
  { r with workspace := { r.workspace with findings := f } }

/-- The findings tell the same about the document that an update works on. -/
def ReadsAlike (r : Reconciler) (f : Table Uri (List Finding)) (u : Uri) : Prop :=
  ∀ reading, r.Admits u reading →
    (r.withFindings f).workspace.findingsOf reading.document.uri = r.workspace.findingsOf reading.document.uri

theorem readsAlike_of_ne (hr : r.registry.Resolves) (hn : r.registry.Named)
    (hf : f.erase g = r.workspace.findings.erase g) (hu : u ≠ g) : r.ReadsAlike f u := by
  intro reading hg
  have huri : reading.document.uri = u := hg.uri_document hr hn
  rw [huri]
  exact congrArg (·.getD []) (Table.get?_eq_of_erase_eq hf hu)

theorem inquiries_withFindings (h : (r.withFindings f).workspace.findingsOf l.reading.document.uri =
    r.workspace.findingsOf l.reading.document.uri) :
    l.inquiries (r.withFindings f).workspace = l.inquiries r.workspace := by
  unfold Listing.inquiries
  rw [h]

theorem inquire_withFindings (service : LanguageService) (recipe : Uri) (q : Inquiry Verdict) :
    (r.withFindings f).inquire service recipe q =
      ((r.inquire service recipe q).1.withFindings f, (r.inquire service recipe q).2) := by
  simp only [inquire, foldl_ask]
  cases q.run service recipe with
  | error e => rfl
  | ok v =>
    simp only [countVerdict]
    cases v.counter? <;> rfl

theorem inquireAll_withFindings (service : LanguageService) (recipe : Uri) (qs : List (Inquiry Verdict)) :
    (r.withFindings f).inquireAll service recipe qs =
      ((r.inquireAll service recipe qs).1.withFindings f, (r.inquireAll service recipe qs).2) := by
  induction qs generalizing r with
  | nil => rfl
  | cons q qs ih => simp only [inquireAll, inquire_withFindings, ih]

theorem judgeAll_withFindings (h : (r.withFindings f).workspace.findingsOf l.reading.document.uri =
    r.workspace.findingsOf l.reading.document.uri) :
    (r.withFindings f).judgeAll s l = ((r.judgeAll s l).1.withFindings f, (r.judgeAll s l).2) := by
  simp only [judgeAll, inquiries_withFindings h, inquireAll_withFindings]
  cases firstFailure (r.inquireAll s.service l.reading.opening.recipe (l.inquiries r.workspace)).2 <;> rfl

theorem update_withFindings (h : r.ReadsAlike f u) :
    (r.withFindings f).update s u = ((r.update s u).1.withFindings f, (r.update s u).2) := by
  have hsame : ((r.withFindings f).opening? u).bind (r.withFindings f).reading? =
      (r.opening? u).bind r.reading? := rfl
  simp only [update, hsame]
  cases hg : (r.opening? u).bind r.reading? with
  | none => rfl
  | some reading =>
    have hlisting : (r.withFindings f).listing s.files reading = r.listing s.files reading := rfl
    simp only [hlisting]
    cases hl : r.listing s.files reading with
    | error e => rfl
    | ok l =>
      obtain ⟨rfl, -⟩ := listing_eq_ok_iff.1 hl
      simp only [judgeAll_withFindings (h _ (admits_iff.1 hg))]
      rfl

theorem course_withFindings (h : r.ReadsAlike f u) : (r.withFindings f).course s u = r.course s u := by
  have hsame : ((r.withFindings f).opening? u).bind (r.withFindings f).reading? =
      (r.opening? u).bind r.reading? := rfl
  simp only [course, hsame]
  cases hg : (r.opening? u).bind r.reading? with
  | none => rfl
  | some reading =>
    have hlisting : (r.withFindings f).listing s.files reading = r.listing s.files reading := rfl
    simp only [hlisting]
    cases hl : r.listing s.files reading with
    | error e => rfl
    | ok l =>
      obtain ⟨rfl, -⟩ := listing_eq_ok_iff.1 hl
      simp only [Listing.turns, inquiries_withFindings (h _ (admits_iff.1 hg))]
      rfl

theorem resolves_perform {op : Operation} (h : r.registry.Resolves) : (r.perform op).registry.Resolves := by
  have hupdate (r : Reconciler) (s : Surroundings) (u : Uri) (h : r.registry.Resolves) :
      (r.update s u).1.registry.Resolves := by
    rw [registry_update]
    exact h
  cases op with
  | update s u => exact hupdate r s u h
  | review s => exact updateAll_induction (P := fun r => r.registry.Resolves) h (fun r u => hupdate r s u) _
  | clear => exact clear_induction (P := fun r => r.registry.Resolves) h fun _ _ h => h
  | edit e =>
    cases e with
    | register d => exact h.register d
    | removeDocuments recipe => exact h.remove recipe
    | _ => exact h
  | configure settings => exact h

end Reconciler

namespace Server
variable {s s' : Server} {host : Host} {t : DelayedTask} {ts : List DelayedTask} {g u : Uri}
  {fs : List Finding} {f : Table Uri (List Finding)} {d : Demand} {e : Event} {m : Message}
  {time milliseconds limit due : Nat} {events : List Event}

theorem registry_fire : (fire host s t).reconciler.registry = s.reconciler.registry := by
  rw [reconciler_fire]
  exact Reconciler.registry_update

theorem registry_elapse : (s.elapse host milliseconds).reconciler.registry = s.reconciler.registry :=
  elapse_induction (P := fun s' => s'.reconciler.registry = s.reconciler.registry)
    (fun _ _ h => registry_fire.trans h) (fun _ _ h => h) rfl milliseconds

theorem resolves_step (h : s.reconciler.registry.Resolves) :
    (s.step host e).1.reconciler.registry.Resolves := by
  obtain ⟨st, hstep⟩ := reconciler_step s host e
  rw [hstep]
  exact Reconciler.performAll_induction (P := fun r => r.registry.Resolves) h
    (fun _ _ h => Reconciler.resolves_perform h) _

/-! ### Servers that differ in the findings about one document -/

def withFindings (s : Server) (f : Table Uri (List Finding)) : Server :=
  { s with reconciler := s.reconciler.withFindings f }

/-- The servers are the same but for the findings about a document. -/
def AlikeBut (s s' : Server) (g : Uri) : Prop :=
  ∃ f, s' = s.withFindings f ∧ f.erase g = s.reconciler.workspace.findings.erase g

theorem AlikeBut.refl (s : Server) (g : Uri) : s.AlikeBut s g := ⟨_, rfl, rfl⟩

theorem report_withFindings (result : Except Fault Unit) :
    (s.withFindings f).report result = (s.report result).withFindings f := by
  cases result <;> rfl

theorem update_withFindings (h : s.reconciler.ReadsAlike f u) :
    (s.withFindings f).update host u = (s.update host u).withFindings f := by
  let result := s.reconciler.update (s.surroundings host) u
  have hr : (s.reconciler.withFindings f).update (s.surroundings host) u =
      (result.1.withFindings f, result.2) := Reconciler.update_withFindings h
  have hleft : (s.withFindings f).update host u =
      (({ s with reconciler := result.1 } : Server).withFindings f).report result.2 := by
    show ({ s.withFindings f with
      reconciler := ((s.reconciler.withFindings f).update (s.surroundings host) u).1 } : Server).report
        ((s.reconciler.withFindings f).update (s.surroundings host) u).2 = _
    rw [hr]
    rfl
  rw [hleft, report_withFindings]
  rfl

theorem fire_withFindings (h : s.reconciler.ReadsAlike f t.uri) :
    fire host (s.withFindings f) t = (fire host s t).withFindings f := by
  let begun : Server := { s with debounce := s.debounce.expire t.number, clock := t.due }
  have hupdate : (begun.withFindings f).update host t.uri = (begun.update host t.uri).withFindings f :=
    update_withFindings h
  show ({ (begun.withFindings f).update host t.uri with
    debounce := ((((begun.withFindings f).update host t.uri).debounce.complete t.number).finish t.id
      t.uri).close t.number } : Server) = _
  rw [hupdate]
  rfl

theorem agenda_withFindings (h : ∀ t ∈ s.debounce.dueBy time, s.reconciler.ReadsAlike f t.uri) :
    (s.withFindings f).agenda host time = s.agenda host time := by
  have hends (a : DelayedTask) (ha : a ∈ s.debounce.dueBy time) (b : DelayedTask)
      (hb : b ∈ s.debounce.dueBy time) : (s.withFindings f).endsBefore host a b = s.endsBefore host a b := by
    have hca : (s.reconciler.withFindings f).course (s.surroundings host) a.uri =
        s.reconciler.course (s.surroundings host) a.uri := Reconciler.course_withFindings (h a ha)
    have hcb : (s.reconciler.withFindings f).course (s.surroundings host) b.uri =
        s.reconciler.course (s.surroundings host) b.uri := Reconciler.course_withFindings (h b hb)
    show (a.due < b.due || (a.due = b.due &&
      ((s.reconciler.withFindings f).course (s.surroundings host) a.uri).endsFirst
        ((s.reconciler.withFindings f).course (s.surroundings host) b.uri)) : Bool) = _
    rw [hca, hcb]
    rfl
  have hsort := List.map_mergeSort (f := id) hends
  rw [List.map_id, List.map_id] at hsort
  exact hsort

theorem foldl_fire_withFindings (hr : s.reconciler.registry.Resolves) (hn : s.reconciler.registry.Named)
    (hf : f.erase g = s.reconciler.workspace.findings.erase g) (hts : ∀ t ∈ ts, t.uri ≠ g) :
    ts.foldl (fire host) (s.withFindings f) = (ts.foldl (fire host) s).withFindings f := by
  induction ts generalizing s with
  | nil => rfl
  | cons t ts ih =>
    obtain ⟨ht, hts⟩ := List.forall_mem_cons.1 hts
    have hreads : s.reconciler.ReadsAlike f t.uri := Reconciler.readsAlike_of_ne hr hn hf ht
    have hregistry : (fire host s t).reconciler.registry = s.reconciler.registry := registry_fire
    have hworkspace : (fire host s t).reconciler.workspace = s.reconciler.workspace := by
      rw [reconciler_fire]
      exact Reconciler.workspace_update
    rw [List.foldl_cons, List.foldl_cons, fire_withFindings hreads]
    exact ih (hregistry ▸ hr) (hregistry ▸ hn) (hworkspace ▸ hf) hts

namespace AlikeBut

/-- As long as no update of the document runs, time makes no other difference. -/
theorem elapse (h : s.AlikeBut s' g) (hr : s.reconciler.registry.Resolves) (hn : s.reconciler.registry.Named)
    (hno : ∀ due, s.DueAt g due → s.clock + milliseconds < due) :
    (s.elapse host milliseconds).AlikeBut (s'.elapse host milliseconds) g := by
  obtain ⟨f, rfl, hf⟩ := h
  have hne : ∀ t ∈ s.agenda host (s.clock + milliseconds), t.uri ≠ g := by
    rintro t ht rfl
    obtain ⟨hw, hdue⟩ := mem_agenda_iff.1 ht
    have := hno t.due ⟨t, hw, rfl, rfl⟩
    omega
  have hreads : ∀ t ∈ s.debounce.dueBy (s.clock + milliseconds), s.reconciler.ReadsAlike f t.uri := by
    intro t ht
    exact Reconciler.readsAlike_of_ne hr hn hf (hne t (mem_agenda.2 ht))
  have helapse : (s.withFindings f).elapse host milliseconds = (s.elapse host milliseconds).withFindings f := by
    show ({ ((s.withFindings f).agenda host (s.clock + milliseconds)).foldl (fire host) (s.withFindings f) with
      clock := s.clock + milliseconds } : Server) = _
    rw [agenda_withFindings hreads, foldl_fire_withFindings hr hn hf hne]
    rfl
  exact ⟨f, helapse, by rw [workspace_elapse, hf]⟩

/-- A report about the document puts an end to the difference. -/
theorem reportFindings_eq (h : s.AlikeBut s' g) (fs : List Finding) :
    s'.reportFindings g fs = s.reportFindings g fs := by
  obtain ⟨f, rfl, hf⟩ := h
  have hset : (s.withFindings f).edit (.setFindings g fs) = s.edit (.setFindings g fs) := by
    show ({ s with reconciler := { s.reconciler with
      workspace := ({ s.reconciler.workspace with findings := f } : Workspace).setFindings g fs } } : Server) = _
    rw [Workspace.setFindings_congr hf]
    rfl
  rw [reportFindings, hset]
  rfl

theorem of_reports (s : Server) (g : Uri) (fs fs' : List Finding) :
    (s.reportFindings g fs).AlikeBut (s.reportFindings g fs') g := by
  refine ⟨(s.reconciler.workspace.setFindings g fs').findings, rfl, ?_⟩
  exact (Workspace.erase_findings_setFindings_self fs').trans (Workspace.erase_findings_setFindings_self fs).symm

theorem openDocument (h : s.AlikeBut s' g) (recipe : Uri) (text : String) :
    (s.openDocument recipe text).AlikeBut (s'.openDocument recipe text) g := by
  obtain ⟨f, rfl, hf⟩ := h
  have hone (s : Server) (l : Language) : scheduleDocument recipe (s.withFindings f) l =
      (scheduleDocument recipe s l).withFindings f := by
    have hsame : (s.withFindings f).reconciler.registry = s.reconciler.registry := rfl
    unfold scheduleDocument
    rw [hsame]
    cases s.reconciler.registry.document? recipe l <;> rfl
  have hopen : (s.withFindings f).openDocument recipe text = (s.openDocument recipe text).withFindings f := by
    have hedit : (s.withFindings f).edit (.setText recipe text) = (s.edit (.setText recipe text)).withFindings f :=
      rfl
    rw [openDocument_eq_foldl, openDocument_eq_foldl, hedit]
    exact List.foldl_hom (fun s : Server => s.withFindings f) hone
  refine ⟨f, hopen, ?_⟩
  obtain ⟨d, h, -⟩ := openDocument_eq s recipe text
  rw [h, hf]
  rfl

theorem configure (h : s.AlikeBut s' g) {settings : Json}
    (hreview : ∀ surroundings, .review surroundings ∉ (Demand.configure settings).operations s host) :
    (s.configure host settings).AlikeBut (s'.configure host settings) g := by
  obtain ⟨f, rfl, hf⟩ := h
  have hlaid : (s.withFindings f).laidOver settings = (s.laidOver settings).withFindings f := rfl
  have hconfiguration : (s.withFindings f).reconciler.configuration = s.reconciler.configuration := rfl
  rw [configure_eq_ite, configure_eq_ite, hlaid, hconfiguration]
  by_cases hoff : (s.reconciler.configuration.enabled && !(s.reconciler.configuration.apply settings).enabled) = true
  · rw [if_pos hoff, if_pos hoff]
    have hclear : ((s.laidOver settings).withFindings f).reconciler.clear =
        (s.laidOver settings).reconciler.clear.withFindings f :=
      List.foldl_hom (fun r : Reconciler => r.withFindings f) fun _ _ => rfl
    have hworkspace : ((s.laidOver settings).reconciler.perform .clear).workspace = s.reconciler.workspace :=
      Reconciler.workspace_perform (by simp)
    rw [hclear]
    exact ⟨f, rfl, by rw [hf, ← hworkspace]; rfl⟩
  rw [if_neg hoff, if_neg hoff]
  by_cases hnew : s.reconciler.configuration ≠ s.reconciler.configuration.apply settings
  · have hconsequences : s.consequences host settings = [.review (s.surroundings host)] := by
      rw [consequences, if_neg hoff, if_pos hnew]
    refine absurd (List.mem_cons_of_mem _ ?_) (hreview (s.surroundings host))
    rw [hconsequences]
    exact List.mem_singleton_self _
  · rw [if_neg hnew, if_neg hnew]
    exact ⟨f, rfl, hf⟩

/-- Without a review nothing that is asked for makes another difference. -/
theorem meet (h : s.AlikeBut s' g) (hd : ∀ fs, d ≠ .reportFindings g fs)
    (hreview : ∀ surroundings, .review surroundings ∉ d.operations s host) :
    (s.meet host d).AlikeBut (s'.meet host d) g := by
  cases d with
  | openDocument recipe text => exact h.openDocument recipe text
  | reportFindings u fs =>
    have hu : u ≠ g := by
      rintro rfl
      exact hd fs rfl
    obtain ⟨f, rfl, hf⟩ := h
    exact ⟨_, rfl, Workspace.erase_findings_setFindings_of_ne hu hf fs⟩
  | review => exact absurd (List.mem_singleton_self _) (hreview (s.surroundings host))
  | configure settings => exact h.configure hreview
  | beginSession settings =>
    obtain ⟨f, rfl, hf⟩ := h
    cases settings <;> exact ⟨f, rfl, hf⟩
  | _ =>
    obtain ⟨f, rfl, hf⟩ := h
    exact ⟨f, rfl, hf⟩

theorem lifecycle_eq (h : s.AlikeBut s' g) : s'.lifecycle = s.lifecycle := by
  obtain ⟨f, rfl, -⟩ := h
  rfl

theorem published_eq (h : s.AlikeBut s' g) : s'.reconciler.published = s.reconciler.published := by
  obtain ⟨f, rfl, -⟩ := h
  rfl

theorem report?_eq (h : s.AlikeBut s' g) (e : Event) : s'.report? e = s.report? e := by
  obtain ⟨f, rfl, -⟩ := h
  cases e <;> rfl

end AlikeBut

/-! ### Until the document is updated -/

theorem clock_le_step : s.clock ≤ (s.step host e).1.clock := by
  cases e with
  | message m =>
    rw [fst_step_message]
    exact Nat.le_of_eq clock_meet.symm
  | client c => exact Nat.le_refl _
  | advance milliseconds => exact Nat.le_add_right ..

theorem clock_le_run (host : Host) (events : List Event) : s.clock ≤ (s.run host events).clock := by
  induction events generalizing s with
  | nil => exact Nat.le_refl _
  | cons e events ih =>
    exact Nat.le_trans clock_le_step ih

/-- The servers are the same but for the findings about a document, and until some time no update of it
runs. -/
structure AlikeUntil (s s' : Server) (g : Uri) (limit : Nat) : Prop where
  alike : s.AlikeBut s' g
  resolves : s.reconciler.registry.Resolves
  kept : s.debounce.Kept
  since : limit ≤ s.clock + debounceDelay
  late : ∀ due, s.DueAt g due → limit ≤ due

namespace AlikeUntil

theorem of_reports (hr : s.reconciler.registry.Resolves) (hk : s.debounce.Kept) (g : Uri) (fs fs' : List Finding) :
    (s.reportFindings g fs).AlikeUntil (s.reportFindings g fs') g (s.clock + debounceDelay) where
  alike := .of_reports s g fs fs'
  resolves := hr
  kept := hk.act (.schedule g _)
  since := Nat.le_refl _
  late due hdue := by
    have hedited : (s.edit (.setFindings g fs)).debounce.Kept := hk
    rcases (dueAt_scheduleUpdate hedited).1 hdue with ⟨-, rfl⟩ | ⟨hne, -⟩
    · exact Nat.le_refl _
    · exact absurd rfl hne

theorem elapse (h : s.AlikeUntil s' g limit) (hn : s.reconciler.registry.Named)
    (hclock : s.clock + milliseconds < limit) :
    (s.elapse host milliseconds).AlikeUntil (s'.elapse host milliseconds) g limit where
  alike := h.alike.elapse h.resolves hn fun due hdue => Nat.lt_of_lt_of_le hclock (h.late due hdue)
  resolves := by
    rw [registry_elapse]
    exact h.resolves
  kept := kept_elapse h.kept milliseconds
  since := by
    have := h.since
    rw [clock_elapse]
    omega
  late due hdue := h.late due ((dueAt_elapse h.kept).1 hdue).2

theorem meet (h : s.AlikeUntil s' g limit)
    (hreview : ∀ surroundings, .review surroundings ∉ d.operations s host)
    (hr : (s.meet host d).reconciler.registry.Resolves) :
    (s.meet host d).AlikeUntil (s'.meet host d) g limit where
  alike := by
    by_cases hd : ∃ fs, d = .reportFindings g fs
    · obtain ⟨fs, rfl⟩ := hd
      have hequal : s'.meet host (.reportFindings g fs) = s.meet host (.reportFindings g fs) :=
        h.alike.reportFindings_eq fs
      rw [hequal]
      exact .refl _ g
    · exact h.alike.meet (fun fs hfs => hd ⟨fs, hfs⟩) hreview
  resolves := hr
  kept := kept_meet h.kept
  since := by
    rw [clock_meet]
    exact h.since
  late due hdue := by
    rcases (dueAt_meet h.kept).1 hdue with ⟨-, rfl⟩ | ⟨-, hdue⟩
    · exact h.since
    · exact h.late due hdue

theorem step (h : s.AlikeUntil s' g limit) (hn : s.reconciler.registry.Named)
    (hreview : ∀ surroundings, .review surroundings ∉ s.operationsAsked host e)
    (hclock : (s.step host e).1.clock < limit) :
    (s.step host e).1.AlikeUntil (s'.step host e).1 g limit := by
  cases e with
  | message m =>
    have hresolves : (s.step host (.message m)).1.reconciler.registry.Resolves := resolves_step h.resolves
    rw [fst_step_message] at hresolves
    rw [fst_step_message, fst_step_message, h.alike.lifecycle_eq]
    exact h.meet hreview hresolves
  | client c =>
    obtain ⟨f, rfl, hf⟩ := h.alike
    exact ⟨⟨f, rfl, hf⟩, h.resolves, h.kept, h.since, h.late⟩
  | advance milliseconds => exact h.elapse hn hclock

theorem run {between : List Event} (h : s.AlikeUntil s' g limit)
    (hn : ∀ before, before <+: between → (s.run host before).reconciler.registry.Named)
    (hreview : ∀ before e, before ++ [e] <+: between → ∀ surroundings,
      .review surroundings ∉ (s.run host before).operationsAsked host e)
    (hclock : (s.run host between).clock < limit) (before : List Event) (hp : before <+: between) :
    (s.run host before).AlikeUntil (s'.run host before) g limit := by
  induction before using List.reverseRecOn with
  | nil => exact h
  | append_singleton before e ih =>
    have hbefore : before <+: between := (List.prefix_append before [e]).trans hp
    have hle : (s.run host (before ++ [e])).clock ≤ (s.run host between).clock := by
      obtain ⟨rest, rfl⟩ := hp
      have hsplit : s.run host (before ++ [e] ++ rest) = (s.run host (before ++ [e])).run host rest := run_append
      rw [hsplit]
      exact clock_le_run host rest
    rw [run_concat] at hle ⊢
    rw [run_concat]
    exact (ih hbefore).step (hn before hbefore) (hreview before e hp) (by omega)

end AlikeUntil

theorem resolves_run (host : Host) (events : List Event) :
    (start.run host events).reconciler.registry.Resolves := by
  induction events using List.reverseRecOn with
  | nil => exact Registry.resolves_empty
  | append_singleton events e ih =>
    rw [run_concat]
    exact resolves_step ih

theorem fst_step_of_report? (h : s.report? e = some (g, fs)) : (s.step host e).1 = s.reportFindings g fs := by
  cases e with
  | message m => rw [fst_step_message, demand_eq_reportFindings_iff.2 h, meet]
  | client c => simp [report?, notification?] at h
  | advance milliseconds => simp [report?, notification?] at h

/-- After some events one reports findings about a document, and after more events another one does so
again, within the delay. All generated documents that are registered in between have names that tell
their languages, and nothing is reviewed in between. -/
structure Supersedes (host : Host) (before : List Event) (e : Event) (between : List Event) (e' : Event)
    (g : Uri) : Prop where
  reported : ∃ fs, (start.run host before).report? e = some (g, fs)
  again : ∃ fs, (start.run host (before ++ e :: between)).report? e' = some (g, fs)
  soon : (start.run host (before ++ e :: between)).clock < (start.run host before).clock + debounceDelay
  named : ∀ events, events <+: between →
    (start.run host (before ++ e :: events)).reconciler.registry.Named
  unreviewed : ∀ events e₁, events ++ [e₁] <+: between → ∀ surroundings,
    .review surroundings ∉ (start.run host (before ++ e :: events)).operationsAsked host e₁

namespace Supersedes
variable {before between : List Event} {e e' e₀ : Event}

theorem alikeUntil (h : Supersedes host before e between e' g)
    (h₀ : ∃ fs, (start.run host before).report? e₀ = some (g, fs))
    (events : List Event) (hp : events <+: between) :
    (start.run host (before ++ e :: events)).AlikeUntil (start.run host (before ++ e₀ :: events)) g
      ((start.run host before).clock + debounceDelay) := by
  obtain ⟨fs, hfs⟩ := h.reported
  obtain ⟨fs', hfs'⟩ := h₀
  have hrun (e : Event) (events : List Event) : start.run host (before ++ e :: events) =
      ((start.run host before).step host e).1.run host events := run_append
  have hkept : (start.run host before).debounce.Kept := (OnTime.run host before g).kept
  have hstep : ((start.run host before).step host e).1.AlikeUntil ((start.run host before).step host e₀).1 g
      ((start.run host before).clock + debounceDelay) := by
    rw [fst_step_of_report? hfs, fst_step_of_report? hfs']
    exact .of_reports (resolves_run host before) hkept g fs fs'
  have hsoon := h.soon
  rw [hrun] at hsoon ⊢
  rw [hrun]
  refine hstep.run (fun events hp => ?_) (fun events e₁ hp => ?_) hsoon events hp
  · rw [← hrun]
    exact h.named events hp
  · rw [← hrun]
    exact h.unreviewed events e₁ hp

/-- After the second report it does not matter any more what the first one said. -/
theorem run_eq (h : Supersedes host before e between e' g)
    (h₀ : ∃ fs, (start.run host before).report? e₀ = some (g, fs)) :
    start.run host (before ++ e₀ :: between ++ [e']) = start.run host (before ++ e :: between ++ [e']) := by
  have halike := (h.alikeUntil h₀ between (List.prefix_refl _)).alike
  obtain ⟨fs, hfs⟩ := h.again
  have hfs' := (halike.report?_eq e').trans hfs
  rw [run_concat, run_concat, fst_step_of_report? hfs, fst_step_of_report? hfs', halike.reportFindings_eq]

end Supersedes

/-- However a run goes: the task of a document fires after the delay for every event that called for its
update, unless another one called for it again before, and then once; it never fires otherwise. In the
course of an event just the documents are updated that its message asks for and those whose tasks fire,
each in its time; these updates and what the message asks for besides are all that the event does to the
reconciler, but for its statistics. Whatever is updated reads what was reported last. Findings that are
superseded within the delay show nowhere: before they are superseded, the same is published whatever
they are, and afterwards the server is the same. -/
theorem updates_run_once_after_the_delay (host : Host) :
    (∀ events g, (dues g (start.fired host events)).Pairwise (· < ·) ∧
      ∀ due, due ∈ dues g (start.fired host events) ↔ due ≤ (start.run host events).clock ∧
        ∃ time, start.CalledAt host events g time ∧ due = time + debounceDelay ∧
          ∀ time', start.CalledAt host events g time' → time < time' → time + debounceDelay ≤ time') ∧
    (∀ events e, let s := start.run host events
      (∃ st, (s.step host e).1.reconciler =
        { s.reconciler.performAll (s.operationsIn host e) with statistics := st }) ∧
        (s.updatesIn host e).map Call.generated =
          (s.reconciler.calls (s.operationsAsked host e)).map Call.generated ++
            (s.firedIn host e).map DelayedTask.uri ∧
        ∀ t ∈ s.firedIn host e, s.clock < t.due ∧ t.due ≤ (start.run host (events ++ [e])).clock) ∧
    (∀ events e, ∀ x ∈ (start.run host events).updatesIn host e, ∀ reading, x.reading? = some reading →
      x.findings = start.latestFindings host (events ++ [e]) reading.document.uri) ∧
    ∀ before e between e' g, Supersedes host before e between e' g →
      ∀ e₀, (∃ fs, (start.run host before).report? e₀ = some (g, fs)) →
        (∀ events, events <+: between →
          (start.run host (before ++ e₀ :: events)).reconciler.published =
            (start.run host (before ++ e :: events)).reconciler.published) ∧
        start.run host (before ++ e₀ :: between ++ [e']) = start.run host (before ++ e :: between ++ [e']) := by
  refine ⟨fun events g => ?_, fun events e => ⟨reconciler_step _ host e, generated_updatesIn, fun t ht => ?_⟩,
    fun events e x hx reading hg => ?_, ?_⟩
  · have h := OnTime.run host events g
    exact ⟨h.increasing, h.ran⟩
  · exact due_of_mem_firedIn ht
  · exact findings_of_mem_updatesIn hx hg
  · intro before e between e' g h e₀ h₀
    refine ⟨fun events hp => (h.alikeUntil h₀ events hp).alike.published_eq, h.run_eq h₀⟩

namespace Sample
open Reconciler.Sample

/-- A session in which a recipe is open and its document registered. -/
def beginning : List Event := [.client editor, .message ⟨"initialize", some beginParams, true⟩,
  .message ⟨"textDocument/didOpen", some openParams, false⟩,
  .message ⟨"bitbake/embeddedDocument", some documentParams, false⟩]

def nothingFound : Json := .object [("uri", script.toJson), ("diagnostics", .array [])]

def reportOf (params : Json) : Event := .message ⟨"bitbake/embeddedDiagnostics", some params, false⟩

theorem supersedes_nothingFound : Supersedes noFiles beginning (reportOf findingsParams)
    [.advance 100] (reportOf nothingFound) script where
  reported := ⟨findings, by decide +kernel⟩
  again := ⟨[], by decide +kernel⟩
  soon := by decide +kernel
  named events hp := by
    have hregistry : (start.run noFiles
        (beginning ++ reportOf findingsParams :: events)).reconciler.registry = .ofList [wholeDocument] := by
      rcases List.prefix_cons_iff.1 hp with rfl | ⟨rest, rfl, hrest⟩
      · decide +kernel
      · rw [List.prefix_nil.1 hrest]
        decide +kernel
    rw [hregistry]
    exact Registry.named_ofList (by decide)
  unreviewed events e hp surroundings := by
    have he : e = .advance 100 := by
      rcases List.prefix_cons_iff.1 hp with h | ⟨rest, h, hrest⟩
      · exact absurd h (by simp)
      · rw [List.prefix_nil.1 hrest] at h
        exact List.singleton_inj.1 (List.append_inj' (h.trans (List.nil_append _).symm) rfl).2
    rw [he]
    exact List.not_mem_nil

end Sample

open Sample Reconciler.Sample in
/-- Findings are reported, and nothing is found any more before the delay is over: one update shows
nothing. -/
theorem updates_run_once_after_the_delay_of_script :
    let events := beginning ++ reportOf findingsParams :: [.advance 100] ++ [reportOf nothingFound]
    events.length = 7 ∧
    start.run noFiles (beginning ++ reportOf nothingFound :: [.advance 100] ++
      [reportOf nothingFound]) = start.run noFiles events ∧
    dues script (start.fired noFiles (events ++ [.advance 200])) = [250] ∧
    (start.run noFiles (events ++ [.advance 200])).reconciler.published = [⟨recipe, []⟩] := by
  intro events
  refine ⟨rfl, ?_, by decide +kernel, by decide +kernel⟩
  obtain ⟨-, -, -, hsuperseded⟩ := updates_run_once_after_the_delay noFiles
  exact (hsuperseded _ _ _ _ _ supersedes_nothingFound _ ⟨[], by decide +kernel⟩).2

/-- The event is a notification of findings about a document, whether or not it is acted on. -/
def Announces (e : Event) (g : Uri) : Prop :=
  ∃ j fs, e = .message ⟨"bitbake/embeddedDiagnostics", some j, false⟩ ∧ Params.reported? j = some (g, fs)

open Sample Reconciler.Sample in
/-- What is reported before the session begins is dropped. -/
theorem report_before_session_is_dropped :
    ¬ ∀ (host : Host) (events : List Event) (g : Uri) (time : Nat),
      (∃ before e after, events = before ++ e :: after ∧
        (Announces e g ∨ (start.run host before).Schedules e g) ∧ (start.run host before).clock = time) →
      (∀ before e after, events = before ++ e :: after →
        Announces e g ∨ (start.run host before).Schedules e g → time < (start.run host before).clock →
          time + debounceDelay ≤ (start.run host before).clock) →
      time + debounceDelay ≤ (start.run host events).clock →
      time + debounceDelay ∈ dues g (start.fired host events) := by
  intro h
  have hlater : ∀ before e after, [reportOf findingsParams, .advance 200] = before ++ e :: after →
      Announces e script ∨ (start.run noFiles before).Schedules e script →
        0 < (start.run noFiles before).clock →
          0 + debounceDelay ≤ (start.run noFiles before).clock := by
    intro before e after hevents hcalls hlt
    rcases List.cons_eq_append_iff.1 hevents with ⟨rfl, -⟩ | ⟨rest, rfl, hrest⟩
    · exact absurd hlt (Nat.lt_irrefl 0)
    rcases List.cons_eq_append_iff.1 hrest with ⟨-, he⟩ | ⟨rest', -, hrest'⟩
    · cases he
      rcases hcalls with ⟨j, fs, he, -⟩ | hcalls
      · cases he
      · exact absurd hcalls not_schedules_advance
    · simp at hrest'
  have hdropped := h noFiles [reportOf findingsParams, .advance 200] script 0
    ⟨[], _, _, rfl, .inl ⟨findingsParams, findings, rfl, rfl⟩, rfl⟩ hlater (by decide +kernel)
  exact absurd hdropped (by decide +kernel)

end Server
end RecipeDiag
