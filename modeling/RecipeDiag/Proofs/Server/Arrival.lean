import RecipeDiag.Proofs.Reconciler.Knowledge
import RecipeDiag.Proofs.Server.Agreement
import RecipeDiag.Proofs.Server.Succession

/-!
# Messages in any order

A client opens recipes, registers documents and reports findings, each once and in any order. The last
message that bears on a document decides: a recipe that is opened and findings that are reported make
their documents wait for an update, but a document that is registered does not wait. So if the recipe
is open by then and the update that the findings called for has fired, nothing makes up for it, and the
document is overlooked (`Overlooks`).

`Follows` says what the server has come to in the middle of a conversation; messages, tasks that fire
and time keep it. `arrivals_agree_unless_overlooked`: in the end the channels hold what one review of
all that was told shows, but for the documents that were overlooked
(`findings_lost_before_registration`).
-/

namespace RecipeDiag

theorem Language.mem_all (l : Language) : l ∈ all := by
  cases l <;> decide

/-! ### Outcomes of some documents -/

open Classical in
/-- The outcomes of some documents; the others come to nothing. -/
noncomputable def Outcomes.only (out : Outcomes) (P : Uri → Prop) : Outcomes :=
  fun u => if P u then out u else .ok none

namespace Outcomes
variable {out : Outcomes} {P P' : Uri → Prop} {u : Uri} {o : Outcome}

theorem only_of_pos (h : P u) : out.only P u = out u := if_pos h

theorem only_eq_some_iff : out.only P u = .ok (some o) ↔ P u ∧ out u = .ok (some o) := by
  unfold only
  split
  · next h => exact (and_iff_right h).symm
  · next h => simp [h]

theorem Separate.only (h : out.Separate) (P : Uri → Prop) : (out.only P).Separate :=
  fun u v o o' hu hv => h u v o o' (only_eq_some_iff.1 hu).2 (only_eq_some_iff.1 hv).2

end Outcomes

/-- Outcomes may be added of documents that are late, or come to no diagnostics. -/
theorem Channels.Reflects.only_mono {c : Channels} {out : Outcomes} {P P' Late Late' : Uri → Prop}
    (h : c.Reflects (out.only P) Late) (hp : ∀ u, P u → P' u)
    (hl : ∀ u o, P' u → out u = .ok (some o) → o.diagnostics ≠ [] → P u ∧ (Late u → Late' u) ∨ Late' u) :
    c.Reflects (out.only P') Late' where
  sound l recipe hne := by
    obtain ⟨u, hu⟩ := h.sound l recipe hne
    obtain ⟨hpu, ho⟩ := Outcomes.only_eq_some_iff.1 hu
    exact ⟨u, Outcomes.only_eq_some_iff.2 ⟨hp u hpu, ho⟩⟩
  complete u o hu hne := by
    obtain ⟨hpu, ho⟩ := Outcomes.only_eq_some_iff.1 hu
    rcases hl u o hpu ho hne with ⟨hpu, hlate⟩ | hlate
    · exact (h.complete u o (Outcomes.only_eq_some_iff.2 ⟨hpu, ho⟩) hne).imp_left hlate
    · exact .inl hlate

namespace Server

section
variable {client : Client} {s s' : Server} {host : Host} {t : DelayedTask} {u v recipe : Uri}
  {text : String} {d : GeneratedDocument} {fs : List Finding} {milliseconds : Nat} {P : Server → Prop}

/-! ### Tasks that fire were waiting -/

/-- What every waiting task preserves that fires, and the clock does not matter to, time preserves. -/
theorem elapse_induction_of_kept (hk : s.debounce.Kept)
    (hfire : ∀ s t, P s → t ∈ s.debounce.tasks → t.stage = .waiting → P (fire host s t))
    (hclock : ∀ s time, P s → P { s with clock := time }) (h : P s) (milliseconds : Nat) :
    P (s.elapse host milliseconds) := by
  -- a task that fires leaves the others waiting, as they have other numbers
  have hfold (ts : List DelayedTask) : ∀ s : Server, (∀ t ∈ ts, t ∈ s.debounce.tasks ∧ t.stage = .waiting) →
      (ts.map DelayedTask.number).Nodup → P s → P (ts.foldl (fire host) s) := by
    induction ts with
    | nil => exact fun s _ _ h => h
    | cons t ts ih =>
      intro s hts hnumbers h
      obtain ⟨ht, hts⟩ := List.forall_mem_cons.1 hts
      rw [List.map_cons, List.nodup_cons] at hnumbers
      refine ih _ (fun t' ht' => ⟨?_, (hts t' ht').2⟩) hnumbers.2 (hfire s t h ht.1 ht.2)
      rw [debounce_fire]
      exact Debounce.mem_tasks_fire (hts t' ht').1 fun hnumber =>
        hnumbers.1 (hnumber ▸ List.mem_map_of_mem ht')
  refine hclock _ _ (hfold _ s (fun t ht => ?_) ?_ h)
  · obtain ⟨ht, hdue⟩ := List.mem_filter.1 (mem_agenda.1 ht)
    simp only [Bool.and_eq_true, beq_iff_eq] at hdue
    exact ⟨ht, hdue.1⟩
  · have hperm : (s.agenda host (s.clock + milliseconds)).Perm (s.debounce.dueBy (s.clock + milliseconds)) :=
      List.mergeSort_perm ..
    exact (hperm.map DelayedTask.number).nodup_iff.2
      (hk.numbered.nodup.sublist (List.filter_sublist.map _))

/-! ### Opening a recipe -/

/-- Besides what waited before, every document of the recipe that is opened waits. -/
theorem isPending_openDocument : (s.openDocument recipe text).debounce.isPending u = true ↔
    s.debounce.isPending u = true ∨ ∃ l d, s.reconciler.registry.document? recipe l = some d ∧ d.uri = u := by
  have hfold (ls : List Language) : ∀ s : Server,
      (ls.foldl (scheduleDocument recipe) s).debounce.isPending u = true ↔
        s.debounce.isPending u = true ∨
          ∃ l ∈ ls, ∃ d, s.reconciler.registry.document? recipe l = some d ∧ d.uri = u := by
    induction ls with
    | nil => simp
    | cons l ls ih =>
      intro s
      rw [List.foldl_cons, ih, scheduleDocument]
      cases hd : s.reconciler.registry.document? recipe l with
      | none => simp [hd]
      | some d =>
        simp only [Option.elim_some, scheduleUpdate, Debounce.isPending_schedule, Bool.or_eq_true,
          decide_eq_true_eq, List.exists_mem_cons_iff, hd, Option.some.injEq, exists_eq_left']
        rw [or_comm (a := u = d.uri), or_assoc, eq_comm (a := u)]
  rw [openDocument_eq_foldl]
  refine (hfold _ _).trans (or_congr_right ?_)
  constructor
  · rintro ⟨l, -, d, hd, hu⟩
    exact ⟨l, d, hd, hu⟩
  · rintro ⟨l, d, hd, hu⟩
    exact ⟨l, Language.mem_all l, d, hd, hu⟩

theorem openDocument_eq (s : Server) (recipe : Uri) (text : String) : ∃ d,
    s.openDocument recipe text = { s with
      reconciler := s.reconciler.edit (.setText recipe text), debounce := d } ∧
    (s.debounce.Kept → d.Kept) := by
  refine openDocument_induction (P := fun s' => ∃ d, s' = { s with
    reconciler := s.reconciler.edit (.setText recipe text), debounce := d } ∧ (s.debounce.Kept → d.Kept))
    ⟨s.debounce, rfl, id⟩ ?_
  rintro s' u ⟨d, rfl, hd⟩
  exact ⟨_, rfl, fun hk => (hd hk).act (.schedule u _)⟩

/-! ### Documents that are overlooked -/

/-- The recipe of a document is open and there are findings about it, but the document does not wait
for an update. -/
structure Misses (s : Server) (d : GeneratedDocument) : Prop where
  isOpen : ∃ text, s.reconciler.workspace.openDocuments.get? d.recipe = some text
  reported : s.reconciler.workspace.findingsOf d.uri ≠ []
  idle : s.debounce.isPending d.uri = false

/-- Nothing is missing any more that bears on a document that is missed. -/
theorem Misses.isComplete {target : Reconciler} {edits done : List Edit} (h : s.Misses d)
    (ht : target.Awaits edits) (hsub : ∀ e ∈ done, e ∈ edits) (hk : s.reconciler.Knows done)
    (hd : .register d ∈ edits) : target.IsComplete edits (done ++ [.register d]) d.uri := by
  intro e he hconcerns
  cases e with
  | setText recipe text =>
    have hrecipe : target.registry.recipe? d.uri = some d.recipe :=
      (ht.knows.documents.recipe?_eq ..).2 ⟨d, hd, rfl, rfl⟩
    cases hrecipe.symm.trans hconcerns
    obtain ⟨text', hopen⟩ := h.isOpen
    have hm := (hk.texts _ _).1 hopen
    exact List.mem_append_left _ (ht.eq_of_not_apart he (hsub _ hm) (fun ha => ha rfl) ▸ hm)
  | register d' =>
    obtain rfl : d' = d := ht.eq_of_uri_eq he hd hconcerns
    exact List.mem_append_right _ (List.mem_singleton_self _)
  | setFindings v fs =>
    obtain rfl : v = d.uri := hconcerns
    obtain ⟨fs', hm⟩ : ∃ fs', .setFindings d.uri fs' ∈ done :=
      Classical.byContradiction fun hno => h.reported (hk.unreported _ fun fs' hm => hno ⟨fs', hm⟩)
    exact List.mem_append_left _ (ht.eq_of_not_apart he (hsub _ hm) (fun ha => ha rfl) ▸ hm)
  | close recipe => exact hconcerns.elim
  | removeDocuments recipe => exact hconcerns.elim

/-- In one of the events a document is registered, although then nothing makes up for its update. -/
def Overlooks (s : Server) (host : Host) (events : List Event) (d : GeneratedDocument) : Prop :=
  ∃ before j after, events = before ++ .message ⟨"bitbake/embeddedDocument", some j, false⟩ :: after ∧
    GeneratedDocument.ofJson? j = some d ∧ (s.run host before).Misses d

theorem overlooks_cons {e : Event} {events : List Event} : s.Overlooks host (e :: events) d ↔
    (∃ j, e = .message ⟨"bitbake/embeddedDocument", some j, false⟩ ∧
      GeneratedDocument.ofJson? j = some d ∧ s.Misses d) ∨
    (s.step host e).1.Overlooks host events d := by
  constructor
  · rintro ⟨before, j, after, hevents, hj, hm⟩
    cases before with
    | nil =>
      cases hevents
      exact .inl ⟨j, rfl, hj, hm⟩
    | cons e' before =>
      cases hevents
      exact .inr ⟨before, j, after, rfl, hj, hm⟩
  · rintro (⟨j, rfl, hj, hm⟩ | ⟨before, j, after, rfl, hj, hm⟩)
    · exact ⟨[], j, events, rfl, hj, hm⟩
    · exact ⟨e :: before, j, after, rfl, hj, hm⟩

theorem Overlooks.register_mem {events : List Event} {edits : List Edit}
    (h : s.Overlooks host events d) (hc : Conveys events edits) : .register d ∈ edits := by
  obtain ⟨before, j, after, rfl, hj, -⟩ := h
  have hm : Event.message ⟨"bitbake/embeddedDocument", some j, false⟩ ∈
      before ++ .message ⟨"bitbake/embeddedDocument", some j, false⟩ :: after := by simp
  generalize before ++ _ :: after = events at hc hm
  induction hc with
  | nil => exact nomatch hm
  | wait milliseconds hc ih => exact ih (by simpa using hm)
  | greet hj' hc ih => exact ih (by simpa using hm)
  | opens hj' hc ih => exact List.mem_cons_of_mem _ (ih (by simpa using hm))
  | registers hj' hc ih =>
    rcases List.mem_cons.1 hm with heq | hm
    · cases heq
      cases hj.symm.trans hj'
      exact List.mem_cons_self ..
    · exact List.mem_cons_of_mem _ (ih hm)
  | reports hj' hc ih => exact List.mem_cons_of_mem _ (ih (by simpa using hm))

theorem overlooks_cons_of_ne {e : Event} {events : List Event} (hs : (s.step host e).1 = s')
    (he : ∀ j, e ≠ .message ⟨"bitbake/embeddedDocument", some j, false⟩) :
    s.Overlooks host (e :: events) d ↔ s'.Overlooks host events d := by
  rw [overlooks_cons, hs]
  exact or_iff_right fun ⟨j, hj, _⟩ => he j hj

/-! ### Following a conversation -/

/-- The server knows what the edits say that are done. No document is late but those that wait, and
those that are lost, which do not wait any more although nothing is missing. -/
structure Follows (client : Client) (host : Host) (target : Reconciler) (edits done : List Edit)
    (lost : Uri → Prop) (s : Server) : Prop where
  lifecycle : s.lifecycle = .initialized
  connected : s.client = client
  configuration : s.reconciler.configuration = target.configuration
  knows : s.reconciler.Knows done
  kept : s.debounce.Kept
  idle : ∀ u, lost u → s.debounce.isPending u = false ∧ target.IsComplete edits done u
  reflects : s.reconciler.channels.Reflects
    (Outcomes.only (target.outcome ⟨host, client.service⟩)
      fun u => target.IsComplete edits done u ∧ ¬ lost u)
    fun u => s.debounce.isPending u = true

namespace Follows
variable {target : Reconciler} {edits done : List Edit} {lost lost' : Uri → Prop}

theorem surroundings_eq (h : s.Follows client host target edits done lost) (host' : Host) :
    s.surroundings host' = ⟨host', client.service⟩ := by
  simp [Server.surroundings, h.lifecycle, h.connected, Lifecycle.isConnected]

theorem congr (h : s.Follows client host target edits done lost) (hl : ∀ u, lost u ↔ lost' u) :
    s.Follows client host target edits done lost' := by
  obtain rfl : lost = lost' := funext fun u => propext (hl u)
  exact h

theorem withClock (h : s.Follows client host target edits done lost) (time : Nat) :
    ({ s with clock := time } : Server).Follows client host target edits done lost :=
  ⟨h.lifecycle, h.connected, h.configuration, h.knows, h.kept, h.idle, h.reflects⟩

theorem greet (h : s.Follows client host target edits done lost) :
    s.greet.Follows client host target edits done lost :=
  ⟨h.lifecycle, h.connected, h.configuration, h.knows, h.kept, h.idle, h.reflects⟩

section
variable (ht : target.Awaits edits) (hsub : ∀ e ∈ done, e ∈ edits)
include ht hsub

/-! ### Time passes -/

/-- The update of a document that lacks nothing comes to what it comes to in the end, and that of any
other to no diagnostics. -/
theorem fire (h : s.Follows client host target edits done lost) (hmem : t ∈ s.debounce.tasks)
    (hw : t.stage = .waiting) :
    (Server.fire host s t).Follows client host target edits done lost := by
  have hlive : t.IsLive := by simp [DelayedTask.IsLive, hw]
  have hpending : s.debounce.isPending t.uri = true :=
    Debounce.isPending_iff.2 ⟨t.entry, h.kept.live t hmem hlive⟩
  have hfound : ¬ lost t.uri := fun hl => Bool.false_ne_true ((h.idle _ hl).1.symm.trans hpending)
  have hstill (v : Uri) (hv : v ≠ t.uri) (hp : s.debounce.isPending v = true) :
      (s.debounce.fire t).isPending v = true := (Debounce.isPending_fire_of_ne hv).trans hp
  obtain ⟨st, as, ns, he⟩ := fire_eq host s t
  rw [he]
  refine ⟨h.lifecycle, h.connected, Reconciler.configuration_takeOver.trans h.configuration,
    h.knows.congr Reconciler.workspace_takeOver Reconciler.registry_takeOver, h.kept.fire hmem hw,
    fun u hu => ⟨?_, (h.idle u hu).2⟩, ?_⟩
  · refine Bool.eq_false_iff.2 fun hp => ?_
    exact Bool.false_ne_true ((h.idle u hu).1.symm.trans (Debounce.isPending_of_fire hp))
  · rw [h.surroundings_eq]
    by_cases hu : target.IsComplete edits done t.uri
    · have hout := h.knows.outcome_eq (s := ⟨host, client.service⟩) ht hsub h.configuration hu
      have honly : Outcomes.only (target.outcome ⟨host, client.service⟩)
          (fun u => target.IsComplete edits done u ∧ ¬ lost u) t.uri =
            target.outcome ⟨host, client.service⟩ t.uri := Outcomes.only_of_pos ⟨hu, hfound⟩
      have hseparate := Reconciler.separate_outcome (s := ⟨host, client.service⟩) ht.resolves ht.names
      rw [hout, ← honly]
      refine (Reconciler.reflects_takeOver h.reflects (hseparate.only _) t.uri).mono ?_
      exact fun v hv => hstill v hv.2 hv.1
    · have hlate : s.reconciler.channels.Reflects
          (Outcomes.only (target.outcome ⟨host, client.service⟩)
            fun u => target.IsComplete edits done u ∧ ¬ lost u)
          fun v => (s.debounce.fire t).isPending v = true := by
        refine h.reflects.only_mono (fun _ hp => hp) fun v o hv _ _ => .inl ⟨hv, hstill v ?_⟩
        rintro rfl
        exact hu hv.1
      refine Reconciler.reflects_takeOver_nil hlate fun o ho => ⟨h.knows.diagnostics_eq_nil ht hsub hu ho, ?_⟩
      -- no other document takes the place of this one
      intro v o' ho' hrecipe hlanguage
      obtain ⟨hv, ho'⟩ := Outcomes.only_eq_some_iff.1 ho'
      exact absurd (h.knows.eq_of_same_entry ht hsub ho ho' hrecipe hlanguage ▸ hv.1) hu

theorem elapse (h : s.Follows client host target edits done lost) (milliseconds : Nat) :
    (s.elapse host milliseconds).Follows client host target edits done lost :=
  elapse_induction_of_kept h.kept (fun _ _ hs hmem hw => hs.fire ht hsub hmem hw)
    (fun _ time hs => hs.withClock time) h _

/-! ### Messages that arrive -/

omit ht hsub in
/-- What a message says is done, and all documents wait that lacked nothing else and may have something
to show. -/
theorem learn {e : Edit} (h : s.Follows client host target edits done lost)
    (hlifecycle : s'.lifecycle = s.lifecycle) (hclient : s'.client = s.client)
    (hedit : s'.reconciler = s.reconciler.edit e) (hknows : s'.reconciler.Knows (done ++ [e]))
    (hkept : s'.debounce.Kept)
    (hpending : ∀ u, s.debounce.isPending u = true → s'.debounce.isPending u = true)
    (hidle : ∀ u, lost' u → s'.debounce.isPending u = false ∧ target.IsComplete edits (done ++ [e]) u)
    (hlost : ∀ u, lost u → lost' u) (hback : ∀ u, target.IsComplete edits done u → lost' u → lost u)
    (hnew : ∀ u o, e.Concerns target.registry u → target.IsComplete edits (done ++ [e]) u → ¬ lost' u →
      target.outcome ⟨host, client.service⟩ u = .ok (some o) → o.diagnostics ≠ [] →
        s'.debounce.isPending u = true) :
    s'.Follows client host target edits (done ++ [e]) lost' := by
  have hchannels : s'.reconciler.channels = s.reconciler.channels := by
    rw [hedit]
    cases e <;> rfl
  have hconfiguration : s'.reconciler.configuration = s.reconciler.configuration := by
    rw [hedit]
    cases e <;> rfl
  refine ⟨hlifecycle.trans h.lifecycle, hclient.trans h.connected,
    hconfiguration.trans h.configuration, hknows, hkept, hidle, ?_⟩
  rw [hchannels]
  refine h.reflects.only_mono (fun u hu => ?_) fun u o hu ho hne => ?_
  · exact ⟨hu.1.append, fun hl => hu.2 (hback u hu.1 hl)⟩
  · by_cases hdone : target.IsComplete edits done u
    · exact .inl ⟨⟨hdone, fun hl => hu.2 (hlost u hl)⟩, hpending u⟩
    · exact .inr (hnew u o (hu.1.concerns hdone) hu.1 hu.2 ho hne)

theorem openDocument (h : s.Follows client host target edits done lost)
    (he : .setText recipe text ∈ edits) (hd : ∀ e ∈ done, e.Apart (.setText recipe text)) :
    (s.openDocument recipe text).Follows client host target edits (done ++ [.setText recipe text])
      lost := by
  have hnot : .setText recipe text ∉ done := fun hm => (show recipe ≠ recipe from hd _ hm) rfl
  have hpending (u : Uri) : (s.openDocument recipe text).debounce.isPending u = true ↔
      s.debounce.isPending u = true ∨
        ∃ l d, s.reconciler.registry.document? recipe l = some d ∧ d.uri = u := isPending_openDocument
  obtain ⟨d, heq, hk⟩ := openDocument_eq s recipe text
  rw [heq] at hpending ⊢
  refine h.learn rfl rfl rfl (h.knows.setText hd) (hk h.kept) (fun u hu => (hpending u).2 (.inl hu))
    (fun u hu => ⟨?_, (h.idle u hu).2.append⟩) (fun _ hu => hu) (fun _ _ hu => hu) ?_
  · -- a document of the recipe would lack the recipe's text
    refine Bool.eq_false_iff.2 fun hp => ?_
    rcases (hpending u).1 hp with hp | ⟨l, d', hd', rfl⟩
    · exact Bool.false_ne_true ((h.idle u hu).1.symm.trans hp)
    · obtain ⟨hm, rfl, -⟩ := (h.knows.documents.document?_eq ..).1 hd'
      have hconcerns : target.registry.recipe? d'.uri = some d'.recipe :=
        (ht.knows.documents.recipe?_eq ..).2 ⟨d', hsub _ hm, rfl, rfl⟩
      exact hnot ((h.idle _ hu).2 _ he hconcerns)
  · intro u o hconcerns hu _ _ _
    obtain ⟨d', hd', rfl, rfl⟩ := (ht.knows.documents.recipe?_eq u recipe).1 hconcerns
    have hm : .register d' ∈ done := by simpa using hu _ hd' rfl
    exact (hpending _).2 (.inr ⟨d'.language, d', (h.knows.documents.document?_eq ..).2 ⟨hm, rfl, rfl⟩, rfl⟩)

omit ht hsub in
theorem reportFindings (h : s.Follows client host target edits done lost)
    (he : .setFindings v fs ∈ edits) (hd : ∀ e ∈ done, e.Apart (.setFindings v fs)) :
    (s.reportFindings v fs).Follows client host target edits (done ++ [.setFindings v fs]) lost := by
  have hnot : .setFindings v fs ∉ done := fun hm => (show v ≠ v from hd _ hm) rfl
  have hpending (u : Uri) : (s.reportFindings v fs).debounce.isPending u =
      (decide (u = v) || s.debounce.isPending u) := Debounce.isPending_schedule
  refine h.learn rfl rfl rfl (h.knows.setFindings hd) (h.kept.act (.schedule v _)) (fun u hu => ?_)
    (fun u hu => ⟨?_, (h.idle u hu).2.append⟩) (fun _ hu => hu) (fun _ _ hu => hu) ?_
  · rw [hpending, hu, Bool.or_true]
  · have hne : u ≠ v := by
      rintro rfl
      exact hnot ((h.idle u hu).2 _ he rfl)
    rw [hpending, (h.idle u hu).1, decide_eq_false hne, Bool.or_false]
  · rintro u o rfl - - - -
    rw [hpending, decide_eq_true rfl, Bool.true_or]

/-- The document is lost if there is nothing to wait for. -/
theorem register (h : s.Follows client host target edits done lost)
    (he : .register d ∈ edits) (hd : ∀ e ∈ done, e.Apart (.register d)) :
    (s.edit (.register d)).Follows client host target edits (done ++ [.register d])
      fun u => lost u ∨ d.uri = u ∧ s.Misses d := by
  have hnot : .register d ∉ done := fun hm => (hd _ hm).1 rfl
  have hrecipe : target.registry.recipe? d.uri = some d.recipe :=
    (ht.knows.documents.recipe?_eq ..).2 ⟨d, he, rfl, rfl⟩
  have hsub' : ∀ e ∈ done ++ [.register d], e ∈ edits := by
    intro e hm
    rcases List.mem_append.1 hm with hm | hm
    · exact hsub e hm
    · exact List.mem_singleton.1 hm ▸ he
  have hknows := h.knows.register hd
  refine h.learn rfl rfl rfl hknows h.kept (fun _ hu => hu) ?_ (fun _ => .inl) ?_ ?_
  · rintro u (hu | ⟨rfl, hmiss⟩)
    · exact ⟨(h.idle u hu).1, (h.idle u hu).2.append⟩
    · exact ⟨hmiss.idle, hmiss.isComplete ht hsub h.knows he⟩
  · rintro u hu (hl | ⟨rfl, -⟩)
    · exact hl
    · exact absurd (hu _ he rfl) hnot
  · intro u o hconcerns hu hl ho hne
    obtain rfl : d.uri = u := hconcerns
    -- its update has something to show, so the recipe is open and there are findings
    rw [← hknows.outcome_eq ht hsub' h.configuration hu] at ho
    obtain ⟨g, hg, -, -⟩ := Reconciler.admits_of_outcome ho
    have hgrecipe : g.opening.recipe = d.recipe := by
      obtain ⟨d', hm, huri, hr⟩ := (hknows.documents.recipe?_eq ..).1 hg.recipe
      exact hr.symm.trans (congrArg _ (ht.eq_of_uri_eq (hsub' _ hm) he huri))
    refine Classical.byContradiction fun hp => hl (.inr ⟨rfl, ⟨?_, fun hf => hne ?_, ?_⟩⟩)
    · exact ⟨g.recipeText, hgrecipe ▸ hg.text⟩
    · refine Reconciler.diagnostics_eq_nil_of_outcome ho fun g hg => ?_
      rw [hg.uri_document hknows.documents.resolves (hknows.names ht hsub')]
      exact hf
    · exact Bool.eq_false_iff.2 hp

end

/-! ### Whole conversations -/

/-- Once all is told, the documents that were overlooked on the way are lost. -/
theorem run {events : List Event} {rest : List Edit} (ht : target.Awaits edits)
    (h : s.Follows client host target edits done lost) (hp : s.Punctual)
    (hc : Conveys events rest) (he : edits = done ++ rest) :
    (s.run host events).Follows client host target edits edits
        (fun u => lost u ∨ ∃ d, s.Overlooks host events d ∧ d.uri = u) ∧
      (s.run host events).Punctual := by
  -- by induction on the conversation; what a message conveys is done after its step
  induction hc generalizing s done lost with
  | nil =>
    rw [List.append_nil] at he
    subst he
    refine ⟨h.congr fun u => ⟨.inl, ?_⟩, hp⟩
    rintro (hl | ⟨d, ⟨before, j, after, hevents, -⟩, -⟩)
    · exact hl
    · simp at hevents
  | wait milliseconds hc ih =>
    have hsub : ∀ e ∈ done, e ∈ edits := fun e hm => he ▸ List.mem_append_left _ hm
    obtain ⟨hrun, hpunctual⟩ := ih (h.elapse ht hsub _) (hp.elapse host _) he
    refine ⟨hrun.congr fun u => or_congr_right (exists_congr fun d => ?_), hpunctual⟩
    rw [overlooks_cons_of_ne fst_step_advance nofun]
  | greet hj hc ih =>
    have hsub : ∀ e ∈ done, e ∈ edits := fun e hm => he ▸ List.mem_append_left _ hm
    have hstep : (s.step host _).1 = _ := fst_step_greet h.lifecycle hj
    obtain ⟨hrun, hpunctual⟩ := ih h.greet hp.greet he
    rw [run_cons, hstep]
    refine ⟨hrun.congr fun u => or_congr_right (exists_congr fun d => ?_), hpunctual⟩
    rw [overlooks_cons_of_ne hstep (by simp)]
  | opens hj hc ih =>
    have hsub : ∀ e ∈ done, e ∈ edits := fun e hm => he ▸ List.mem_append_left _ hm
    have hstep : (s.step host _).1 = _ := fst_step_opens h.lifecycle hj
    obtain ⟨hmem, hapart⟩ := ht.next he
    rw [List.append_cons] at he
    obtain ⟨hrun, hpunctual⟩ := ih (h.openDocument ht hsub hmem hapart) (hp.openDocument _ _) he
    rw [run_cons, hstep]
    refine ⟨hrun.congr fun u => or_congr_right (exists_congr fun d => ?_), hpunctual⟩
    rw [overlooks_cons_of_ne hstep (by simp)]
  | @registers j d events edits' hj hc ih =>
    have hsub : ∀ e ∈ done, e ∈ edits := fun e hm => he ▸ List.mem_append_left _ hm
    have hstep : (s.step host _).1 = _ := fst_step_registers h.lifecycle hj
    obtain ⟨hmem, hapart⟩ := ht.next he
    rw [List.append_cons] at he
    obtain ⟨hrun, hpunctual⟩ := ih (h.register ht hsub hmem hapart) (hp.edit _) he
    rw [run_cons, hstep]
    refine ⟨hrun.congr fun u => ?_, hpunctual⟩
    simp only [overlooks_cons, hstep]
    constructor
    · rintro ((hl | ⟨hu, hm⟩) | ⟨d', ho, hu⟩)
      · exact .inl hl
      · exact .inr ⟨d, .inl ⟨j, rfl, hj, hm⟩, hu⟩
      · exact .inr ⟨d', .inr ho, hu⟩
    · rintro (hl | ⟨d', ⟨j', hj', hd', hm⟩ | ho, hu⟩)
      · exact .inl (.inl hl)
      · cases hj'
        cases hj.symm.trans hd'
        exact .inl (.inr ⟨hu, hm⟩)
      · exact .inr ⟨d', ho, hu⟩
  | reports hj hc ih =>
    have hstep : (s.step host _).1 = _ := fst_step_reports h.lifecycle hj
    obtain ⟨hmem, hapart⟩ := ht.next he
    rw [List.append_cons] at he
    obtain ⟨hrun, hpunctual⟩ := ih (h.reportFindings hmem hapart) (hp.reportFindings _ _) he
    rw [run_cons, hstep]
    refine ⟨hrun.congr fun u => or_congr_right (exists_congr fun d => ?_), hpunctual⟩
    rw [overlooks_cons_of_ne hstep (by simp)]

theorem begun (ht : target.Awaits edits) (client : Client) (host : Host) :
    ({ Server.begun client with
      reconciler := { Reconciler.start .empty .empty with configuration := target.configuration } } :
        Server).Follows client host target edits [] fun _ => False where
  lifecycle := rfl
  connected := rfl
  configuration := rfl
  knows := Reconciler.knows_start.congr rfl rfl
  kept := Debounce.kept_empty
  idle _ hu := hu.elim
  reflects := by
    refine ⟨fun _ _ hne => absurd Channels.diagnostics_channel_empty hne, fun u o ho _ => ?_⟩
    -- a document that nothing bears on is not registered in the end either
    obtain ⟨⟨hu, -⟩, ho⟩ := Outcomes.only_eq_some_iff.1 ho
    obtain ⟨g, hg, -, -⟩ := Reconciler.admits_of_outcome ho
    obtain ⟨d, hd, huri, -⟩ := (ht.knows.documents.recipe?_eq ..).1 hg.recipe
    exact absurd (hu _ hd huri) List.not_mem_nil

end Follows

/-! ### What is held in the end -/

/-- The server holds what the channels hold, except for the entries that are left out, which are
empty. -/
def HoldsBut (s : Server) (c : Channels) (LeftOut : Language → Uri → Prop) : Prop :=
  ∀ l recipe,
    (LeftOut l recipe → (s.reconciler.channels.channel l).diagnostics recipe = []) ∧
    (¬ LeftOut l recipe →
      (s.reconciler.channels.channel l).diagnostics recipe = (c.channel l).diagnostics recipe)

/-- When all is told and no document waits, the channels hold what a review of the target shows, except
for the lost documents. -/
theorem Follows.holdsBut {target : Reconciler} {edits : List Edit} {lost : Uri → Prop}
    {LeftOut : Language → Uri → Prop} (ht : target.Awaits edits)
    (hempty : target.channels = .empty)
    (hleftOut : ∀ l recipe, LeftOut l recipe ↔
      ∃ d, .register d ∈ edits ∧ d.recipe = recipe ∧ d.language = l ∧ lost d.uri)
    (h : s.Follows client host target edits edits lost) (hq : s.Quiet) :
    s.HoldsBut (target.review ⟨host, client.service⟩).1.channels LeftOut := by
  have hshown : s.reconciler.channels.Reflects
      (Outcomes.only (target.outcome ⟨host, client.service⟩) fun u => ¬ lost u) fun _ => False :=
    h.reflects.only_mono (fun _ hu => hu.2) fun u o hu _ _ =>
      .inl ⟨⟨fun _ he _ => he, hu⟩, fun hp => Bool.false_ne_true ((hq u).symm.trans hp)⟩
  have hreviewed := Reconciler.reflects_review (r := target) (s := ⟨host, client.service⟩)
    (hempty ▸ Channels.reflects_empty _) ht.resolves ht.names
  -- an outcome for an entry is that of the document that takes its place
  have hplace (u : Uri) (o : Outcome) (ho : target.outcome ⟨host, client.service⟩ u = .ok (some o)) :
      ∃ d, .register d ∈ edits ∧ d.recipe = o.recipe ∧ d.language = o.language ∧ d.uri = u := by
    obtain ⟨d, hd, hu⟩ := Reconciler.exists_document_of_outcome ht.resolves ht.names ho
    obtain ⟨hm, hr, hl⟩ := (ht.knows.documents.document?_eq ..).1 hd
    exact ⟨d, hm, hr, hl, hu⟩
  intro l recipe
  constructor
  · intro hout
    obtain ⟨d, hd, rfl, rfl, hl⟩ := (hleftOut l recipe).1 hout
    refine Classical.byContradiction fun hne => ?_
    obtain ⟨u, hu⟩ := hshown.sound _ _ hne
    obtain ⟨hfound, ho⟩ := Outcomes.only_eq_some_iff.1 hu
    obtain ⟨d', hd', hr, hlang, rfl⟩ := hplace u _ ho
    have heq := ht.eq_of_not_apart hd' hd fun ha => ha.2 (Prod.ext hr hlang)
    cases heq
    exact hfound hl
  · intro hin
    by_cases hne : (s.reconciler.channels.channel l).diagnostics recipe = []
    · -- what the review shows for the entry is not lost, so it would be held
      refine hne.trans (Classical.byContradiction fun hne' => hne' ?_)
      obtain ⟨u, ho⟩ := hreviewed.sound l recipe (Ne.symm hne')
      obtain ⟨d, hd, hr, hlang, rfl⟩ := hplace u _ ho
      have hfound : ¬ lost d.uri := fun hl => hin ((hleftOut l recipe).2 ⟨d, hd, hr, hlang, hl⟩)
      have hheld := hshown.complete _ _ (Outcomes.only_eq_some_iff.2 ⟨hfound, ho⟩) (Ne.symm hne')
      exact hne.symm.trans (hheld.resolve_left id)
    · obtain ⟨u, hu⟩ := hshown.sound l recipe hne
      have ho := (Outcomes.only_eq_some_iff.1 hu).2
      exact ((hreviewed.complete u _ ho hne).resolve_left id).symm

/-- A client begins a session, opens recipes, registers documents and reports findings about them, each
once, in any order and with any time between the messages. When no document waits any more, which is so
after the delay, the channels hold what a review shows of all that was told, except for the documents
that were overlooked when they were registered: of these nothing is shown. -/
theorem arrivals_agree_unless_overlooked (host : Host) (client : Client) {j : Json}
    {options : Option Json} {texts : List (Uri × String)} {documents : List GeneratedDocument}
    {reports : List (Uri × List Finding)} {edits : List Edit} {events : List Event}
    (hbegin : Params.initialization? j = some options) (hedits : Tells texts documents reports edits)
    (hevents : Conveys events edits) :
    let s₀ := start.run host [.client client, .message ⟨"initialize", some j, true⟩]
    let target := Reconciler.informed (options.elim .default Configuration.default.apply) texts documents
      reports
    let complete := (target.review ⟨host, client.service⟩).1.channels
    let LeftOut l recipe := ∃ d ∈ documents, d.recipe = recipe ∧ d.language = l ∧
      s₀.Overlooks host events d
    let s := s₀.run host events
    (s.Quiet → s.HoldsBut complete LeftOut) ∧ ∀ milliseconds, debounceDelay ≤ milliseconds →
      (s.run host [.advance milliseconds]).Quiet ∧
        (s.run host [.advance milliseconds]).HoldsBut complete LeftOut := by
  intro s₀ target complete LeftOut s
  have ht : target.Awaits edits := hedits.awaits _
  have hbegun : s₀.Follows client host target edits [] fun _ => False := by
    rw [show s₀ = _ from run_begin_eq hbegin]
    exact Follows.begun ht client host
  have hpunctual₀ : s₀.Punctual := by
    rw [show s₀ = _ from run_begin_eq hbegin]
    exact Debounce.timely_empty _
  obtain ⟨hfollows, hpunctual⟩ := hbegun.run ht hpunctual₀ hevents rfl
  have hleftOut (l : Language) (recipe : Uri) : LeftOut l recipe ↔ ∃ d, .register d ∈ edits ∧
      d.recipe = recipe ∧ d.language = l ∧
        (False ∨ ∃ d', s₀.Overlooks host events d' ∧ d'.uri = d.uri) := by
    simp only [LeftOut, false_or, hedits.register_mem_iff]
    refine exists_congr fun d => and_congr_right fun hd => and_congr_right fun _ =>
      and_congr_right fun _ => ⟨fun ho => ⟨d, ho, rfl⟩, ?_⟩
    rintro ⟨d', ho, hu⟩
    exact ht.eq_of_uri_eq (ho.register_mem hevents) (hedits.register_mem_iff.2 hd) hu ▸ ho
  refine ⟨hfollows.holdsBut ht rfl hleftOut, fun milliseconds hms => ?_⟩
  rw [run_cons, run_nil, fst_step_advance]
  have hquiet : (s.elapse host milliseconds).Quiet := fun u => hpunctual.isPending_elapse hms
  have hsub : ∀ e ∈ edits, e ∈ edits := fun _ he => he
  exact ⟨hquiet, (hfollows.elapse ht hsub _).holdsBut ht rfl hleftOut hquiet⟩

end

/-! ### A document that is registered after its findings were reported -/

namespace Sample
open Reconciler.Sample

/-- The findings have been known for longer than the delay when their document is registered. -/
def lateDocument : List Event := [
  .message ⟨"textDocument/didOpen", some openParams, false⟩,
  .message ⟨"bitbake/embeddedDiagnostics", some findingsParams, false⟩, .advance 200,
  .message ⟨"bitbake/embeddedDocument", some documentParams, false⟩, .advance 150]

def lateEdits : List Edit :=
  [.setText recipe "cp $A", .setFindings script findings, .register wholeDocument]

theorem conveys_lateDocument : Conveys lateDocument lateEdits :=
  .opens rfl (.reports rfl (.wait 200 (.registers rfl (.wait 150 .nil))))

theorem tells_lateEdits :
    Tells [(recipe, "cp $A")] [wholeDocument] [(script, findings)] lateEdits where
  order := .cons _ (.swap ..)
  recipes := by decide
  names := by decide
  places := by decide
  languages := by decide
  reported := by decide

def session : Server :=
  start.run noFiles [.client editor, .message ⟨"initialize", some beginParams, true⟩]

/-- All that is told, in the channels of one review. -/
def complete : Channels :=
  ((Reconciler.informed .default [(recipe, "cp $A")] [wholeDocument] [(script, findings)]).review
    ⟨noFiles, editor.service⟩).1.channels

end Sample

open Sample Reconciler.Sample in
theorem arrivals_agree_unless_overlooked_of_script :
    let s := (session.run noFiles lateDocument).run noFiles
      [.advance 150]
    session.Overlooks noFiles lateDocument wholeDocument ∧ s.Quiet ∧
      s.reconciler.channels.merged recipe = [] ∧
      (complete.merged recipe).map Diagnostic.code = [some (.text "SC2086")] := by
  intro s
  have hoverlooks : session.Overlooks noFiles lateDocument wholeDocument :=
    ⟨lateDocument.take 3, documentParams, [.advance 150], rfl, rfl,
      ⟨"cp $A", by decide +kernel⟩, by decide +kernel, by decide +kernel⟩
  have hbegin : Params.initialization? beginParams = some none := rfl
  obtain ⟨hquiet, hholds⟩ := (arrivals_agree_unless_overlooked noFiles editor hbegin
    tells_lateEdits conveys_lateDocument).2 150 (Nat.le_refl _)
  have hbash := (hholds .bash recipe).1 ⟨wholeDocument, by simp, rfl, rfl, hoverlooks⟩
  have hpython := (hholds .python recipe).2 fun ⟨d, hd, _, hl, _⟩ => by
    cases List.mem_singleton.1 hd
    cases hl
  have hnone : (complete.channel .python).diagnostics recipe = [] := by decide +kernel
  refine ⟨hoverlooks, hquiet, ?_, by decide +kernel⟩
  exact List.append_eq_nil_iff.2 ⟨hbash, hpython.trans hnone⟩

open Sample Reconciler.Sample in
/-- When the document is registered its findings have been known for longer than the delay, and the
update that they called for has found no document. -/
theorem findings_lost_before_registration :
    ¬ ∀ (host : Host) (client : Client) (j : Json) (options : Option Json)
      (texts : List (Uri × String)) (documents : List GeneratedDocument)
      (reports : List (Uri × List Finding)) (edits : List Edit) (events : List Event),
      Params.initialization? j = some options →
      (options.elim .default Configuration.default.apply).enabled = true →
      (∀ u p, (∃ l, client.service.languageAt u p = .ok l) ∧
        ∃ ls, client.service.definitions u p = .ok ls) →
      Tells texts documents reports edits → (∀ d ∈ documents, d.recipe ∈ texts.map Prod.fst) →
      (reports.map Prod.fst).Perm (documents.map GeneratedDocument.uri) → Conveys events edits →
      let s := (start.run host [.client client, .message ⟨"initialize", some j, true⟩]).run host events
      let target := Reconciler.informed (options.elim .default Configuration.default.apply) texts
        documents reports
      s.Quiet → ∀ recipe, s.reconciler.channels.merged recipe =
        (target.review ⟨host, client.service⟩).1.channels.merged recipe := by
  intro h
  have hservice (u : Uri) (p : Position) : (∃ l, editor.service.languageAt u p = .ok l) ∧
      ∃ ls, editor.service.definitions u p = .ok ls := by
    rw [answersFor_editor.service_eq]
    exact ⟨⟨_, rfl⟩, _, rfl⟩
  have hquiet : (session.run noFiles lateDocument).Quiet := by
    have hnone : (session.run noFiles lateDocument).debounce.current.entries = [] := by
      decide +kernel
    exact fun u => by simp [Debounce.isPending, Table.get?, hnone]
  have hmerged := h noFiles editor beginParams none _ _ _ _ lateDocument rfl rfl
    hservice tells_lateEdits (by decide) (.refl _) conveys_lateDocument hquiet recipe
  exact absurd hmerged (by decide +kernel)

end Server
end RecipeDiag
