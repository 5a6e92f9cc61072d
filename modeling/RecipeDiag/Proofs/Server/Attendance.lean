import RecipeDiag.Proofs.Reconciler.Reflection
import RecipeDiag.Proofs.Server.Run

/-!
# A server that attends to a client

Between steps an initialized server in its default configuration shows for every recipe what its
channels hold (`Attends`). Documents and findings arrive in two phases. While no findings are known
the channels hold nothing (`Gathers`). Once the documents are all there, the channels reflect what
the updates of a target come to, apart from the documents that wait or whose findings are still on
their way (`CatchesUp`). Tasks that fire preserve each of these.
-/

namespace RecipeDiag

/-- The document that an edit registers, if it does. -/
def Edit.registered? : Edit → Option GeneratedDocument
  | .register d => some d
  | _ => none

namespace Server
variable {client : Client} {s : Server} {host : Host} {t : DelayedTask} {u recipe : Uri}
  {text : String} {d : GeneratedDocument} {done : List Edit} {milliseconds time : Nat}

/-! ### Attendance -/

structure Attends (client : Client) (s : Server) : Prop where
  lifecycle : s.lifecycle = .initialized
  connected : s.client = client
  configuration : s.reconciler.configuration = .default
  settled : ∀ recipe, s.reconciler.Settled recipe

namespace Attends

theorem surroundings (h : s.Attends client) (host : Host) :
    s.surroundings host = ⟨host, client.service⟩ := by
  simp [Server.surroundings, h.lifecycle, h.connected, Lifecycle.isConnected]

theorem fire (h : s.Attends client) (host : Host) (t : DelayedTask) :
    (fire host s t).Attends client := by
  obtain ⟨st, as, ns, he⟩ := fire_eq host s t
  rw [he]
  exact ⟨h.lifecycle, h.connected, Reconciler.configuration_takeOver.trans h.configuration,
    fun recipe => ((h.settled recipe).takeOver _).congr (fun _ => rfl) rfl⟩

theorem edit (h : s.Attends client) (e : Edit) : (s.edit e).Attends client := by
  cases e <;> exact ⟨h.lifecycle, h.connected, h.configuration,
    fun recipe => (h.settled recipe).congr (fun _ => rfl) rfl⟩

theorem withClock (h : s.Attends client) (time : Nat) :
    ({ s with clock := time } : Server).Attends client :=
  ⟨h.lifecycle, h.connected, h.configuration, h.settled⟩

theorem scheduleUpdate (h : s.Attends client) (u : Uri) : (s.scheduleUpdate u).Attends client :=
  ⟨h.lifecycle, h.connected, h.configuration, h.settled⟩

theorem greet (h : s.Attends client) : s.greet.Attends client :=
  ⟨h.lifecycle, h.connected, h.configuration, h.settled⟩

end Attends

/-! ### Gathering documents -/

/-- The server knows the documents of the edits that it was told, and no findings. -/
structure Gathers (client : Client) (done : List Edit) (s : Server) : Prop
    extends s.Attends client where
  registry : s.reconciler.registry = .ofList (done.filterMap Edit.registered?)
  told : ∀ u text, s.reconciler.workspace.openDocuments.get? u = some text →
    .setText u text ∈ done
  opened : ∀ u text, .setText u text ∈ done →
    ∃ text', s.reconciler.workspace.openDocuments.get? u = some text'
  unreported : ∀ u, s.reconciler.workspace.findingsOf u = []
  silent : s.reconciler.channels.Reflects (fun _ => .ok none) fun _ => False

namespace Gathers

theorem fire (h : s.Gathers client done) (host : Host) (t : DelayedTask) :
    (fire host s t).Gathers client done := by
  have hattends := h.toAttends.fire host t
  obtain ⟨st, as, ns, he⟩ := fire_eq host s t
  rw [he] at hattends ⊢
  refine { hattends with registry := ?_, told := ?_, opened := ?_, unreported := ?_, silent := ?_ }
  · exact Reconciler.registry_takeOver.trans h.registry
  · simp only [Reconciler.workspace_takeOver]
    exact h.told
  · simp only [Reconciler.workspace_takeOver]
    exact h.opened
  · simp only [Reconciler.workspace_takeOver]
    exact h.unreported
  · refine Reconciler.reflects_takeOver_nil h.silent fun o ho => ⟨?_, fun v o' ho' => ?_⟩
    · exact Reconciler.diagnostics_eq_nil_of_outcome ho fun g _ => h.unreported _
    · cases ho'

theorem withClock (h : s.Gathers client done) (time : Nat) :
    ({ s with clock := time } : Server).Gathers client done :=
  { h with toAttends := h.toAttends.withClock time }

theorem elapse (h : s.Gathers client done) (host : Host) (milliseconds : Nat) :
    (s.elapse host milliseconds).Gathers client done :=
  elapse_induction (fun _ t hs => hs.fire host t) (fun _ time hs => hs.withClock time) h _

theorem greet (h : s.Gathers client done) : s.greet.Gathers client done :=
  { h with toAttends := h.toAttends.greet }

theorem register (h : s.Gathers client done) (d : GeneratedDocument) :
    (s.edit (.register d)).Gathers client (done ++ [.register d]) where
  toAttends := h.toAttends.edit _
  registry := by
    rw [List.filterMap_append]
    exact (congrArg (Registry.register · d) h.registry).trans Registry.ofList_append_singleton.symm
  told u text hu := List.mem_append_left _ (h.told u text hu)
  opened u text hu := h.opened u text (by simpa using hu)
  unreported := h.unreported
  silent := h.silent

theorem setText (h : s.Gathers client done) (recipe : Uri) (text : String) :
    (s.edit (.setText recipe text)).Gathers client (done ++ [.setText recipe text]) where
  toAttends := h.toAttends.edit _
  registry := by
    rw [List.filterMap_append]
    exact h.registry.trans (congrArg _ (List.append_nil _).symm)
  told u text' hu := by
    simp only [edit, Reconciler.edit, Workspace.get?_openDocuments_setText] at hu
    split at hu
    · next hur => cases hu; simp [hur]
    · exact List.mem_append_left _ (h.told u text' hu)
  opened u text' hu := by
    simp only [edit, Reconciler.edit, Workspace.get?_openDocuments_setText]
    split
    · exact ⟨text, rfl⟩
    · next hur =>
      refine h.opened u text' ?_
      rcases List.mem_append.1 hu with hu | hu
      · exact hu
      · exact absurd (Edit.setText.inj (List.mem_singleton.1 hu)).1 hur
  unreported := h.unreported
  silent := h.silent

theorem scheduleUpdate (h : s.Gathers client done) (u : Uri) :
    (s.scheduleUpdate u).Gathers client done :=
  { h with toAttends := h.toAttends.scheduleUpdate u }

theorem openDocument (h : s.Gathers client done) (recipe : Uri) (text : String) :
    (s.openDocument recipe text).Gathers client (done ++ [.setText recipe text]) :=
  openDocument_induction (h.setText recipe text) fun _ u hs => hs.scheduleUpdate u

end Gathers

/-! ### Catching up with findings -/

variable {target : Reconciler} {rest : List (Uri × List Finding)} {fs : List Finding}

/-- A document waits for its update, or its findings are still to come. -/
def IsBehind (s : Server) (rest : List (Uri × List Finding)) (u : Uri) : Prop :=
  s.debounce.isPending u = true ∨ ∃ fs, (u, fs) ∈ rest

/-- The server knows what the target knows, but for the findings that are still to come. The channels
reflect what updates of the target come to. -/
structure CatchesUp (client : Client) (host : Host) (target : Reconciler)
    (rest : List (Uri × List Finding)) (s : Server) : Prop extends s.Attends client where
  alike : s.reconciler.Alike target
  reported : ∀ u, s.reconciler.workspace.findingsOf u = target.workspace.findingsOf u ∨
    s.reconciler.workspace.findingsOf u = [] ∧ ∃ fs, (u, fs) ∈ rest
  reflects : s.reconciler.channels.Reflects (target.outcome ⟨host, client.service⟩) (s.IsBehind rest)

namespace CatchesUp
variable (hr : target.registry.Resolves) (hn : target.registry.Named)

theorem withClock (h : s.CatchesUp client host target rest) (time : Nat) :
    ({ s with clock := time } : Server).CatchesUp client host target rest :=
  { h with toAttends := h.toAttends.withClock time }

theorem greet (h : s.CatchesUp client host target rest) :
    s.greet.CatchesUp client host target rest :=
  { h with toAttends := h.toAttends.greet }

include hr hn

/-- If a document's findings are known, its task makes it late no more; otherwise the task empties
an entry that no other document has. -/
theorem fire (h : s.CatchesUp client host target rest) (t : DelayedTask) :
    (fire host s t).CatchesUp client host target rest := by
  have hattends := h.toAttends.fire host t
  have hresolves : s.reconciler.registry.Resolves := h.alike.registry ▸ hr
  have hnamed : s.reconciler.registry.Named := h.alike.registry ▸ hn
  have hseparate := Reconciler.separate_outcome (s := ⟨host, client.service⟩) hr hn
  have huri (g : Reading) (hg : s.reconciler.Admits t.uri g) : g.document.uri = t.uri :=
    hg.uri_document hresolves hnamed
  obtain ⟨st, as, ns, he⟩ := fire_eq host s t
  rw [he] at hattends ⊢
  refine { hattends with alike := ⟨?_, ?_, ?_⟩, reported := ?_, reflects := ?_ }
  · exact Reconciler.registry_takeOver.trans h.alike.registry
  · exact Reconciler.configuration_takeOver.trans h.alike.configuration
  · simp only [Reconciler.workspace_takeOver]
    exact h.alike.texts
  · simp only [Reconciler.workspace_takeOver]
    exact h.reported
  · rw [h.surroundings]
    have stillBehind (v : Uri) (hv : v ≠ t.uri) (hb : s.IsBehind rest v) :
        (s.debounce.fire t).isPending v = true ∨ ∃ fs, (v, fs) ∈ rest :=
      hb.imp_left (Debounce.isPending_fire_of_ne hv).trans
    rcases h.reported t.uri with hf | ⟨hf, hrest⟩
    · -- the findings are known, so the outcome is that of the target
      have hout : s.reconciler.outcome ⟨host, client.service⟩ t.uri =
          target.outcome ⟨host, client.service⟩ t.uri :=
        Reconciler.outcome_congr h.alike fun g hg => by rw [huri g hg, hf]
      rw [hout]
      exact (Reconciler.reflects_takeOver h.reflects hseparate t.uri).mono
        fun v hv => stillBehind v hv.2 hv.1
    · -- they are not: the document stays behind, and the entry that is emptied is its own
      have hbehind : s.reconciler.channels.Reflects (target.outcome ⟨host, client.service⟩)
          fun v => (s.debounce.fire t).isPending v = true ∨ ∃ fs, (v, fs) ∈ rest :=
        h.reflects.mono fun v hv => by
          by_cases hvt : v = t.uri
          · exact .inr (hvt ▸ hrest)
          · exact stillBehind v hvt hv
      refine Reconciler.reflects_takeOver_nil hbehind fun o ho => ⟨?_, fun v o' ho' hrec hlang => ?_⟩
      · exact Reconciler.diagnostics_eq_nil_of_outcome ho fun g hg => by rw [huri g hg, hf]
      · obtain ⟨d, hd, hdu⟩ := Reconciler.exists_document_of_outcome hresolves hnamed ho
        obtain ⟨d', hd', rfl⟩ := Reconciler.exists_document_of_outcome hr hn ho'
        rw [hrec, hlang, ← h.alike.registry, hd] at hd'
        cases hd'
        exact .inr (hdu ▸ hrest)

theorem elapse (h : s.CatchesUp client host target rest) (milliseconds : Nat) :
    (s.elapse host milliseconds).CatchesUp client host target rest :=
  elapse_induction (fun _ t hs => hs.fire hr hn t) (fun _ time hs => hs.withClock time) h _

omit hr hn in
/-- Findings that arrive are those of the target, and their document waits from then on. -/
theorem reportFindings (h : s.CatchesUp client host target ((u, fs) :: rest))
    (hf : target.workspace.findingsOf u = fs) :
    (s.reportFindings u fs).CatchesUp client host target rest := by
  have stillBehind (v : Uri) (hv : v ≠ u) (hb : ∃ fs', (v, fs') ∈ (u, fs) :: rest) :
      ∃ fs', (v, fs') ∈ rest := by
    obtain ⟨fs', hb⟩ := hb
    rcases List.mem_cons.1 hb with hb | hb
    · cases hb
      exact absurd rfl hv
    · exact ⟨fs', hb⟩
  refine { (h.toAttends.edit (.setFindings u fs)).scheduleUpdate u with
    alike := ⟨h.alike.registry, h.alike.configuration, h.alike.texts⟩
    reported := fun v => ?_
    reflects := h.reflects.mono fun v hv => ?_ }
  · simp only [Server.reportFindings, Server.scheduleUpdate, Server.edit, Reconciler.edit,
      Workspace.findingsOf_setFindings]
    by_cases hv : v = u
    · rw [if_pos hv, hv]
      exact .inl hf.symm
    · rw [if_neg hv]
      exact (h.reported v).imp_right fun hr => ⟨hr.1, stillBehind v hv hr.2⟩
  · simp only [IsBehind, Server.reportFindings, Server.scheduleUpdate,
      Debounce.isPending_schedule, Bool.or_eq_true, decide_eq_true_eq]
    by_cases hv' : v = u
    · exact .inl (.inl hv')
    · exact hv.imp .inr (stillBehind v hv')

end CatchesUp

/-- All findings are to come when the documents are there. -/
theorem Gathers.catchesUp (h : s.Gathers client done) (hr : s.reconciler.registry = target.registry)
    (hc : target.configuration = .default)
    (ht : ∀ u, s.reconciler.workspace.openDocuments.get? u = target.workspace.openDocuments.get? u)
    (hf : ∀ u fs, target.workspace.findings.get? u = some fs → (u, fs) ∈ rest)
    (hresolves : target.registry.Resolves) (hnamed : target.registry.Named) :
    s.CatchesUp client host target rest := by
  have hreported (u : Uri) (hne : target.workspace.findingsOf u ≠ []) : ∃ fs, (u, fs) ∈ rest := by
    cases hu : target.workspace.findings.get? u with
    | none => exact absurd (by rw [Workspace.findingsOf, hu]; rfl) hne
    | some fs => exact ⟨fs, hf u fs hu⟩
  refine { h.toAttends with
    alike := ⟨hr, h.configuration.trans hc.symm, ht⟩
    reported := fun u => ?_
    reflects := h.silent.of_silent _ fun u o ho hne => .inr (hreported u fun hnil => hne ?_) }
  · by_cases hu : target.workspace.findingsOf u = []
    · exact .inl ((h.unreported u).trans hu.symm)
    · exact .inr ⟨h.unreported u, hreported u hu⟩
  · exact Reconciler.diagnostics_eq_nil_of_outcome ho fun g hg => by
      rw [hg.uri_document hresolves hnamed, hnil]

end Server
end RecipeDiag
