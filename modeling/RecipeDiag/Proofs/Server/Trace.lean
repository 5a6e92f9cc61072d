import Mathlib.Data.List.Induction
import RecipeDiag.Proofs.Reconciler.Locality
import RecipeDiag.Proofs.Server.Delay

/-!
# What the updates of a run read

What an event does to the reconciler is a list of operations (`reconciler_step`): those that its message
asks for, and one update for each task that fires. Only a report changes findings, so every update in
the course of an event reads what was reported last (`findings_of_mem_updatesIn`).
-/

namespace RecipeDiag

/-! ### Operations that are not edits -/

namespace Reconciler
variable {r : Reconciler} {s : Surroundings} {u : Uri} {op : Operation} {ops : List Operation} {x : Call}

theorem workspace_update : (r.update s u).1.workspace = r.workspace := by
  obtain ⟨st, as, h⟩ := update_eq r s u
  rw [h]
  exact workspace_takeOver

theorem registry_update : (r.update s u).1.registry = r.registry := by
  obtain ⟨st, as, h⟩ := update_eq r s u
  rw [h]
  exact registry_takeOver

theorem workspace_perform (hop : ∀ e, op ≠ .edit e) : (r.perform op).workspace = r.workspace := by
  cases op with
  | update s u => exact workspace_update
  | review s =>
    refine updateAll_induction (P := fun r' => r'.workspace = r.workspace) rfl (fun r' u h => ?_) _
    exact workspace_update.trans h
  | clear => exact clear_induction (P := fun r' => r'.workspace = r.workspace) rfl fun _ _ h => h
  | edit e => exact absurd rfl (hop e)
  | configure settings => rfl

theorem workspace_performAll (hops : ∀ op ∈ ops, ∀ e, op ≠ .edit e) :
    (r.performAll ops).workspace = r.workspace := by
  induction ops generalizing r with
  | nil => rfl
  | cons op ops ih =>
    obtain ⟨hop, hops⟩ := List.forall_mem_cons.1 hops
    exact (ih hops).trans (workspace_perform hop)

theorem workspace_of_mem_callsOfAll {us : List Uri} (hx : x ∈ r.callsOfAll s us) :
    x.reconciler.workspace = r.workspace := by
  induction us generalizing r with
  | nil => exact absurd hx List.not_mem_nil
  | cons u us ih =>
    rcases List.mem_cons.1 hx with rfl | hx
    · rfl
    · exact (ih hx).trans workspace_update

theorem workspace_of_mem_callsOf (hx : x ∈ r.callsOf op) : x.reconciler.workspace = r.workspace := by
  cases op with
  | update s u =>
    cases List.mem_singleton.1 hx
    rfl
  | review s => exact workspace_of_mem_callsOfAll hx
  | clear => exact absurd hx List.not_mem_nil
  | edit e => exact absurd hx List.not_mem_nil
  | configure settings => exact absurd hx List.not_mem_nil

theorem workspace_of_mem_calls (hops : ∀ op ∈ ops, ∀ e, op ≠ .edit e) (hx : x ∈ r.calls ops) :
    x.reconciler.workspace = r.workspace := by
  induction ops generalizing r with
  | nil => exact absurd hx List.not_mem_nil
  | cons op ops ih =>
    obtain ⟨hop, hops⟩ := List.forall_mem_cons.1 hops
    rcases List.mem_append.1 hx with hx | hx
    · exact workspace_of_mem_callsOf hx
    · exact (ih hops hx).trans (workspace_perform hop)

end Reconciler

namespace Server
variable {s : Server} {host : Host} {t : DelayedTask} {ts : List DelayedTask} {v : Uri}
  {d : Demand} {e : Event} {milliseconds : Nat} {events : List Event} {x : Call}

/-! ### The operations of an event -/

/-- The updates of the documents of tasks. -/
def updatesOf (s : Server) (host : Host) (ts : List DelayedTask) : List Operation :=
  ts.map fun t => .update (s.surroundings host) t.uri

/-- What the message of an event asks of the reconciler. -/
def operationsAsked (s : Server) (host : Host) : Event → List Operation
  | .message m => (m.demand s.lifecycle).operations s host
  | _ => []

/-- What is done to the reconciler in the course of an event. -/
def operationsIn (s : Server) (host : Host) (e : Event) : List Operation :=
  s.operationsAsked host e ++ s.updatesOf host (s.firedIn host e)

/-- All updates in the course of an event. -/
def updatesIn (s : Server) (host : Host) (e : Event) : List Call := s.reconciler.calls (s.operationsIn host e)

theorem reconciler_fire : (fire host s t).reconciler = (s.reconciler.update (s.surroundings host) t.uri).1 := by
  obtain ⟨ns, h⟩ := report_eq { s with
    debounce := s.debounce.expire t.number
    clock := t.due
    reconciler := (s.reconciler.update (s.surroundings host) t.uri).1 }
    (s.reconciler.update (s.surroundings host) t.uri).2
  have hupdate : (({ s with debounce := s.debounce.expire t.number, clock := t.due } : Server).update host
      t.uri).reconciler = (s.reconciler.update (s.surroundings host) t.uri).1 := by
    simp only [update]
    exact congrArg reconciler h
  exact hupdate

theorem surroundings_fire : (fire host s t).surroundings = s.surroundings := by
  obtain ⟨st, as, ns, h⟩ := fire_eq host s t
  rw [h]
  rfl

theorem reconciler_foldl_fire :
    (ts.foldl (fire host) s).reconciler = s.reconciler.performAll (s.updatesOf host ts) := by
  induction ts generalizing s with
  | nil => rfl
  | cons t ts ih =>
    rw [List.foldl_cons, ih, updatesOf, surroundings_fire, reconciler_fire]
    rfl

theorem reconciler_elapse : (s.elapse host milliseconds).reconciler =
    s.reconciler.performAll (s.updatesOf host (s.agenda host (s.clock + milliseconds))) :=
  reconciler_foldl_fire

/-- All that an event does to the reconciler; besides, statistics may be switched on or off. -/
theorem reconciler_step (s : Server) (host : Host) (e : Event) : ∃ st, (s.step host e).1.reconciler =
    { s.reconciler.performAll (s.operationsIn host e) with statistics := st } := by
  cases e with
  | message m =>
    obtain ⟨st, ns, h⟩ := meet_eq s host (m.demand s.lifecycle)
    have hops : s.operationsIn host (.message m) = (m.demand s.lifecycle).operations s host :=
      List.append_nil _
    refine ⟨st, ?_⟩
    rw [fst_step_message, h, hops]
  | client c => exact ⟨_, rfl⟩
  | advance milliseconds => exact ⟨_, reconciler_elapse⟩

theorem generated_calls_updatesOf {r : Reconciler} :
    (r.calls (s.updatesOf host ts)).map Call.generated = ts.map DelayedTask.uri := by
  induction ts generalizing r with
  | nil => rfl
  | cons t ts ih =>
    have hrest := ih (r := r.perform (.update (s.surroundings host) t.uri))
    exact congrArg (t.uri :: ·) hrest

/-- What is updated in the course of an event is what its message asks for, and then the documents of the
tasks that fire, in order. -/
theorem generated_updatesIn : (s.updatesIn host e).map Call.generated =
    (s.reconciler.calls (s.operationsAsked host e)).map Call.generated ++
      (s.firedIn host e).map DelayedTask.uri := by
  rw [updatesIn, operationsIn, Reconciler.calls_append, List.map_append, generated_calls_updatesOf]

/-! ### Findings -/

theorem workspace_elapse : (s.elapse host milliseconds).reconciler.workspace = s.reconciler.workspace := by
  rw [reconciler_elapse]
  refine Reconciler.workspace_performAll fun op hop e he => ?_
  obtain ⟨t, -, rfl⟩ := List.mem_map.1 hop
  cases he

theorem workspace_meet_of_edit? {edit : Edit} (hd : d.edit? = some edit) :
    (s.meet host d).reconciler.workspace = (s.reconciler.edit edit).workspace := by
  obtain ⟨st, ns, h⟩ := meet_eq s host d
  rw [h, Demand.operations_of_edit? hd]
  rfl

theorem workspace_meet_of_none (hd : d.edit? = none) :
    (s.meet host d).reconciler.workspace = s.reconciler.workspace := by
  obtain ⟨st, ns, h⟩ := meet_eq s host d
  rw [h]
  exact Reconciler.workspace_performAll (Demand.not_edit_of_mem_operations hd)

theorem findings_meet (hd : ∀ u fs, d ≠ .reportFindings u fs) :
    (s.meet host d).reconciler.workspace.findings = s.reconciler.workspace.findings := by
  cases he : d.edit? with
  | none => rw [workspace_meet_of_none he]
  | some edit =>
    rw [workspace_meet_of_edit? he]
    cases d with
    | reportFindings u fs => exact absurd rfl (hd u fs)
    | _ => cases he <;> rfl

theorem findingsOf_step : (s.step host e).1.reconciler.workspace.findingsOf v =
    (s.report? e).elim (s.reconciler.workspace.findingsOf v) fun (u, fs) =>
      if v = u then fs else s.reconciler.workspace.findingsOf v := by
  cases e with
  | message m =>
    rw [fst_step_message]
    cases hr : s.report? (.message m) with
    | none =>
      have hd (u : Uri) (fs : List Finding) : m.demand s.lifecycle ≠ .reportFindings u fs := by
        intro h
        cases hr.symm.trans (demand_eq_reportFindings_iff.1 h)
      simp only [Workspace.findingsOf, findings_meet hd, Option.elim_none]
    | some report =>
      obtain ⟨u, fs⟩ := report
      rw [demand_eq_reportFindings_iff.2 hr]
      exact Workspace.findingsOf_setFindings
  | client c => rfl
  | advance milliseconds =>
    rw [fst_step_advance, workspace_elapse]
    rfl

theorem not_edit_of_mem_updatesOf : ∀ op ∈ s.updatesOf host ts, ∀ e, op ≠ .edit e := by
  intro op hop e he
  obtain ⟨t, -, rfl⟩ := List.mem_map.1 hop
  cases he

/-- Whatever is updated in the course of an event reads what is known when the event is over. -/
theorem workspace_of_mem_updatesIn (hx : x ∈ s.updatesIn host e) :
    x.reconciler.workspace = (s.step host e).1.reconciler.workspace := by
  cases e with
  | message m =>
    have hops : s.operationsIn host (.message m) = (m.demand s.lifecycle).operations s host :=
      List.append_nil _
    rw [updatesIn, hops] at hx
    rw [fst_step_message]
    cases hd : (m.demand s.lifecycle).edit? with
    | none =>
      rw [workspace_meet_of_none hd]
      exact Reconciler.workspace_of_mem_calls (Demand.not_edit_of_mem_operations hd) hx
    | some edit =>
      -- an edit alone updates nothing
      rw [Demand.operations_of_edit? hd] at hx
      exact absurd hx List.not_mem_nil
  | client c => exact absurd hx List.not_mem_nil
  | advance milliseconds =>
    rw [fst_step_advance, workspace_elapse]
    exact Reconciler.workspace_of_mem_calls not_edit_of_mem_updatesOf hx

/-- The reports that a run takes up, oldest first. -/
def reports (s : Server) (host : Host) : List Event → List (Uri × List Finding)
  | [] => []
  | e :: es => (s.report? e).toList ++ (s.step host e).1.reports host es

theorem reports_concat : s.reports host (events ++ [e]) =
    s.reports host events ++ ((s.run host events).report? e).toList := by
  induction events generalizing s with
  | nil => simp [reports]
  | cons e' events ih => rw [List.cons_append, reports, ih, reports, List.append_assoc, run_cons]

/-- The findings about a document that were reported last. -/
def latestFindings (s : Server) (host : Host) (events : List Event) (v : Uri) : List Finding :=
  ((Table.ofList (s.reports host events)).get? v).getD []

theorem latestFindings_concat : s.latestFindings host (events ++ [e]) v =
    ((s.run host events).report? e).elim (s.latestFindings host events v) fun (u, fs) =>
      if v = u then fs else s.latestFindings host events v := by
  unfold latestFindings
  rw [reports_concat]
  cases (s.run host events).report? e with
  | none => simp
  | some report =>
    simp only [Option.toList_some, Table.ofList, List.foldl_append, List.foldl_cons, List.foldl_nil,
      Table.get?_insert, Option.elim_some]
    split <;> rfl

theorem findingsOf_run (host : Host) (events : List Event) (v : Uri) :
    (start.run host events).reconciler.workspace.findingsOf v = start.latestFindings host events v := by
  induction events using List.reverseRecOn with
  | nil => rfl
  | append_singleton events e ih => rw [run_concat, findingsOf_step, latestFindings_concat, ih]

/-- Every update in the course of an event reads what was reported last. -/
theorem findings_of_mem_updatesIn {reading : Reading} (hx : x ∈ (start.run host events).updatesIn host e)
    (hg : x.reading? = some reading) :
    x.findings = start.latestFindings host (events ++ [e]) reading.document.uri := by
  rw [← findingsOf_run, run_concat, ← workspace_of_mem_updatesIn hx, Call.findings, hg]
  rfl

end Server
end RecipeDiag
