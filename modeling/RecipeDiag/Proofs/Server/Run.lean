import RecipeDiag.Proofs.Reconciler.Outcome
import RecipeDiag.Proofs.Server.Debounce
import RecipeDiag.Server.Session

/-!
# Runs of the server

What time does to the server is a sequence of tasks that fire, and a task that fires takes the outcome
of an update over (`fire_eq`). So what firing preserves is preserved by time (`elapse_induction`). On
the side of the tasks, a server that is `Punctual` stays so, and after the delay no document waits.
-/

namespace RecipeDiag.Server
variable {s s' : Server} {host : Host} {t : DelayedTask} {u recipe : Uri} {text : String}
  {milliseconds time : Nat} {P : Server → Prop} {e : Event} {es es' : List Event}

/-- Goes through events one after the other. -/
def run (s : Server) (host : Host) (es : List Event) : Server :=
  es.foldl (fun s e => (s.step host e).1) s

@[simp] theorem run_nil : s.run host [] = s := rfl

@[simp] theorem run_cons : s.run host (e :: es) = (s.step host e).1.run host es := rfl

theorem run_append : s.run host (es ++ es') = (s.run host es).run host es' := List.foldl_append

/-! ### A task fires -/

theorem report_eq (s : Server) (result : Except Fault Unit) :
    ∃ ns, s.report result = { s with notices := ns } := by
  cases result with
  | ok _ => exact ⟨s.notices, rfl⟩
  | error e => exact ⟨_, rfl⟩

theorem update_eq (s : Server) (host : Host) (u : Uri) : ∃ st as ns, s.update host u =
    { s with
      reconciler := { s.reconciler.takeOver (s.reconciler.outcome (s.surroundings host) u) with
        statistics := st, asked := as }
      notices := ns } := by
  obtain ⟨st, as, h⟩ := Reconciler.update_eq s.reconciler (s.surroundings host) u
  obtain ⟨ns, hn⟩ := report_eq { s with
    reconciler := { s.reconciler.takeOver (s.reconciler.outcome (s.surroundings host) u) with
      statistics := st, asked := as } }
    ((s.reconciler.outcome (s.surroundings host) u).map fun _ => ())
  exact ⟨st, as, ns, by simp only [update, h, hn]⟩

/-- A task that fires takes the outcome of its update over and its entry back. -/
theorem fire_eq (host : Host) (s : Server) (t : DelayedTask) :
    ∃ st as ns, fire host s t = { s with
      reconciler := { s.reconciler.takeOver (s.reconciler.outcome (s.surroundings host) t.uri) with
        statistics := st, asked := as }
      notices := ns
      clock := t.due
      debounce := s.debounce.fire t } := by
  obtain ⟨st, as, ns, h⟩ :=
    update_eq { s with debounce := s.debounce.expire t.number, clock := t.due } host t.uri
  exact ⟨st, as, ns, by simp only [fire, h]; rfl⟩

theorem debounce_fire : (fire host s t).debounce = s.debounce.fire t := by
  obtain ⟨st, as, ns, h⟩ := fire_eq host s t
  rw [h]

/-! ### Time passes -/

theorem mem_agenda : t ∈ s.agenda host time ↔ t ∈ s.debounce.dueBy time := List.mem_mergeSort

/-- What every task preserves that fires, and the clock does not matter to, time preserves. -/
theorem elapse_induction (hfire : ∀ s t, P s → P (fire host s t))
    (hclock : ∀ s time, P s → P { s with clock := time }) (h : P s) (milliseconds : Nat) :
    P (s.elapse host milliseconds) := by
  have hfold (ts : List DelayedTask) : ∀ s, P s → P (ts.foldl (fire host) s) := by
    induction ts with
    | nil => exact fun s h => h
    | cons t ts ih => exact fun s h => ih _ (hfire s t h)
  exact hclock _ _ (hfold _ s h)

theorem clock_elapse : (s.elapse host milliseconds).clock = s.clock + milliseconds := rfl

theorem debounce_foldl_fire (ts : List DelayedTask) :
    (ts.foldl (fire host) s).debounce = ts.foldl Debounce.fire s.debounce := by
  induction ts generalizing s with
  | nil => rfl
  | cons t ts ih => rw [List.foldl_cons, ih, debounce_fire, List.foldl_cons]

theorem debounce_elapse : (s.elapse host milliseconds).debounce =
    (s.agenda host (s.clock + milliseconds)).foldl Debounce.fire s.debounce :=
  debounce_foldl_fire _

/-! ### Messages that put updates off -/

/-- The update of the recipe's document in a language is put off, if there is one. -/
def scheduleDocument (recipe : Uri) (s : Server) (l : Language) : Server :=
  (s.reconciler.registry.document? recipe l).elim s fun d => s.scheduleUpdate d.uri

theorem openDocument_eq_foldl : s.openDocument recipe text =
    Language.all.foldl (scheduleDocument recipe) (s.edit (.setText recipe text)) := by
  unfold openDocument
  congr
  funext s l
  unfold scheduleDocument
  cases s.reconciler.registry.document? recipe l <;> rfl

/-- What putting off an update preserves is preserved by opening a recipe, once its text is there. -/
theorem openDocument_induction (h : P (s.edit (.setText recipe text)))
    (hp : ∀ s u, P s → P (s.scheduleUpdate u)) : P (s.openDocument recipe text) := by
  have hfold (ls : List Language) : ∀ s, P s → P (ls.foldl (scheduleDocument recipe) s) := by
    induction ls with
    | nil => exact fun s h => h
    | cons l ls ih =>
      intro s h
      refine ih _ ?_
      unfold scheduleDocument
      cases s.reconciler.registry.document? recipe l with
      | none => exact h
      | some d => exact hp s d.uri h
  rw [openDocument_eq_foldl]
  exact hfold _ _ h

/-! ### Punctuality -/

/-- Every document that waits has a task that is due within the delay. -/
def Punctual (s : Server) : Prop := s.debounce.Timely (s.clock + debounceDelay)

namespace Punctual

theorem scheduleUpdate (h : s.Punctual) (u : Uri) : (s.scheduleUpdate u).Punctual :=
  h.schedule u (Nat.le_refl _)

theorem elapse (h : s.Punctual) (host : Host) (milliseconds : Nat) :
    (s.elapse host milliseconds).Punctual := by
  rw [Punctual, debounce_elapse, clock_elapse]
  refine (h.mono (by omega)).foldl_fire fun t ht => ?_
  exact ⟨t, (List.mem_filter.1 (mem_agenda.1 ht)).1, rfl, rfl⟩

/-- After the delay no document waits. -/
theorem isPending_elapse (h : s.Punctual) (hms : debounceDelay ≤ milliseconds) :
    (s.elapse host milliseconds).debounce.isPending u = false := by
  rw [debounce_elapse]
  refine Debounce.isPending_foldl_fire fun v e hv => ?_
  obtain ⟨t, ht, hentry, huri⟩ := h.mem_dueBy (Nat.add_le_add_left hms _) hv
  exact ⟨t, mem_agenda.2 ht, hentry, huri⟩

theorem edit (h : s.Punctual) (e : Edit) : (s.edit e).Punctual := h

theorem greet (h : s.Punctual) : s.greet.Punctual := h

theorem openDocument (h : s.Punctual) (recipe : Uri) (text : String) :
    (s.openDocument recipe text).Punctual :=
  openDocument_induction (h.edit _) fun _ u hs => hs.scheduleUpdate u

theorem reportFindings (h : s.Punctual) (u : Uri) (fs : List Finding) :
    (s.reportFindings u fs).Punctual := (h.edit _).scheduleUpdate u

end Punctual

/-! ### Notifications -/

/-- A notification that is acted on. -/
theorem fst_step_notification {name : String} {method : Method} {j : Json}
    (hl : s.lifecycle = .initialized) (hm : Method.ofName? name = some method)
    (hs : s.notified? host method j = some s') :
    (s.step host (.message ⟨name, some j, false⟩)).1 = s' := by
  have hopen : s.lifecycle ≠ .exited := by simp [hl]
  have hnotify : (s.notify host method ⟨name, some j, false⟩).1 = s' := by simp [notify, hs]
  have hhandle : (s.handle host method ⟨name, some j, false⟩).1 = s' := by
    -- nothing follows from the other methods
    cases method
    case beginSession => simp [notified?] at hs
    case endSession => simp [notified?] at hs
    case exit => simp [notified?] at hs
    case executeCommand => simp [notified?] at hs
    case unansweredRequest => simp [notified?] at hs
    all_goals simpa [handle, Method.isAlwaysOpen, Method.isNotification, hl] using hnotify
  have hreceive : (s.receive host ⟨name, some j, false⟩).1 = s' := by
    simp only [receive, if_neg hopen, hm, hhandle]
  simp only [step, hreceive]

theorem fst_step_advance :
    (s.step host (.advance milliseconds)).1 = s.elapse host milliseconds := rfl

end RecipeDiag.Server
