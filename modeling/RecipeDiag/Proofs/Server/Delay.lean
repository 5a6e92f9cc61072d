import RecipeDiag.Proofs.Server.Arrival
import RecipeDiag.Proofs.Server.Demand

/-!
# Updates that were put off

An event that calls for the update of a document puts it off and revokes what was put off before
(`dueAt_meet`). Time makes tasks fire that are due, and leaves the others waiting (`waits_elapse`). So an
update that was called for runs after the delay, once, unless it is called for again before
(`OnTime.run`).
-/

namespace RecipeDiag

namespace Debounce
variable {d : Debounce} {t t' : DelayedTask} {u : Uri} {due : Nat} {ts : List DelayedTask}

def Waits (d : Debounce) (t : DelayedTask) : Prop := t ∈ d.tasks ∧ t.stage = .waiting

theorem Kept.eq_of_waits (h : d.Kept) (ht : d.Waits t) (ht' : d.Waits t') (hu : t.uri = t'.uri) : t = t' := by
  have hlive : t.IsLive := by simp [DelayedTask.IsLive, ht.2]
  have hlive' : t'.IsLive := by simp [DelayedTask.IsLive, ht'.2]
  exact h.eq_of_isLive ht.1 ht'.1 hlive hlive' hu

theorem waits_schedule (h : d.Kept) : (d.schedule u due).Waits t ↔
    t = d.started u due ∨ d.Waits t ∧ t.uri ≠ u := by
  constructor
  · rintro ⟨ht, hw⟩
    rcases mem_tasks_schedule_cases ht with rfl | ⟨t₀, ht₀, hb⟩
    · exact .inl rfl
    right
    cases hb with
    | aborts => cases hw
    | outlives ha hended =>
      refine ⟨⟨ht₀, hw⟩, ?_⟩
      rintro rfl
      cases ha
      have hawaited := h.awaited?_of_isLive ht₀ (by simp [DelayedTask.IsLive, hw])
      exact absurd (hw.symm.trans (hended hawaited)) (by simp)
    | begins ha => cases ha
    | completes ha => cases ha
    | ends ha => cases ha
    | stays hn => cases hn
  · rintro (rfl | ⟨⟨ht, hw⟩, hu⟩)
    · exact ⟨mem_tasks_schedule_self, rfl⟩
    · refine ⟨mem_tasks_schedule ht fun id hc => hu ?_, hw⟩
      obtain ⟨t', ht', hentry, huri, -⟩ := h.entry u _ hc
      rw [← h.numbered.eq_of_number_eq ht'.1 ht (congrArg Prod.snd hentry), huri]

theorem waits_fire : (d.fire t).Waits t' ↔ d.Waits t' ∧ t'.number ≠ t.number := by
  constructor
  · rintro ⟨ht', hw⟩
    rw [tasks_fire] at ht'
    -- a task that has moved on does not wait
    rcases mem_tasks_move_cases ht' with ⟨_, _, _, _, rfl⟩ | ⟨ht', -⟩
    · cases hw
    rcases mem_tasks_move_cases ht' with ⟨_, _, _, _, rfl⟩ | ⟨ht', -⟩
    · cases hw
    rcases mem_tasks_move_cases ht' with ⟨_, _, _, _, rfl⟩ | ⟨ht', hno⟩
    · cases hw
    refine ⟨⟨ht', hw⟩, fun hnumber => hno hnumber ?_⟩
    rw [hw]
    rfl
  · rintro ⟨⟨ht', hw⟩, hne⟩
    exact ⟨mem_tasks_fire ht' hne, hw⟩

theorem waits_foldl_fire :
    (ts.foldl fire d).Waits t ↔ d.Waits t ∧ ∀ t' ∈ ts, t.number ≠ t'.number := by
  induction ts generalizing d with
  | nil => simp
  | cons t' ts ih => rw [List.foldl_cons, ih, waits_fire, List.forall_mem_cons, and_assoc]

end Debounce

/-- Whether a demand puts off the update of a document, which may be registered for a recipe. -/
def Demand.PutsOff (d : Demand) (r : Registry) (g : Uri) : Prop :=
  match d with
  | .openDocument recipe _ => ∃ l document, r.document? recipe l = some document ∧ document.uri = g
  | .reportFindings u _ => u = g
  | _ => False

namespace Server
variable {s s' : Server} {host : Host} {t : DelayedTask} {g u recipe : Uri} {d : Demand}
  {e : Event} {m : Message} {due time milliseconds : Nat} {events : List Event}

/-! ### Time passes -/

theorem mem_agenda_iff : t ∈ s.agenda host time ↔ s.debounce.Waits t ∧ t.due ≤ time := by
  rw [mem_agenda, Debounce.dueBy, List.mem_filter, Debounce.Waits, and_assoc]
  simp

theorem waits_elapse (hk : s.debounce.Kept) : (s.elapse host milliseconds).debounce.Waits t ↔
    s.debounce.Waits t ∧ s.clock + milliseconds < t.due := by
  rw [debounce_elapse, Debounce.waits_foldl_fire]
  refine and_congr_right fun ht => ⟨fun hno => ?_, fun hlt t' ht' hnumber => ?_⟩
  · by_contra hle
    exact hno t (mem_agenda_iff.2 ⟨ht, Nat.not_lt.1 hle⟩) rfl
  · obtain ⟨hw, hdue⟩ := mem_agenda_iff.1 ht'
    rw [hk.numbered.eq_of_number_eq ht.1 hw.1 hnumber] at hlt
    omega

theorem kept_elapse (hk : s.debounce.Kept) (milliseconds : Nat) :
    (s.elapse host milliseconds).debounce.Kept := by
  refine elapse_induction_of_kept (P := fun s => s.debounce.Kept) hk (fun s t hk ht hw => ?_)
    (fun _ _ hk => hk) hk milliseconds
  rw [debounce_fire]
  exact hk.fire ht hw

/-! ### Events that call for updates -/

/-- The event calls for the update of a document: it reports findings about it, or opens the recipe that
it is registered for. -/
def Schedules (s : Server) (e : Event) (g : Uri) : Prop :=
  (∃ fs, s.report? e = some (g, fs)) ∨ ∃ recipe text l document, s.opening? e = some (recipe, text) ∧
    s.reconciler.registry.document? recipe l = some document ∧ document.uri = g

theorem schedules_message_iff :
    s.Schedules (.message m) g ↔ (m.demand s.lifecycle).PutsOff s.reconciler.registry g := by
  unfold Schedules
  simp only [← demand_eq_reportFindings_iff, ← demand_eq_openDocument_iff]
  cases m.demand s.lifecycle with
  | openDocument recipe text => simp [Demand.PutsOff]
  | reportFindings u fs => simp [Demand.PutsOff]
  | _ => simp [Demand.PutsOff]

theorem not_schedules_client {c : Client} : ¬ s.Schedules (.client c) g := by
  simp [Schedules, report?, opening?, notification?]

theorem not_schedules_advance : ¬ s.Schedules (.advance milliseconds) g := by
  simp [Schedules, report?, opening?, notification?]

/-- An update of the document is put off until a time. -/
def DueAt (s : Server) (g : Uri) (due : Nat) : Prop := ∃ t, s.debounce.Waits t ∧ t.uri = g ∧ t.due = due

theorem dueAt_scheduleUpdate (hk : s.debounce.Kept) : (s.scheduleUpdate u).DueAt g due ↔
    u = g ∧ due = s.clock + debounceDelay ∨ u ≠ g ∧ s.DueAt g due := by
  unfold DueAt scheduleUpdate
  simp only [Debounce.waits_schedule hk]
  constructor
  · rintro ⟨t, rfl | ⟨ht, hu⟩, rfl, rfl⟩
    · exact .inl ⟨rfl, rfl⟩
    · exact .inr ⟨hu.symm, t, ht, rfl, rfl⟩
  · rintro (⟨rfl, rfl⟩ | ⟨hu, t, ht, rfl, rfl⟩)
    · exact ⟨_, .inl rfl, rfl, rfl⟩
    · exact ⟨t, .inr ⟨ht, hu.symm⟩, rfl, rfl⟩

theorem kept_openDocument (hk : s.debounce.Kept) (recipe : Uri) (text : String) :
    (s.openDocument recipe text).debounce.Kept :=
  openDocument_induction (P := fun s => s.debounce.Kept) hk fun _ u hk => hk.act (.schedule u _)

theorem foldl_scheduleDocument (ls : List Language) : ls.foldl (scheduleDocument recipe) s =
    (ls.filterMap fun l => (s.reconciler.registry.document? recipe l).map GeneratedDocument.uri).foldl
      scheduleUpdate s := by
  induction ls generalizing s with
  | nil => rfl
  | cons l ls ih =>
    rw [List.foldl_cons, ih, scheduleDocument]
    cases hd : s.reconciler.registry.document? recipe l with
    | none => simp [hd]
    | some document =>
      simp only [Option.elim_some, List.filterMap_cons, hd, Option.map_some, List.foldl_cons]
      rfl

/-- However many updates are put off, they are due at the same time. -/
theorem dueAt_foldl_scheduleUpdate (hk : s.debounce.Kept) (us : List Uri) :
    (us.foldl scheduleUpdate s).DueAt g due ↔
      g ∈ us ∧ due = s.clock + debounceDelay ∨ g ∉ us ∧ s.DueAt g due := by
  induction us generalizing s with
  | nil => simp
  | cons u us ih =>
    have hclock : (s.scheduleUpdate u).clock = s.clock := rfl
    rw [List.foldl_cons, ih (hk.act (.schedule u _)), dueAt_scheduleUpdate hk, hclock, List.mem_cons]
    by_cases hu : u = g
    · subst hu
      by_cases hus : u ∈ us <;> simp [hus]
    · have hu' : g ≠ u := Ne.symm hu
      by_cases hus : g ∈ us <;> simp [hus, hu, hu']

/-- An event that calls for an update puts it off and revokes what was put off before. -/
theorem dueAt_meet (hk : s.debounce.Kept) : (s.meet host d).DueAt g due ↔
    d.PutsOff s.reconciler.registry g ∧ due = s.clock + debounceDelay ∨
      ¬ d.PutsOff s.reconciler.registry g ∧ s.DueAt g due := by
  cases d with
  | openDocument recipe text =>
    have hmem : (g ∈ Language.all.filterMap fun l =>
        (s.reconciler.registry.document? recipe l).map GeneratedDocument.uri) ↔
          (Demand.openDocument recipe text).PutsOff s.reconciler.registry g := by
      simp [Demand.PutsOff, Language.mem_all]
    rw [← hmem]
    show (s.openDocument recipe text).DueAt g due ↔ _
    have hedited : (s.edit (.setText recipe text)).debounce.Kept := hk
    rw [openDocument_eq_foldl, foldl_scheduleDocument]
    exact dueAt_foldl_scheduleUpdate hedited _
  | reportFindings u fs => exact dueAt_scheduleUpdate hk
  | review =>
    obtain ⟨ns, h⟩ := review_eq s host
    simp only [meet, h, Demand.PutsOff, false_and, false_or, not_false_eq_true, true_and]
    rfl
  | configure settings =>
    obtain ⟨ns, h⟩ := configure_eq s host settings
    simp only [meet, h, Demand.PutsOff, false_and, false_or, not_false_eq_true, true_and]
    rfl
  | _ =>
    simp only [Demand.PutsOff, false_and, false_or, not_false_eq_true, true_and]
    rfl

theorem kept_meet (hk : s.debounce.Kept) : (s.meet host d).debounce.Kept := by
  cases d with
  | openDocument recipe text => exact kept_openDocument hk recipe text
  | reportFindings u fs => exact hk.act (.schedule u _)
  | review =>
    obtain ⟨ns, h⟩ := review_eq s host
    simpa only [meet, h] using hk
  | configure settings =>
    obtain ⟨ns, h⟩ := configure_eq s host settings
    simpa only [meet, h] using hk
  | _ => exact hk

theorem dueAt_elapse (hk : s.debounce.Kept) : (s.elapse host milliseconds).DueAt g due ↔
    s.clock + milliseconds < due ∧ s.DueAt g due := by
  unfold DueAt
  simp only [waits_elapse hk]
  constructor
  · rintro ⟨t, ⟨ht, hlt⟩, rfl, rfl⟩
    exact ⟨hlt, t, ht, rfl, rfl⟩
  · rintro ⟨hlt, t, ht, rfl, rfl⟩
    exact ⟨t, ⟨ht, hlt⟩, rfl, rfl⟩

/-! ### Tasks that fire -/

/-- The times for which tasks of a document were put off, in order. -/
def dues (g : Uri) (ts : List DelayedTask) : List Nat := (ts.filter fun t => t.uri = g).map DelayedTask.due

theorem mem_dues_agenda : due ∈ dues g (s.agenda host time) ↔ s.DueAt g due ∧ due ≤ time := by
  unfold dues DueAt
  simp only [List.mem_map, List.mem_filter, mem_agenda_iff, decide_eq_true_eq]
  constructor
  · rintro ⟨t, ⟨⟨ht, hle⟩, rfl⟩, rfl⟩
    exact ⟨⟨t, ht, rfl, rfl⟩, hle⟩
  · rintro ⟨⟨t, ht, rfl, rfl⟩, hle⟩
    exact ⟨t, ⟨⟨ht, hle⟩, rfl⟩, rfl⟩

/-- No two tasks of a document fire as time passes. -/
theorem pairwise_dues_agenda (hk : s.debounce.Kept) : (dues g (s.agenda host time)).Pairwise (· < ·) := by
  have hnodup : (s.agenda host time).Nodup := by
    have hperm : (s.agenda host time).Perm (s.debounce.dueBy time) := List.mergeSort_perm ..
    exact hperm.nodup_iff.2 ((List.Nodup.of_map _ hk.numbered.nodup).filter _)
  unfold dues
  rw [List.pairwise_map]
  refine (hnodup.filter _).imp_of_mem fun {t t'} ht ht' hne => absurd ?_ hne
  simp only [List.mem_filter, mem_agenda_iff, decide_eq_true_eq] at ht ht'
  exact hk.eq_of_waits ht.1.1 ht'.1.1 (ht.2.trans ht'.2.symm)

/-- The updates of a document that were called for at some times, and those that have run, up to now:
the last call still waits for its time or has run, and so has each that no other came soon after. -/
structure OnTime (s : Server) (g : Uri) (called : Nat → Prop) (ran : List Nat) : Prop where
  kept : s.debounce.Kept
  past : ∀ time, called time → time ≤ s.clock
  due : ∀ due, s.DueAt g due ↔ s.clock < due ∧
    ∃ time, called time ∧ due = time + debounceDelay ∧ ∀ time', called time' → time' ≤ time
  increasing : ran.Pairwise (· < ·)
  ran : ∀ due, due ∈ ran ↔ due ≤ s.clock ∧
    ∃ time, called time ∧ due = time + debounceDelay ∧
      ∀ time', called time' → time < time' → time + debounceDelay ≤ time'

namespace OnTime
variable {called : Nat → Prop} {ran : List Nat}

theorem start (g : Uri) : start.OnTime g (fun _ => False) [] where
  kept := Debounce.kept_empty
  past _ h := h.elim
  due due := by
    refine iff_of_false ?_ fun ⟨_, _, h, _⟩ => h
    rintro ⟨t, ht, -⟩
    exact absurd ht.1 List.not_mem_nil
  increasing := .nil
  ran due := iff_of_false List.not_mem_nil fun ⟨_, _, h, _⟩ => h

theorem elapse (h : s.OnTime g called ran) (host : Host) (milliseconds : Nat) :
    (s.elapse host milliseconds).OnTime g called
      (ran ++ dues g (s.agenda host (s.clock + milliseconds))) where
  kept := kept_elapse h.kept milliseconds
  past time ht := Nat.le_trans (h.past time ht) (Nat.le_add_right ..)
  due due := by
    rw [dueAt_elapse h.kept, h.due, clock_elapse]
    constructor
    · rintro ⟨hlt, -, hlast⟩
      exact ⟨hlt, hlast⟩
    · rintro ⟨hlt, hlast⟩
      exact ⟨hlt, by omega, hlast⟩
  increasing := by
    refine List.pairwise_append.2 ⟨h.increasing, pairwise_dues_agenda h.kept, fun due hran due' hnow => ?_⟩
    have hle := ((h.ran due).1 hran).1
    have hlt := ((h.due due').1 (mem_dues_agenda.1 hnow).1).1
    omega
  ran due := by
    rw [List.mem_append, h.ran, mem_dues_agenda, h.due, clock_elapse]
    constructor
    · rintro (⟨hle, hsettled⟩ | ⟨⟨hlt, time, htime, hdue, hlast⟩, hle⟩)
      · exact ⟨by omega, hsettled⟩
      · refine ⟨hle, time, htime, hdue, fun time' htime' hlater => ?_⟩
        have := hlast time' htime'
        omega
    · rintro ⟨hle, time, htime, hdue, hsettled⟩
      by_cases hpast : due ≤ s.clock
      · exact .inl ⟨hpast, time, htime, hdue, hsettled⟩
      · -- another call after this one would have come before now
        refine .inr ⟨⟨by omega, time, htime, hdue, fun time' htime' => ?_⟩, hle⟩
        by_contra hlater
        have hsoon := hsettled time' htime' (by omega)
        have := h.past time' htime'
        omega

theorem congr (h : s.OnTime g called ran) (hclock : s'.clock = s.clock) (hk : s'.debounce.Kept)
    (hdue : ∀ due, s'.DueAt g due ↔ s.DueAt g due) : s'.OnTime g called ran := by
  refine ⟨hk, fun time ht => ?_, fun due => ?_, h.increasing, fun due => ?_⟩
  · rw [hclock]
    exact h.past time ht
  · rw [hdue, hclock]
    exact h.due due
  · rw [hclock]
    exact h.ran due

/-- The update is called for now. -/
theorem call (h : s.OnTime g called ran) (hclock : s'.clock = s.clock) (hk : s'.debounce.Kept)
    (hdue : ∀ due, s'.DueAt g due ↔ due = s.clock + debounceDelay) :
    s'.OnTime g (fun time => called time ∨ time = s.clock) ran := by
  have hdelay : 0 < debounceDelay := by decide
  refine ⟨hk, ?_, fun due => ?_, h.increasing, fun due => ?_⟩
  · rw [hclock]
    rintro time (ht | rfl)
    · exact h.past time ht
    · exact Nat.le_refl _
  · rw [hdue, hclock]
    constructor
    · rintro rfl
      refine ⟨by omega, s.clock, .inr rfl, rfl, ?_⟩
      rintro time' (ht' | rfl)
      · exact h.past time' ht'
      · exact Nat.le_refl _
    · rintro ⟨-, time, ht, rfl, hlast⟩
      have hnow := hlast s.clock (.inr rfl)
      have hpast : time ≤ s.clock := by
        rcases ht with ht | rfl
        · exact h.past time ht
        · exact Nat.le_refl _
      omega
  · rw [h.ran, hclock]
    refine and_congr_right fun hle => ⟨?_, ?_⟩
    · rintro ⟨time, ht, rfl, hsettled⟩
      refine ⟨time, .inl ht, rfl, ?_⟩
      rintro time' (ht' | rfl) hlater
      · exact hsettled time' ht' hlater
      · exact hle
    · rintro ⟨time, ht | rfl, rfl, hsettled⟩
      · exact ⟨time, ht, rfl, fun time' ht' => hsettled time' (.inl ht')⟩
      · omega

theorem of_iff {called' : Nat → Prop} (h : s.OnTime g called ran) (hc : ∀ time, called time ↔ called' time) :
    s.OnTime g called' ran := by
  obtain rfl : called = called' := funext fun time => propext (hc time)
  exact h

theorem meet (h : s.OnTime g called ran) (host : Host) (d : Demand) : (s.meet host d).OnTime g
    (fun time => called time ∨ d.PutsOff s.reconciler.registry g ∧ time = s.clock) ran := by
  by_cases hd : d.PutsOff s.reconciler.registry g
  · have hdue (due : Nat) : (s.meet host d).DueAt g due ↔ due = s.clock + debounceDelay := by
      rw [dueAt_meet h.kept]
      simp [hd]
    exact (h.call clock_meet (kept_meet h.kept) hdue).of_iff fun time => by simp [hd]
  · have hdue (due : Nat) : (s.meet host d).DueAt g due ↔ s.DueAt g due := by
      rw [dueAt_meet h.kept]
      simp [hd]
    exact (h.congr clock_meet (kept_meet h.kept) hdue).of_iff fun time => by simp [hd]

end OnTime

/-! ### Whole runs -/

/-- The tasks that fire in the course of an event, in order. -/
def firedIn (s : Server) (host : Host) : Event → List DelayedTask
  | .advance milliseconds => s.agenda host (s.clock + milliseconds)
  | _ => []

/-- The tasks that fire in the course of a run, in order. -/
def fired (s : Server) (host : Host) : List Event → List DelayedTask
  | [] => []
  | e :: es => s.firedIn host e ++ (s.step host e).1.fired host es

theorem run_concat : s.run host (events ++ [e]) = ((s.run host events).step host e).1 := run_append

theorem fired_concat : s.fired host (events ++ [e]) =
    s.fired host events ++ (s.run host events).firedIn host e := by
  induction events generalizing s with
  | nil => simp [fired]
  | cons e' events ih => rw [List.cons_append, fired, ih, fired, List.append_assoc, run_cons]

/-- In the run the update of a document is called for at the time. -/
def CalledAt (s : Server) (host : Host) (events : List Event) (g : Uri) (time : Nat) : Prop :=
  ∃ before e after, events = before ++ e :: after ∧ (s.run host before).Schedules e g ∧
    (s.run host before).clock = time

theorem not_calledAt_nil : ¬ s.CalledAt host [] g time := by
  rintro ⟨before, e, after, h, -⟩
  simp at h

theorem calledAt_concat : s.CalledAt host (events ++ [e]) g time ↔
    s.CalledAt host events g time ∨ (s.run host events).Schedules e g ∧ time = (s.run host events).clock := by
  constructor
  · rintro ⟨before, e', after, h, hcalls, hclock⟩
    rcases List.eq_nil_or_concat after with rfl | ⟨after, e'', rfl⟩
    · obtain ⟨rfl, he⟩ := List.append_inj' h rfl
      cases he
      exact .inr ⟨hcalls, hclock.symm⟩
    · rw [List.concat_eq_append, ← List.cons_append, ← List.append_assoc] at h
      exact .inl ⟨before, e', after, (List.append_inj' h rfl).1, hcalls, hclock⟩
  · rintro (⟨before, e', after, rfl, hcalls, hclock⟩ | ⟨hcalls, rfl⟩)
    · exact ⟨before, e', after ++ [e], by simp, hcalls, hclock⟩
    · exact ⟨events, e, [], rfl, hcalls, rfl⟩

namespace OnTime
variable {called : Nat → Prop} {ran : List Nat}

theorem step (h : s.OnTime g called ran) (host : Host) (e : Event) :
    (s.step host e).1.OnTime g (fun time => called time ∨ s.Schedules e g ∧ time = s.clock)
      (ran ++ dues g (s.firedIn host e)) := by
  cases e with
  | message m =>
    have hmeet := h.meet host (m.demand s.lifecycle)
    rw [show dues g (s.firedIn host (.message m)) = [] from rfl, List.append_nil, fst_step_message]
    exact hmeet.of_iff fun time => by rw [schedules_message_iff]
  | client c =>
    have hsame : (s.step host (.client c)).1.OnTime g called ran := h.congr rfl h.kept fun _ => Iff.rfl
    rw [show dues g (s.firedIn host (.client c)) = [] from rfl, List.append_nil]
    exact hsame.of_iff fun time => by simp [not_schedules_client]
  | advance milliseconds =>
    exact (h.elapse host milliseconds).of_iff fun time => by simp [not_schedules_advance]

/-- At every moment of a run the updates that were called for are on time. -/
theorem run (host : Host) (events : List Event) (g : Uri) :
    (Server.start.run host events).OnTime g (Server.start.CalledAt host events g)
      (dues g (Server.start.fired host events)) := by
  induction events using List.reverseRecOn with
  | nil => exact (start g).of_iff fun time => iff_of_false id not_calledAt_nil
  | append_singleton events e ih =>
    have hstep := ih.step host e
    rw [run_concat, fired_concat, dues, List.filter_append, List.map_append]
    exact hstep.of_iff fun time => calledAt_concat.symm

end OnTime

theorem due_of_mem_firedIn (ht : t ∈ (start.run host events).firedIn host e) :
    (start.run host events).clock < t.due ∧ t.due ≤ (start.run host (events ++ [e])).clock := by
  have h := OnTime.run host events t.uri
  rw [run_concat]
  cases e with
  | message m => exact absurd ht List.not_mem_nil
  | client c => exact absurd ht List.not_mem_nil
  | advance milliseconds =>
    obtain ⟨hw, hle⟩ := mem_agenda_iff.1 ht
    exact ⟨((h.due t.due).1 ⟨t, hw, rfl, rfl⟩).1, hle⟩

end Server
end RecipeDiag
