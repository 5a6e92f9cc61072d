import Mathlib.Data.List.Induction
import RecipeDiag.Proofs.Server.Debounce

/-!
# Delayed tasks that succeed one another

Announcements and the steps of the tasks that they start come in any order (`Action`, `act`, `run`).
`Becomes` lists what one action makes of a task, and `Kept` is what every action keeps: tasks are
numbered in the order in which they were started, ids are their numbers as words, and the entry of a
document is that of its newest task, which is the only one that is still live. A task that no longer waits
never waits again (`exists_waiting_of_run`), so a body that has begun, or whose task was aborted before, does
not begin later. `only_newest_task_runs` puts this together.
-/

namespace RecipeDiag

namespace DelayedTask

/-- The task has neither ended nor been aborted. -/
def IsLive (t : DelayedTask) : Prop := t.stage ≠ .ended ∧ t.stage ≠ .aborted

/-- The body has still to begin or to come to its end. -/
def MayRun (t : DelayedTask) : Prop := t.stage = .waiting ∨ t.stage = .running

theorem MayRun.isLive {t : DelayedTask} (h : t.MayRun) : t.IsLive := by
  rcases h with h | h <;> simp [IsLive, h]

end DelayedTask

namespace Debounce

/-- More work on a document is announced, or the task with a number takes its next step. -/
inductive Action where
  | schedule (u : Uri) (due : Nat)
  | expire (number : Nat)
  | complete (number : Nat)
  | finish (number : Nat)

/-- The document and the time that a task is started for. -/
def Action.scheduled? : Action → Option (Uri × Nat)
  | schedule u due => some (u, due)
  | _ => none

def act (d : Debounce) : Action → Debounce
  | .schedule u due => d.schedule u due
  | .expire number => d.expire number
  | .complete number => d.complete number
  | .finish number =>
    -- a task that was aborted takes no step any more
    match d.tasks.find? fun t => t.number = number ∧ t.stage = .finishing with
    | some t => (d.finish t.id t.uri).close t.number
    | none => d

def run (d : Debounce) (actions : List Action) : Debounce := actions.foldl act d

variable {d : Debounce} {a a' : Action} {t t' : DelayedTask} {u v : Uri} {e : UInt64 × Nat}
  {number due : Nat} {before before' actions : List Action}

theorem run_append : d.run (before ++ actions) = (d.run before).run actions := List.foldl_append

theorem run_concat : d.run (actions ++ [a]) = (d.run actions).act a := run_append

/-! ### One action -/

/-- The number of the task that a document waits for. -/
def awaited? (d : Debounce) (u : Uri) : Option Nat := (d.current.get? u).map Prod.snd

/-- What an action makes of a task. -/
inductive Becomes (d : Debounce) (a : Action) (t : DelayedTask) : DelayedTask → Prop
  | aborts {u : Uri} {due : Nat} (ha : a = .schedule u due) (hc : d.awaited? u = some t.number)
      (hs : t.stage ≠ .ended) : Becomes d a t { t with stage := .aborted }
  | outlives {u : Uri} {due : Nat} (ha : a = .schedule u due)
      (h : d.awaited? u = some t.number → t.stage = .ended) : Becomes d a t t
  | begins (ha : a = .expire t.number) (hs : t.stage = .waiting) :
      Becomes d a t { t with stage := .running }
  | completes (ha : a = .complete t.number) (hs : t.stage = .running) :
      Becomes d a t { t with stage := .finishing }
  | ends (ha : a = .finish t.number) (hs : t.stage = .finishing) :
      Becomes d a t { t with stage := .ended }
  | stays (hn : a.scheduled? = none) (hb : a = .expire t.number → t.stage ≠ .waiting)
      (hc : a = .complete t.number → t.stage ≠ .running)
      (hf : a = .finish t.number → t.stage ≠ .finishing) : Becomes d a t t

namespace Becomes

theorem entry_eq (h : d.Becomes a t t') : t'.entry = t.entry := by
  cases h <;> rfl

theorem number_eq (h : d.Becomes a t t') : t'.number = t.number := congrArg Prod.snd h.entry_eq

theorem id_eq (h : d.Becomes a t t') : t'.id = t.id := congrArg Prod.fst h.entry_eq

theorem uri_eq (h : d.Becomes a t t') : t'.uri = t.uri := by
  cases h <;> rfl

theorem waiting (h : d.Becomes a t t') (hw : t'.stage = .waiting) : t.stage = .waiting := by
  cases h with
  | outlives | stays => exact hw
  | _ => exact nomatch hw

/-- No step brings a task that is over back. -/
theorem isLive (h : d.Becomes a t t') (hl : t'.IsLive) : t.IsLive := by
  cases h with
  | aborts => exact absurd rfl hl.2
  | ends => exact absurd rfl hl.1
  | begins ha hs => simp [DelayedTask.IsLive, hs]
  | completes ha hs => simp [DelayedTask.IsLive, hs]
  | outlives | stays => exact hl

end Becomes

theorem mem_tasks_move_cases {source : DelayedTask.Stage → Bool} {target : DelayedTask.Stage}
    (h : t' ∈ (d.move number source target).tasks) :
    (∃ t ∈ d.tasks, t.number = number ∧ source t.stage ∧ t' = { t with stage := target }) ∨
      t' ∈ d.tasks ∧ (t'.number = number → ¬ source t'.stage) := by
  obtain ⟨t, ht, rfl⟩ := List.mem_map.1 h
  simp only [Bool.and_eq_true, decide_eq_true_eq]
  split
  · next hk => exact .inl ⟨t, ht, hk.1, hk.2, rfl⟩
  · next hk => exact .inr ⟨ht, fun hnumber hs => hk ⟨hnumber, hs⟩⟩

/-- A finishing task takes its entry back; no other task can. -/
theorem act_finish_cases (d : Debounce) (number : Nat) :
    (∃ t ∈ d.tasks, t.number = number ∧ t.stage = .finishing ∧
      d.act (.finish number) = (d.finish t.id t.uri).close number) ∨
      (∀ t ∈ d.tasks, t.number = number → t.stage ≠ .finishing) ∧ d.act (.finish number) = d := by
  simp only [act]
  split
  · next t h =>
    have ht := List.find?_some h
    simp only [decide_eq_true_eq] at ht
    exact .inl ⟨t, List.mem_of_find?_eq_some h, ht.1, ht.2, by rw [ht.1]⟩
  · next h =>
    refine .inr ⟨fun t ht hnumber hs => ?_, rfl⟩
    have hno := List.find?_eq_none.1 h t ht
    simp [hnumber, hs] at hno

theorem tasks_close_finish {id : UInt64} : ((d.finish id u).close number).tasks =
    (d.move number (· == .finishing) .ended).tasks := by
  rw [close, move, tasks_finish, move]

theorem mem_tasks_schedule_cases (h : t' ∈ (d.schedule u due).tasks) :
    t' = d.started u due ∨ ∃ t ∈ d.tasks, d.Becomes (.schedule u due) t t' := by
  rw [schedule_eq] at h
  rcases List.mem_append.1 h with h | h
  · right
    unfold predecessors at h
    split at h
    · next id number hu =>
      have hawaited : d.awaited? u = some number := congrArg (Option.map Prod.snd) hu
      rcases mem_tasks_move_cases h with ⟨t, ht, rfl, hs, rfl⟩ | ⟨ht, hno⟩
      · exact ⟨t, ht, .aborts rfl hawaited (by simpa using hs)⟩
      · refine ⟨t', ht, .outlives rfl fun hc => ?_⟩
        simpa using hno (Option.some.inj (hc.symm.trans hawaited))
    · next hu =>
      have hawaited : d.awaited? u = none := congrArg (Option.map Prod.snd) hu
      exact ⟨t', h, .outlives rfl fun hc => nomatch hawaited.symm.trans hc⟩
  · exact .inl (List.mem_singleton.1 h)

theorem mem_tasks_act (h : t' ∈ (d.act a).tasks) :
    (∃ u due, a = .schedule u due ∧ t' = d.started u due) ∨ ∃ t ∈ d.tasks, d.Becomes a t t' := by
  cases a with
  | schedule u due =>
    rcases mem_tasks_schedule_cases h with rfl | h
    · exact .inl ⟨u, due, rfl, rfl⟩
    · exact .inr h
  | expire number =>
    right
    rcases mem_tasks_move_cases h with ⟨t, ht, rfl, hs, rfl⟩ | ⟨ht, hno⟩
    · exact ⟨t, ht, .begins rfl (by simpa using hs)⟩
    · refine ⟨t', ht, .stays rfl (fun he hs => ?_) nofun nofun⟩
      cases he
      simp [hs] at hno
  | complete number =>
    right
    rcases mem_tasks_move_cases h with ⟨t, ht, rfl, hs, rfl⟩ | ⟨ht, hno⟩
    · exact ⟨t, ht, .completes rfl (by simpa using hs)⟩
    · refine ⟨t', ht, .stays rfl nofun (fun he hs => ?_) nofun⟩
      cases he
      simp [hs] at hno
  | finish number =>
    right
    rcases act_finish_cases d number with ⟨t₀, -, -, -, he⟩ | ⟨hno, he⟩
    · rw [he, tasks_close_finish] at h
      rcases mem_tasks_move_cases h with ⟨t, ht, rfl, hs, rfl⟩ | ⟨ht, hno⟩
      · exact ⟨t, ht, .ends rfl (by simpa using hs)⟩
      · refine ⟨t', ht, .stays rfl nofun nofun fun he' hs => ?_⟩
        cases he'
        simp [hs] at hno
    · rw [he] at h
      refine ⟨t', h, .stays rfl nofun nofun fun he' => hno t' h ?_⟩
      cases he'
      rfl

/-- What does not depend on the stages of the tasks is added to by a new task alone. -/
theorem map_tasks_act {β : Type} {f : DelayedTask → β}
    (hf : ∀ t stage, f { t with stage := stage } = f t) :
    (d.act a).tasks.map f =
      d.tasks.map f ++ a.scheduled?.toList.map fun w => f (d.started w.1 w.2) := by
  cases a with
  | schedule u due => exact map_tasks_schedule hf
  | expire number => simp [act, expire, Action.scheduled?, map_move hf]
  | complete number => simp [act, complete, Action.scheduled?, map_move hf]
  | finish number =>
    rcases act_finish_cases d number with ⟨t, -, -, -, he⟩ | ⟨-, he⟩
    · simp [he, tasks_close_finish, Action.scheduled?, map_move hf]
    · simp [he, Action.scheduled?]

theorem length_tasks_act : (d.act a).tasks.length = d.tasks.length + a.scheduled?.toList.length := by
  have hmap := congrArg List.length (map_tasks_act (d := d) (a := a) (f := DelayedTask.number) fun _ _ => rfl)
  simpa using hmap

theorem nextId_act : (d.act a).nextId = d.nextId + UInt64.ofNat a.scheduled?.toList.length := by
  cases a with
  | schedule u due => exact nextId_schedule
  | expire number => exact (UInt64.add_zero _).symm
  | complete number => exact (UInt64.add_zero _).symm
  | finish number =>
    rcases act_finish_cases d number with ⟨t, -, -, -, he⟩ | ⟨-, he⟩
    · rw [he, close, nextId_move, nextId_finish]
      exact (UInt64.add_zero _).symm
    · rw [he]
      exact (UInt64.add_zero _).symm

/-! ### The newest task of a document -/

/-- No task was started for the document since. -/
def IsNewest (d : Debounce) (t : DelayedTask) : Prop :=
  t ∈ d.tasks ∧ ∀ t' ∈ d.tasks, t'.uri = t.uri → t'.number ≤ t.number

/-- Tasks are numbered in order, ids are the numbers as words, and the entry of a document is that of its
newest task, which alone is live. -/
structure Kept (d : Debounce) : Prop where
  numbered : d.Numbered
  ids : ∀ t ∈ d.tasks, t.id = UInt64.ofNat t.number
  nextId : d.nextId = UInt64.ofNat d.tasks.length
  entry : ∀ u e, d.current.get? u = some e → ∃ t, d.IsNewest t ∧ t.entry = e ∧ t.uri = u ∧ t.IsLive
  live : ∀ t ∈ d.tasks, t.IsLive → d.current.get? t.uri = some t.entry
  /-- Only a newer task aborts one. -/
  aborted : ∀ t ∈ d.tasks, t.stage = .aborted → ¬ d.IsNewest t

theorem kept_empty : empty.Kept where
  numbered := .empty
  ids _ h := nomatch h
  nextId := rfl
  entry _ _ h := nomatch h
  live _ h := nomatch h
  aborted _ h := nomatch h

namespace Kept

theorem eq_of_isLive (h : d.Kept) (ht : t ∈ d.tasks) (ht' : t' ∈ d.tasks) (hl : t.IsLive) (hl' : t'.IsLive)
    (hu : t.uri = t'.uri) : t = t' := by
  have hc := h.live t ht hl
  rw [hu, h.live t' ht' hl'] at hc
  exact h.numbered.eq_of_number_eq ht ht' (congrArg Prod.snd (Option.some.inj hc)).symm

/-- The task that a document waits for is its newest. -/
theorem exists_newest_of_awaited? (h : d.Kept) (hu : d.awaited? u = some number) :
    ∃ t, d.IsNewest t ∧ t.number = number ∧ t.uri = u := by
  obtain ⟨e, he, rfl⟩ := Option.map_eq_some_iff.1 hu
  obtain ⟨t, ht, rfl, huri, -⟩ := h.entry u e he
  exact ⟨t, ht, rfl, huri⟩

theorem awaited?_of_isLive (h : d.Kept) (ht : t ∈ d.tasks) (hl : t.IsLive) :
    d.awaited? t.uri = some t.number := congrArg (Option.map Prod.snd) (h.live t ht hl)

theorem isPending_iff (h : d.Kept) :
    d.isPending u = true ↔ ∃ t, d.IsNewest t ∧ t.uri = u ∧ t.stage ≠ .ended := by
  rw [Debounce.isPending_iff]
  constructor
  · rintro ⟨e, hu⟩
    obtain ⟨t, ht, -, huri, hl⟩ := h.entry u e hu
    exact ⟨t, ht, huri, hl.1⟩
  · rintro ⟨t, ht, rfl, hs⟩
    exact ⟨t.entry, h.live t ht.1 ⟨hs, fun ha => h.aborted t ht.1 ha ht⟩⟩

theorem exists_becomes (h : d.Kept) (ht : t ∈ d.tasks) (a : Action) :
    ∃ t' ∈ (d.act a).tasks, d.Becomes a t t' := by
  have hnumber : t.number ∈ (d.act a).tasks.map DelayedTask.number := by
    rw [map_tasks_act fun _ _ => rfl]
    exact List.mem_append_left _ (List.mem_map_of_mem ht)
  obtain ⟨t', ht', hnumber⟩ := List.mem_map.1 hnumber
  rcases mem_tasks_act ht' with ⟨u, due, -, rfl⟩ | ⟨t₀, ht₀, hb⟩
  · exact absurd (h.numbered.lt ht) (Nat.not_lt.2 (Nat.le_of_eq hnumber))
  · rw [← h.numbered.eq_of_number_eq ht₀ ht (hb.number_eq.symm.trans hnumber)]
    exact ⟨t', ht', hb⟩

theorem get?_current_act_eq_some_iff (h : d.Kept) : (d.act a).current.get? u = some e ↔
    (∃ due, a = .schedule u due ∧ e = (d.started u due).entry) ∨
      d.current.get? u = some e ∧ (∀ due, a ≠ .schedule u due) ∧
        ∀ t ∈ d.tasks, t.entry = e → t.uri = u → a = .finish t.number → t.stage ≠ .finishing := by
  cases a with
  | schedule v due =>
    rw [act, get?_current_schedule]
    by_cases hu : u = v
    · subst hu
      simp [eq_comm]
    · simp [hu, Ne.symm hu]
  | expire number => simp [act, expire]
  | complete number => simp [act, complete]
  | finish number =>
    rcases act_finish_cases d number with ⟨t₀, ht₀, rfl, hs₀, he⟩ | ⟨hno, he⟩
    · -- a task that finishes is live, so the entry of its document is its own
      have hown := h.live t₀ ht₀ ⟨by simp [hs₀], by simp [hs₀]⟩
      rw [he, close, current_move, get?_current_finish]
      constructor
      · intro hc
        split at hc
        · cases hc
        · next hk =>
          refine .inr ⟨hc, by simp, fun t ht hentry huri hf => ?_⟩
          obtain rfl : t = t₀ := h.numbered.eq_of_number_eq ht ht₀ (Action.finish.inj hf).symm
          exact absurd ⟨huri.symm, e, hc, congrArg Prod.fst hentry.symm⟩ hk
      · rintro (⟨due, ha, -⟩ | ⟨hc, -, hf⟩)
        · cases ha
        · rw [if_neg, hc]
          rintro ⟨rfl, -⟩
          exact hf t₀ ht₀ (Option.some.inj (hown.symm.trans hc)) rfl rfl hs₀
    · rw [he]
      simp only [reduceCtorEq, false_and, exists_false, false_or, ne_eq, not_false_eq_true,
        implies_true, true_and, iff_self_and]
      rintro - t ht rfl - hf
      exact hno t ht (Action.finish.inj hf).symm

theorem entry_of_isLive (h : d.Kept) (ht : t ∈ d.tasks) (hb : d.Becomes a t t') (hl : t'.IsLive) :
    (d.act a).current.get? t.uri = some t.entry := by
  have hc := h.live t ht (hb.isLive hl)
  refine h.get?_current_act_eq_some_iff.2 (.inr ⟨hc, ?_, ?_⟩)
  · rintro due rfl
    cases hb with
    | aborts => exact hl.2 rfl
    | outlives ha hs =>
      cases ha
      exact hl.1 (hs (h.awaited?_of_isLive ht hl))
    | stays hn => exact nomatch hn
    | _ ha => exact nomatch ha
  · rintro t₂ ht₂ hentry - rfl hs
    obtain rfl : t₂ = t := h.numbered.eq_of_number_eq ht₂ ht (congrArg Prod.snd hentry)
    cases hb with
    | ends => exact hl.1 rfl
    | aborts => exact hl.2 rfl
    | outlives ha => exact nomatch ha
    | begins ha => exact nomatch ha
    | completes ha => exact nomatch ha
    | stays _ _ _ hf => exact hf rfl hs

theorem numbered_act (h : d.Kept) (a : Action) : (d.act a).Numbered := by
  rw [Numbered, map_tasks_act fun _ _ => rfl, h.numbered, length_tasks_act]
  cases a.scheduled? with
  | none => simp
  | some w => simp [List.range_succ, started]

theorem act (h : d.Kept) (a : Action) : (d.act a).Kept where
  numbered := h.numbered_act a
  ids t' ht' := by
    rcases mem_tasks_act ht' with ⟨u, due, -, rfl⟩ | ⟨t, ht, hb⟩
    · exact h.nextId
    · rw [hb.id_eq, hb.number_eq, h.ids t ht]
  nextId := by rw [nextId_act, h.nextId, length_tasks_act, UInt64.ofNat_add]
  entry u e hu := by
    rcases h.get?_current_act_eq_some_iff.1 hu with ⟨due, rfl, rfl⟩ | ⟨hu, hno, hf⟩
    · refine ⟨d.started u due, ⟨mem_tasks_schedule_self, ?_⟩, rfl, rfl, ?_⟩
      · rintro t' ht' -
        rcases mem_tasks_act ht' with ⟨-, -, -, rfl⟩ | ⟨t, ht, hb⟩
        · exact Nat.le_refl _
        · exact hb.number_eq ▸ Nat.le_of_lt (h.numbered.lt ht)
      · exact ⟨nofun, nofun⟩
    · -- the entry is an old one, so nothing newer was started for its document
      obtain ⟨t, ⟨ht, hnewest⟩, rfl, rfl, hl⟩ := h.entry u e hu
      obtain ⟨t', ht', hb⟩ := h.exists_becomes ht a
      refine ⟨t', ⟨ht', fun t₂' ht₂' huri => ?_⟩, hb.entry_eq, hb.uri_eq, ?_⟩
      · rcases mem_tasks_act ht₂' with ⟨v, due, rfl, rfl⟩ | ⟨t₂, ht₂, hb₂⟩
        · exact absurd (congrArg (Action.schedule · due) (huri.trans hb.uri_eq)) (hno due)
        · rw [hb.number_eq, hb₂.number_eq]
          exact hnewest t₂ ht₂ (hb₂.uri_eq.symm.trans (huri.trans hb.uri_eq))
      · cases hb with
        | aborts ha hc hs =>
          -- the task that is aborted belongs to the document that is announced
          obtain ⟨t₂, ht₂, hnumber, rfl⟩ := h.exists_newest_of_awaited? hc
          rw [h.numbered.eq_of_number_eq ht₂.1 ht hnumber] at ha
          exact absurd ha (hno _)
        | begins => exact ⟨nofun, nofun⟩
        | completes => exact ⟨nofun, nofun⟩
        | ends ha hs => exact absurd hs (hf t ht rfl rfl ha)
        | outlives | stays => exact hl
  live t' ht' hl := by
    rcases mem_tasks_act ht' with ⟨u, due, rfl, rfl⟩ | ⟨t, ht, hb⟩
    · exact h.get?_current_act_eq_some_iff.2 (.inl ⟨due, rfl, rfl⟩)
    · rw [hb.uri_eq, hb.entry_eq]
      exact h.entry_of_isLive ht hb hl
  aborted t' ht' hs hnewest := by
    rcases mem_tasks_act ht' with ⟨u, due, -, rfl⟩ | ⟨t, ht, hb⟩
    · exact nomatch hs
    · have hstill (ha : t.stage = .aborted) : False := by
        refine h.aborted t ht ha ⟨ht, fun t₂ ht₂ huri => ?_⟩
        obtain ⟨t₂', ht₂', hb₂⟩ := h.exists_becomes ht₂ a
        rw [← hb.number_eq, ← hb₂.number_eq]
        exact hnewest.2 t₂' ht₂' (by rw [hb₂.uri_eq, hb.uri_eq, huri])
      cases hb with
      | @aborts v due ha hc _ =>
        subst ha
        obtain ⟨t₂, ht₂, hnumber, rfl⟩ := h.exists_newest_of_awaited? hc
        rw [h.numbered.eq_of_number_eq ht₂.1 ht hnumber] at hnewest
        have hle := hnewest.2 _ mem_tasks_schedule_self rfl
        exact absurd (h.numbered.lt ht) (Nat.not_lt.2 hle)
      | outlives | stays => exact hstill hs
      | _ => exact nomatch hs

theorem run (h : d.Kept) (actions : List Action) : (d.run actions).Kept := by
  induction actions generalizing d with
  | nil => exact h
  | cons a actions ih => exact ih (h.act a)

/-- A task that waits may go through all its stages at once. -/
theorem fire (h : d.Kept) (ht : t ∈ d.tasks) (hw : t.stage = .waiting) : (d.fire t).Kept := by
  have h₁ : (d.expire t.number).Kept := h.act (.expire t.number)
  have h₂ : ((d.expire t.number).complete t.number).Kept := h₁.act (.complete t.number)
  obtain ⟨t₁, ht₁, hb₁⟩ := h.exists_becomes ht (.expire t.number)
  have hs₁ : t₁.stage = .running := by
    cases hb₁ with
    | begins => rfl
    | stays _ hb => exact absurd hw (hb rfl)
    | _ ha => exact nomatch ha
  obtain ⟨t₂, ht₂, hb₂⟩ := h₁.exists_becomes ht₁ (.complete t.number)
  have hs₂ : t₂.stage = .finishing := by
    cases hb₂ with
    | completes => rfl
    | stays _ _ hc => exact absurd hs₁ (hc (congrArg _ hb₁.number_eq.symm))
    | _ ha => exact nomatch ha
  have hnumber : t₂.number = t.number := hb₂.number_eq.trans hb₁.number_eq
  rcases act_finish_cases ((d.expire t.number).complete t.number) t.number with
    ⟨t₃, ht₃, hnumber₃, -, he⟩ | ⟨hno, -⟩
  · rw [h₂.numbered.eq_of_number_eq ht₃ ht₂ (hnumber₃.trans hnumber.symm), hb₂.uri_eq, hb₁.uri_eq,
      hb₂.id_eq, hb₁.id_eq] at he
    rw [Debounce.fire, ← he]
    exact h₂.act (.finish t.number)
  · exact absurd hs₂ (hno t₂ ht₂ hnumber)

/-- As long as the ids last, older tasks have lesser ones. -/
theorem id_lt (h : d.Kept) (hsize : d.tasks.length ≤ UInt64.size) (ht : t ∈ d.tasks) (ht' : t' ∈ d.tasks)
    (hlt : t.number < t'.number) : t.id < t'.id := by
  have hid : ∀ t ∈ d.tasks, t.id.toNat = t.number := fun t ht => by
    rw [h.ids t ht]
    exact UInt64.toNat_ofNat_of_lt' (Nat.lt_of_lt_of_le (h.numbered.lt ht) hsize)
  rw [UInt64.lt_iff_toNat_lt, hid t ht, hid t' ht']
  exact hlt

theorem map_id (h : d.Kept) :
    d.tasks.map DelayedTask.id = (List.range d.tasks.length).map UInt64.ofNat := by
  rw [← h.numbered, List.map_map]
  exact List.map_congr_left h.ids

end Kept

theorem map_tasks_run (actions : List Action) :
    (empty.run actions).tasks.map (fun t => (t.uri, t.due)) = actions.filterMap Action.scheduled? := by
  induction actions using List.reverseRecOn with
  | nil => rfl
  | append_singleton actions a ih =>
    rw [run_concat, map_tasks_act fun _ _ => rfl, ih, List.filterMap_append]
    cases a <;> rfl

/-! ### Bodies that begin -/

/-- In the action the body of the task begins. -/
def Begins (d : Debounce) (a : Action) (number : Nat) : Prop :=
  a = .expire number ∧ ∃ t ∈ d.tasks, t.number = number ∧ t.stage = .waiting

/-- A task that waits has waited since it was started. -/
theorem exists_waiting_of_run (ht : t ∈ (d.run actions).tasks) (hs : t.stage = .waiting)
    (hlt : t.number < d.tasks.length) : ∃ t₀ ∈ d.tasks, t₀.number = t.number ∧ t₀.stage = .waiting := by
  induction actions generalizing d with
  | nil => exact ⟨t, ht, rfl, hs⟩
  | cons a actions ih =>
    obtain ⟨t₁, ht₁, hnumber, hs₁⟩ := ih ht (by rw [length_tasks_act]; omega)
    rcases mem_tasks_act ht₁ with ⟨u, due, -, rfl⟩ | ⟨t₀, ht₀, hb⟩
    · exact absurd hlt (Nat.not_lt.2 (Nat.le_of_eq hnumber))
    · exact ⟨t₀, ht₀, hb.number_eq.symm.trans hnumber, hb.waiting hs₁⟩

theorem Kept.not_begins (h : d.Kept) (ht : t ∈ d.tasks)
    (hno : ∀ t' ∈ (d.act a).tasks, t'.number = t.number → t'.stage ≠ .waiting) :
    ¬ ((d.act a).run actions).Begins a' t.number := by
  rintro ⟨-, t', ht', hnumber, hs⟩
  have hlt := h.numbered.lt ht
  obtain ⟨t₁, ht₁, hnumber₁, hs₁⟩ := exists_waiting_of_run ht' hs (by rw [length_tasks_act]; omega)
  exact hno t₁ ht₁ (hnumber₁.trans hnumber) hs₁

theorem Begins.not_waiting (h : d.Begins a number) (ht : t ∈ (d.act a).tasks) (hnumber : t.number = number) :
    t.stage ≠ .waiting := by
  obtain ⟨rfl, -⟩ := h
  intro hs
  rcases mem_tasks_act ht with ⟨u, due, ha, -⟩ | ⟨t₀, -, hb⟩
  · exact nomatch ha
  · cases hb with
    | stays _ hne => exact hne (hnumber ▸ rfl) hs
    | outlives ha => exact nomatch ha
    | _ => exact nomatch hs

/-- Work on its document that is announced keeps a task from waiting on. -/
theorem Kept.not_waiting (h : d.Kept) (ht : t ∈ d.tasks) (hw : t.stage = .waiting)
    (ht' : t' ∈ (d.act (.schedule t.uri due)).tasks) (hnumber : t'.number = t.number) :
    t'.stage ≠ .waiting := by
  intro hs
  rcases mem_tasks_act ht' with ⟨u, due', -, rfl⟩ | ⟨t₀, ht₀, hb⟩
  · exact absurd (h.numbered.lt ht) (Nat.not_lt.2 (Nat.le_of_eq hnumber))
  · obtain rfl : t₀ = t := h.numbered.eq_of_number_eq ht₀ ht (hb.number_eq.symm.trans hnumber)
    have hc := h.awaited?_of_isLive ht₀ ⟨by simp [hw], by simp [hw]⟩
    cases hb with
    | outlives ha hsame =>
      cases ha
      exact nomatch hw.symm.trans (hsame hc)
    | stays hn => exact nomatch hn
    | _ => exact nomatch hs

/-- Of two actions in a row of actions one comes first, unless they are the same. -/
theorem prefix_trichotomy (h : before ++ [a] <+: actions) (h' : before' ++ [a'] <+: actions) :
    before ++ [a] <+: before' ∨ before' ++ [a'] <+: before ∨ before = before' ∧ a = a' := by
  rcases List.prefix_or_prefix_of_prefix h h' with hp | hp
  · rcases List.prefix_concat_iff.1 hp with heq | hp
    · obtain ⟨hb, ha⟩ := List.append_inj' heq rfl
      exact .inr (.inr ⟨hb, List.singleton_inj.1 ha⟩)
    · exact .inl hp
  · rcases List.prefix_concat_iff.1 hp with heq | hp
    · obtain ⟨hb, ha⟩ := List.append_inj' heq rfl
      exact .inr (.inr ⟨hb.symm, (List.singleton_inj.1 ha).symm⟩)
    · exact .inr (.inl hp)

theorem Begins.not_later (hk : (d.run before).Kept) (h : (d.run before).Begins a number)
    (hp : before ++ [a] <+: before') : ¬ (d.run before').Begins a' number := by
  obtain ⟨rest, rfl⟩ := hp
  obtain ⟨t, ht, rfl, -⟩ := h.2
  rw [run_append, run_concat]
  exact hk.not_begins ht fun t' ht' hnumber => h.not_waiting ht' hnumber

/-- The body of a task that still waits when more work on its document is announced never begins. -/
theorem not_begins_of_superseded (h : before ++ [.schedule u due] <+: actions)
    (ht : t ∈ (empty.run before).tasks) (hu : t.uri = u) (hs : t.stage = .waiting)
    (h' : before' ++ [a] <+: actions) : ¬ (empty.run before').Begins a t.number := by
  have hk : (empty.run before).Kept := kept_empty.run before
  intro hb
  rcases prefix_trichotomy h h' with hp | ⟨rest, rfl⟩ | ⟨-, rfl⟩
  · obtain ⟨rest, rfl⟩ := hp
    subst hu
    rw [run_append, run_concat] at hb
    exact hk.not_begins ht (fun t' ht' hnumber => hk.not_waiting ht hs ht' hnumber) hb
  · -- had it begun before, it would not wait now
    obtain ⟨t₀, ht₀, hnumber, -⟩ := hb.2
    have hlt := (kept_empty.run before').numbered.lt ht₀
    rw [run_append, run_concat] at ht
    obtain ⟨t₁, ht₁, hnumber₁, hs₁⟩ := exists_waiting_of_run ht hs (by rw [length_tasks_act]; omega)
    exact hb.not_waiting ht₁ hnumber₁ hs₁
  · exact nomatch hb.1

/-! ### The newest task alone runs -/

/-- However announcements and the steps of tasks are interleaved: tasks are numbered in the order in
which they were announced, and their ids are these numbers as words; of the tasks for a document one at most
is live, and the document's entry, if it has one, is that of the newest; no other task can still run its body;
a task that takes an entry back leaves those of tasks with other ids alone; a body does not begin once more
work was announced while its task still waited, and no body begins twice; and a document waits exactly until
its newest task has ended. As long as the ids last they are distinct and increase, so that an older task leaves
the entry of a newer one alone. -/
theorem only_newest_task_runs (actions : List Action) :
    let d := empty.run actions
    d.tasks.map DelayedTask.number = List.range d.tasks.length ∧
    d.tasks.map DelayedTask.id = (List.range d.tasks.length).map UInt64.ofNat ∧
    d.tasks.map (fun t => (t.uri, t.due)) = actions.filterMap Action.scheduled? ∧
    (∀ t ∈ d.tasks, ∀ t' ∈ d.tasks, t.IsLive → t'.IsLive → t.uri = t'.uri → t = t') ∧
    (∀ u e, d.current.get? u = some e → ∃ t, d.IsNewest t ∧ t.entry = e ∧ t.uri = u) ∧
    (∀ t ∈ d.tasks, t.MayRun → d.current.get? t.uri = some t.entry) ∧
    (∀ id u v e, d.current.get? v = some e → e.1 ≠ id → (d.finish id u).current.get? v = some e) ∧
    (∀ before u due, before ++ [.schedule u due] <+: actions → ∀ t ∈ (empty.run before).tasks,
      t.uri = u → t.stage = .waiting →
        ∀ before' a, before' ++ [a] <+: actions → ¬ (empty.run before').Begins a t.number) ∧
    (∀ before a before' a' number, before ++ [a] <+: actions → before' ++ [a'] <+: actions →
      (empty.run before).Begins a number → (empty.run before').Begins a' number → before = before') ∧
    (∀ u, d.isPending u = true ↔ ∃ t, d.IsNewest t ∧ t.uri = u ∧ t.stage ≠ .ended) ∧
    ((actions.filterMap Action.scheduled?).length ≤ UInt64.size →
      (d.tasks.map DelayedTask.id).Pairwise (· < ·) ∧
      ∀ t ∈ d.tasks, ∀ t' ∈ d.tasks, t.number < t'.number → d.current.get? t'.uri = some t'.entry →
        (d.finish t.id t'.uri).current.get? t'.uri = some t'.entry) := by
  intro d
  have hk : d.Kept := kept_empty.run actions
  have hleaves : ∀ id u v e, d.current.get? v = some e → e.1 ≠ id →
      (d.finish id u).current.get? v = some e := by
    intro id u v e hv hne
    rw [get?_current_finish, if_neg, hv]
    rintro ⟨-, e', hv', hid⟩
    cases hv.symm.trans hv'
    exact hne hid
  refine ⟨hk.numbered, hk.map_id, map_tasks_run actions, ?_, ?_, ?_, hleaves, ?_, ?_,
    fun u => hk.isPending_iff, fun hsize => ?_⟩
  · intro t ht t' ht' hl hl' hu
    exact hk.eq_of_isLive ht ht' hl hl' hu
  · intro u e hu
    obtain ⟨t, hnewest, hentry, huri, -⟩ := hk.entry u e hu
    exact ⟨t, hnewest, hentry, huri⟩
  · intro t ht hmay
    exact hk.live t ht hmay.isLive
  · intro before u due hp t ht hu hs before' a hp'
    exact not_begins_of_superseded hp ht hu hs hp'
  · intro before a before' a' number hp hp' hb hb'
    rcases prefix_trichotomy hp hp' with h | h | ⟨h, -⟩
    · exact absurd hb' (hb.not_later (kept_empty.run before) h)
    · exact absurd hb (hb'.not_later (kept_empty.run before') h)
    · exact h
  · have hlength : d.tasks.length ≤ UInt64.size := by
      rw [← map_tasks_run actions, List.length_map] at hsize
      exact hsize
    have hnumbers : (d.tasks.map DelayedTask.number).Pairwise (· < ·) := by
      rw [hk.numbered]
      exact List.pairwise_lt_range
    refine ⟨?_, fun t ht t' ht' hlt hown => hleaves _ _ _ _ hown ?_⟩
    · refine List.pairwise_map.2 ((List.pairwise_map.1 hnumbers).imp_of_mem fun ht ht' hlt => ?_)
      exact hk.id_lt hlength ht ht' hlt
    · exact (UInt64.ne_of_lt (hk.id_lt hlength ht ht' hlt)).symm

end Debounce
end RecipeDiag
