import Mathlib.Data.List.Nodup
import RecipeDiag.Server.Debounce

/-!
# Delayed tasks in time

Tasks are numbered in the order in which they are started (`Numbered`). `fire` is all that a task does to
the others: it goes through its stages and takes its own entry back. While tasks are started and fired,
every entry belongs to a waiting task that is due by the same horizon (`Timely`). Hence once all tasks that
are due by the horizon have fired, no document waits any more (`isPending_foldl_fire`).
-/

namespace RecipeDiag.Debounce
variable {d : Debounce} {t t' : DelayedTask} {u v : Uri} {e : UInt64 × Nat} {id : UInt64}
  {number horizon due : Nat} {source : DelayedTask.Stage → Bool} {target : DelayedTask.Stage}

theorem isPending_eq_false_iff : d.isPending u = false ↔ d.current.get? u = none := by
  simp [isPending]

theorem isPending_iff : d.isPending u = true ↔ ∃ e, d.current.get? u = some e := by
  rw [isPending, Option.isSome_iff_exists]

/-! ### Moving a task -/

@[simp] theorem current_move : (d.move number source target).current = d.current := rfl

@[simp] theorem nextId_move : (d.move number source target).nextId = d.nextId := rfl

/-- Only stages change. -/
theorem map_move {β : Type} {f : DelayedTask → β} (hf : ∀ t stage, f { t with stage := stage } = f t) :
    (d.move number source target).tasks.map f = d.tasks.map f := by
  rw [move, List.map_map]
  refine List.map_congr_left fun t _ => ?_
  simp only [Function.comp_apply]
  split
  · exact hf t target
  · rfl

@[simp] theorem length_move : (d.move number source target).tasks.length = d.tasks.length :=
  List.length_map ..

/-- A task stays what it is but for its stage. -/
theorem exists_mem_tasks_move (ht : t ∈ d.tasks) (number : Nat) (source : DelayedTask.Stage → Bool)
    (target : DelayedTask.Stage) :
    ∃ t' ∈ (d.move number source target).tasks, t'.entry = t.entry ∧ t'.uri = t.uri := by
  refine ⟨_, List.mem_map_of_mem ht, ?_⟩
  split <;> exact ⟨rfl, rfl⟩

theorem mem_tasks_move (ht : t ∈ d.tasks) (hne : t.number ≠ number) :
    t ∈ (d.move number source target).tasks := by
  refine List.mem_map.2 ⟨t, ht, ?_⟩
  simp [hne]

/-! ### Starting a task -/

/-- The task that is started. -/
def started (d : Debounce) (u : Uri) (due : Nat) : DelayedTask := ⟨d.tasks.length, d.nextId, u, due, .waiting⟩

/-- The tasks before the one that is started. -/
def predecessors (d : Debounce) (u : Uri) : List DelayedTask :=
  match d.current.get? u with
  | some (_, number) => (d.abort number).tasks
  | none => d.tasks

theorem map_predecessors {β : Type} {f : DelayedTask → β} (hf : ∀ t stage, f { t with stage := stage } = f t) :
    (d.predecessors u).map f = d.tasks.map f := by
  unfold predecessors
  split
  · exact map_move hf
  · rfl

theorem schedule_eq (d : Debounce) (u : Uri) (due : Nat) : d.schedule u due =
    { nextId := d.nextId + 1
      tasks := d.predecessors u ++ [d.started u due]
      current := d.current.insert u (d.started u due).entry } := by
  unfold schedule predecessors
  rcases d.current.get? u with _ | ⟨id, number⟩ <;> simp [started, abort]

theorem nextId_schedule : (d.schedule u due).nextId = d.nextId + 1 := by rw [schedule_eq]

theorem get?_current_schedule : (d.schedule u due).current.get? v =
    if v = u then some (d.started u due).entry else d.current.get? v := by
  rw [schedule_eq]
  exact Table.get?_insert ..

theorem isPending_schedule : (d.schedule u due).isPending v = (decide (v = u) || d.isPending v) := by
  rw [isPending, get?_current_schedule]
  by_cases h : v = u <;> simp [h, isPending]

theorem map_tasks_schedule {β : Type} {f : DelayedTask → β}
    (hf : ∀ t stage, f { t with stage := stage } = f t) :
    (d.schedule u due).tasks.map f = d.tasks.map f ++ [f (d.started u due)] := by
  rw [schedule_eq, List.map_append, map_predecessors hf, List.map_singleton]

theorem mem_tasks_schedule_self : d.started u due ∈ (d.schedule u due).tasks := by
  rw [schedule_eq]
  exact List.mem_append_right _ (List.mem_singleton_self _)

/-- Only the task that had the entry of the document is aborted. -/
theorem mem_tasks_schedule (ht : t ∈ d.tasks) (hne : ∀ id, d.current.get? u ≠ some (id, t.number)) :
    t ∈ (d.schedule u due).tasks := by
  rw [schedule_eq]
  refine List.mem_append_left _ ?_
  unfold predecessors
  split
  · next id number h => exact mem_tasks_move ht fun hnumber => hne id (hnumber ▸ h)
  · exact ht

/-! ### A task fires -/

theorem get?_current_finish : (d.finish id u).current.get? v =
    if v = u ∧ (∃ e, d.current.get? v = some e ∧ e.1 = id) then none else d.current.get? v := by
  unfold finish
  by_cases hv : v = u
  · subst hv
    simp only [Option.any_eq_true, decide_eq_true_eq, true_and]
    split
    · exact (Table.get?_erase ..).trans (if_pos rfl)
    · rfl
  · have hno : ¬ (v = u ∧ ∃ e, d.current.get? v = some e ∧ e.1 = id) := fun h => hv h.1
    rw [if_neg hno]
    split
    · exact (Table.get?_erase ..).trans (if_neg hv)
    · rfl

theorem tasks_finish : (d.finish id u).tasks = d.tasks := by
  unfold finish
  split <;> rfl

theorem nextId_finish : (d.finish id u).nextId = d.nextId := by
  unfold finish
  split <;> rfl

/-- What a task that runs its body does to the others. -/
def fire (d : Debounce) (t : DelayedTask) : Debounce :=
  (((d.expire t.number).complete t.number).finish t.id t.uri).close t.number

theorem get?_current_fire : (d.fire t).current.get? u =
    if u = t.uri ∧ (∃ e, d.current.get? u = some e ∧ e.1 = t.id) then none else d.current.get? u :=
  get?_current_finish

theorem tasks_fire : (d.fire t).tasks =
    (((d.expire t.number).complete t.number).move t.number (· == .finishing) .ended).tasks := by
  rw [fire, close, move, tasks_finish, move]

theorem map_tasks_fire {β : Type} {f : DelayedTask → β} (hf : ∀ t stage, f { t with stage := stage } = f t) :
    (d.fire t).tasks.map f = d.tasks.map f := by
  rw [tasks_fire, map_move hf, complete, map_move hf, expire, map_move hf]

theorem mem_tasks_fire (ht : t' ∈ d.tasks) (hne : t'.number ≠ t.number) : t' ∈ (d.fire t).tasks := by
  rw [tasks_fire]
  exact mem_tasks_move (mem_tasks_move (mem_tasks_move ht hne) hne) hne

theorem exists_mem_tasks_fire (ht : t' ∈ d.tasks) :
    ∃ t'' ∈ (d.fire t).tasks, t''.entry = t'.entry ∧ t''.uri = t'.uri := by
  rw [tasks_fire]
  obtain ⟨t₁, h₁, he₁, huri₁⟩ := exists_mem_tasks_move ht t.number (· == .waiting) .running
  obtain ⟨t₂, h₂, he₂, huri₂⟩ := exists_mem_tasks_move h₁ t.number (· == .running) .finishing
  obtain ⟨t₃, h₃, he₃, huri₃⟩ := exists_mem_tasks_move h₂ t.number (· == .finishing) .ended
  exact ⟨t₃, h₃, by rw [he₃, he₂, he₁], by rw [huri₃, huri₂, huri₁]⟩

theorem isPending_of_fire (h : (d.fire t).isPending u = true) : d.isPending u = true := by
  rw [isPending_iff, get?_current_fire] at h
  obtain ⟨e, h⟩ := h
  split at h
  · cases h
  · exact isPending_iff.2 ⟨e, h⟩

theorem isPending_fire_of_ne (hne : u ≠ t.uri) : (d.fire t).isPending u = d.isPending u := by
  rw [isPending, get?_current_fire, if_neg fun h => hne h.1, isPending]

/-! ### Numbers -/

/-- Tasks are numbered in the order in which they were started. -/
def Numbered (d : Debounce) : Prop := d.tasks.map DelayedTask.number = List.range d.tasks.length

namespace Numbered

theorem empty : empty.Numbered := rfl

theorem lt (h : d.Numbered) (ht : t ∈ d.tasks) : t.number < d.tasks.length := by
  have hnumber := List.mem_map_of_mem (f := DelayedTask.number) ht
  rw [h] at hnumber
  exact List.mem_range.1 hnumber

theorem nodup (h : d.Numbered) : (d.tasks.map DelayedTask.number).Nodup := by
  rw [h]
  exact List.nodup_range

/-- A task is known by its number. -/
theorem eq_of_number_eq (h : d.Numbered) (ht : t ∈ d.tasks) (ht' : t' ∈ d.tasks)
    (hnumber : t.number = t'.number) : t = t' :=
  List.inj_on_of_nodup_map h.nodup ht ht' hnumber

theorem schedule (h : d.Numbered) (u : Uri) (due : Nat) : (d.schedule u due).Numbered := by
  have hlength : (d.schedule u due).tasks.length = d.tasks.length + 1 := by
    have hmap : (d.schedule u due).tasks.map DelayedTask.number = _ := map_tasks_schedule fun _ _ => rfl
    simpa using congrArg List.length hmap
  rw [Numbered, map_tasks_schedule fun _ _ => rfl, h, hlength, List.range_succ]
  rfl

theorem of_map_eq {d' : Debounce} (h : d.Numbered)
    (hmap : d'.tasks.map DelayedTask.number = d.tasks.map DelayedTask.number) : d'.Numbered := by
  have hlength := congrArg List.length hmap
  rw [List.length_map, List.length_map] at hlength
  rw [Numbered, hmap, h, hlength]

end Numbered

/-! ### Tasks in time -/

/-- Every entry belongs to a waiting task due by the horizon. -/
structure Timely (d : Debounce) (horizon : Nat) : Prop where
  numbered : d.Numbered
  waiting : ∀ u e, d.current.get? u = some e →
    ∃ t ∈ d.tasks, t.entry = e ∧ t.uri = u ∧ t.stage = .waiting ∧ t.due ≤ horizon

theorem timely_empty (horizon : Nat) : empty.Timely horizon := ⟨.empty, fun _ _ h => nomatch h⟩

namespace Timely

theorem mono (h : d.Timely horizon) {horizon' : Nat} (hle : horizon ≤ horizon') :
    d.Timely horizon' :=
  { h with
    waiting := fun u e hu =>
      let ⟨t, ht, hentry, huri, hstage, hdue⟩ := h.waiting u e hu
      ⟨t, ht, hentry, huri, hstage, Nat.le_trans hdue hle⟩ }

theorem schedule (h : d.Timely horizon) (u : Uri) (hdue : due ≤ horizon) :
    (d.schedule u due).Timely horizon where
  numbered := h.numbered.schedule u due
  waiting v e hv := by
    rw [get?_current_schedule] at hv
    split at hv
    · next hvu =>
      cases hv
      exact ⟨_, mem_tasks_schedule_self, rfl, hvu.symm, rfl, hdue⟩
    · next hvu =>
      obtain ⟨t, ht, rfl, rfl, hstage, htdue⟩ := h.waiting v e hv
      -- the task that is aborted belongs to `u`, so it is not the one of this entry
      refine ⟨t, mem_tasks_schedule ht fun id hu => hvu ?_, rfl, rfl, hstage, htdue⟩
      obtain ⟨t', ht', hentry, rfl, -, -⟩ := h.waiting u _ hu
      rw [h.numbered.eq_of_number_eq ht ht' (congrArg Prod.snd hentry).symm]

theorem fire (h : d.Timely horizon) (ht : ∃ t₀ ∈ d.tasks, t₀.entry = t.entry ∧ t₀.uri = t.uri) :
    (d.fire t).Timely horizon where
  numbered := h.numbered.of_map_eq (map_tasks_fire fun _ _ => rfl)
  waiting u e hu := by
    rw [get?_current_fire] at hu
    split at hu
    · cases hu
    · next hk =>
      obtain ⟨t', ht', rfl, rfl, hstage, hdue⟩ := h.waiting u e hu
      -- had its own task fired, the entry would be gone
      refine ⟨t', mem_tasks_fire ht' fun hnumber => hk ?_, rfl, rfl, hstage, hdue⟩
      obtain ⟨t₀, ht₀, hentry₀, huri₀⟩ := ht
      obtain rfl : t' = t₀ :=
        h.numbered.eq_of_number_eq ht' ht₀ (hnumber.trans (congrArg Prod.snd hentry₀).symm)
      exact ⟨huri₀, _, hu, congrArg Prod.fst hentry₀⟩

theorem foldl_fire (h : d.Timely horizon) {ts : List DelayedTask}
    (hts : ∀ t ∈ ts, ∃ t₀ ∈ d.tasks, t₀.entry = t.entry ∧ t₀.uri = t.uri) :
    (ts.foldl Debounce.fire d).Timely horizon := by
  induction ts generalizing d with
  | nil => exact h
  | cons t ts ih =>
    have ht := List.forall_mem_cons.1 hts
    refine ih (h.fire ht.1) fun t' ht' => ?_
    obtain ⟨t₀, ht₀, hentry, huri⟩ := ht.2 t' ht'
    obtain ⟨t₁, ht₁, hentry₁, huri₁⟩ := exists_mem_tasks_fire (t := t) ht₀
    exact ⟨t₁, ht₁, hentry₁.trans hentry, huri₁.trans huri⟩

theorem mem_dueBy (h : d.Timely horizon) {time : Nat} (hle : horizon ≤ time)
    (hu : d.current.get? u = some e) : ∃ t ∈ d.dueBy time, t.entry = e ∧ t.uri = u := by
  obtain ⟨t, ht, hentry, huri, hstage, hdue⟩ := h.waiting u e hu
  refine ⟨t, List.mem_filter.2 ⟨ht, ?_⟩, hentry, huri⟩
  simp [hstage, Nat.le_trans hdue hle]

end Timely

/-- Once the tasks of all entries have fired, no document waits. -/
theorem isPending_foldl_fire {ts : List DelayedTask}
    (hts : ∀ u e, d.current.get? u = some e → ∃ t ∈ ts, t.entry = e ∧ t.uri = u) :
    (ts.foldl fire d).isPending u = false := by
  -- an entry that the first task leaves belongs to a later one
  induction ts generalizing d with
  | nil =>
    refine isPending_eq_false_iff.2 (Option.eq_none_iff_forall_ne_some.2 fun e hu => ?_)
    obtain ⟨t, ht, -⟩ := hts u e hu
    exact nomatch ht
  | cons t ts ih =>
    refine ih fun v e hv => ?_
    rw [get?_current_fire] at hv
    split at hv
    · cases hv
    · next hk =>
      obtain ⟨t', ht', rfl, rfl⟩ := hts v e hv
      rcases List.mem_cons.1 ht' with rfl | ht'
      · exact absurd ⟨rfl, _, hv, rfl⟩ hk
      · exact ⟨t', ht', rfl, rfl⟩

end RecipeDiag.Debounce
