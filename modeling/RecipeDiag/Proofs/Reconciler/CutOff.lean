import RecipeDiag.Proofs.Reconciler.Disabling

/-!
# Activities that are broken off

On a line with room whoever changes the channels hands its publication over in the same stage, so in every
state that a run passes through, each recipe is settled (`Prompt`). Wherever an activity is broken off then,
what is shown is what the channels hold (`shown_wherever_broken_off`).

On a line that makes an activity wait, the activity has changed the channels already, and if it is broken off
its publication is cut off (`CutsOff`). Until somebody takes hold of the recipe again the channels hold that
set, and what is shown is still what was shown before (`Guarded.cutOff_is_held`). In no other way do the
channels and what is shown come apart (`shown_unless_cut_off`).
-/

namespace RecipeDiag

theorem Reconciler.held?_proceed {s : Surroundings} {chance : Chance} {r : Reconciler} {a : Activity}
    {recipe : Uri} (h : a.awaited? chance = some recipe) : (r.proceed s chance a).2.held? = some recipe := by
  unfold Activity.awaited? at h
  split at h
  · cases h
    simp only [proceed, proceedUpdate]
    split <;> rfl
  · simp only [proceed, proceedClear, h]
    split <;> rfl
  · cases h

namespace Concurrent

section
variable {c : Concurrent} {m : Move} {moves : List Move} {i : Nat} {l : Language} {recipe : Uri}
  {p : Publication}

/-! ### On a line with room -/

/-- Nobody waits to publish, and every recipe is settled, also those that are held. -/
structure Prompt (c : Concurrent) : Prop where
  undue : ∀ a ∈ c.activities, a.due? = none
  settled : ∀ recipe, c.reconciler.Settled recipe

namespace Prompt

theorem quiet {r : Reconciler} (h : ∀ recipe, r.Settled recipe) : (quiet r).Prompt :=
  ⟨List.forall_mem_nil _, h⟩

theorem undue_set (h : c.Prompt) {a' : Activity} (ha' : a'.due? = none) :
    ∀ a ∈ c.activities.set i a', a.due? = none := by
  intro a ha
  rcases List.mem_or_eq_of_mem_set ha with ha | rfl
  · exact h.undue a ha
  · exact ha'

theorem advance {c' : Concurrent} (h : c.Prompt) (hm : c.Advance m c')
    (hroom : ∀ i chance s, m = .proceed i chance s → chance.line.HasRoom) : c'.Prompt := by
  have hkept {r : Reconciler} (channels : r.channels = c.reconciler.channels)
      (published : r.published = c.reconciler.published) : ∀ recipe, r.Settled recipe := fun recipe =>
    (h.settled recipe).congr (fun _ => by rw [channels]) (Reconciler.lastPublished?_congr published)
  cases hm with
  | begins held channels published =>
    refine ⟨fun a ha => ?_, hkept channels published⟩
    rcases List.mem_append.1 ha with ha | ha
    · exact h.undue a ha
    · exact Activity.due?_eq_none_of_held? (held a ha)
  | breaksOff hi held' channels published =>
    exact ⟨h.undue_set (Activity.due?_eq_none_of_held? held'), hkept channels published⟩
  | goesOn hi free he =>
    cases he with
    | silent held held' channels published =>
      exact ⟨h.undue_set (Activity.due?_eq_none_of_held? held'), hkept channels published⟩
    | @hold recipe held awaited held' channels published owes waits =>
      have undue' := waits (hroom _ _ _ rfl)
      refine ⟨h.undue_set undue', fun recipe' => ?_⟩
      by_cases hr : recipe' = recipe
      · -- it does not wait, so it has handed over what the channels hold now
        subst hr
        rcases Activity.held?_eq_some_iff.1 held' with ⟨p, due, -⟩ | served
        · exact nomatch undue'.symm.trans due
        · exact .inr (owes.served _ served)
      · exact (h.settled recipe').congr (fun l => channels l recipe' hr) (published recipe' hr)
    | handOver due => exact nomatch (h.undue _ (List.mem_of_getElem? hi)).symm.trans due
    | release served held' channels published =>
      exact ⟨h.undue_set (Activity.due?_eq_none_of_held? held'), hkept channels published⟩

theorem run (h : c.Prompt) (hroom : ∀ i chance s, .proceed i chance s ∈ moves → chance.line.HasRoom) :
    (c.run moves).Prompt := by
  induction moves generalizing c with
  | nil => exact h
  | cons m moves ih =>
    refine ih (h.advance (advance_step c m) fun i chance s hm => ?_) fun i chance s hm => ?_
    · exact hroom i chance s (by simp [hm])
    · exact hroom i chance s (by simp [hm])

end Prompt

/-! ### Taking hold of a recipe -/

/-- The moves that touch an entry of a recipe are those in which an activity takes hold of it. -/
theorem exists_touches_iff : (∃ l, c.Touches l recipe m) ↔ ∃ i chance s a, m = .proceed i chance s ∧
    c.activities[i]? = some a ∧ a.awaited? chance = some recipe ∧ c.isFree recipe := by
  constructor
  · rintro ⟨l, ⟨i, o, ⟨hi, hfree, chance, s, rfl⟩, rfl, rfl⟩ | ⟨i, recipes, chance, s, hi, hr, hfree, rfl⟩⟩
    · exact ⟨i, chance, s, _, rfl, hi, rfl, hfree⟩
    · exact ⟨i, chance, s, _, rfl, hi, hr, hfree⟩
  · rintro ⟨i, chance, s, a, rfl, hi, ha, hfree⟩
    unfold Activity.awaited? at ha
    split at ha
    · next o =>
      cases ha
      exact ⟨o.language, .inl ⟨i, o, ⟨hi, hfree, chance, s, rfl⟩, rfl, rfl⟩⟩
    · next recipes => exact ⟨.bash, .inr ⟨i, recipes, chance, s, hi, ha, hfree, rfl⟩⟩
    · cases ha

theorem not_isFree_of_touches (h : c.Touches l recipe m) : ¬ (c.step m).isFree recipe := by
  obtain ⟨i, chance, s, a, rfl, hi, ha, hfree⟩ := exists_touches_iff.1 ⟨l, h⟩
  have hstep : c.step (.proceed i chance s) = _ := proceed_of_free hi fun recipe' ha' => by
    cases ha.symm.trans ha'
    exact hfree
  intro hf
  rw [hstep] at hf
  have hlt : i < c.activities.length := (List.getElem?_eq_some_iff.1 hi).1
  exact isFree_iff.1 hf i ⟨_, List.getElem?_set_self hlt, Reconciler.held?_proceed ha⟩

theorem Spares.concat (h : c.Spares l recipe moves) (hm : ¬ (c.run moves).Touches l recipe m) :
    c.Spares l recipe (moves ++ [m]) := by
  induction moves generalizing c with
  | nil => exact ⟨hm, trivial⟩
  | cons m' moves ih => exact ⟨h.1, ih h.2 hm⟩

/-- As long as nobody takes hold of a free recipe it stays as it is. -/
theorem Guarded.kept_of_spares (h : c.Guarded) (hf : c.isFree recipe) (hs : ∀ l, c.Spares l recipe moves) :
    (c.run moves).isFree recipe ∧
      (∀ l, ((c.run moves).reconciler.channels.channel l).get? recipe =
        (c.reconciler.channels.channel l).get? recipe) ∧
      (c.run moves).reconciler.lastPublished? recipe = c.reconciler.lastPublished? recipe := by
  induction moves generalizing c with
  | nil => exact ⟨hf, fun _ => rfl, rfl⟩
  | cons m moves ih =>
    have hnobody := isFree_iff.1 hf
    cases h.fares (advance_step c m) recipe with
    | rests holders entries shown =>
      have hf' : (c.step m).isFree recipe := isFree_iff.2 fun i hi => hnobody i ((holders i).1 hi)
      obtain ⟨hfree, hentries, hshown⟩ := ih (h.step m) hf' fun l => (hs l).2
      exact ⟨hfree, fun l => (hentries l).trans (entries l), hshown.trans shown⟩
    | isTaken hm hi awaited free _ =>
      obtain ⟨l, ht⟩ := exists_touches_iff.2 ⟨_, _, _, _, hm, hi, awaited, free⟩
      exact absurd ht (hs l).1
    | isShown held => exact absurd held (hnobody _)
    | settles held => exact absurd held (hnobody _)
    | isCutOff _ hi due hp => exact absurd ⟨_, hi, hp ▸ Activity.held?_of_due? due⟩ (hnobody _)

/-! ### Breaking off a publication -/

/-- In the move an activity that waits to publish the set is broken off. -/
def CutsOff (c : Concurrent) (p : Publication) (m : Move) : Prop :=
  ∃ i elapsed a, m = .abort i elapsed ∧ c.activities[i]? = some a ∧ a.due? = some p

/-- In one of the moves the publication is cut off, and in none of those that follow does anybody take
hold of its recipe. -/
def IsCutOff (c : Concurrent) (moves : List Move) (p : Publication) : Prop :=
  ∃ before m after, moves = before ++ m :: after ∧ (c.run before).CutsOff p m ∧
    ∀ l, ((c.run before).step m).Spares l p.recipe after

theorem CutsOff.isCutOff (h : (c.run moves).CutsOff p m) : c.IsCutOff (moves ++ [m]) p :=
  ⟨moves, m, [], rfl, h, fun _ => trivial⟩

theorem IsCutOff.concat (h : c.IsCutOff moves p) (hf : (c.run (moves ++ [m])).isFree p.recipe) :
    c.IsCutOff (moves ++ [m]) p := by
  obtain ⟨before, m', after, rfl, hcut, hs⟩ := h
  refine ⟨before, m', after ++ [m], by simp, hcut, fun l => (hs l).concat fun ht => ?_⟩
  rw [run_concat, run_append] at hf
  exact not_isFree_of_touches ht hf

/-- At first everything is settled. A recipe that is free is settled as long as no publication of it is
cut off. -/
theorem settled_of_not_cutOff {r : Reconciler} (hr : r.Settled recipe)
    (hf : ((quiet r).run moves).isFree recipe)
    (hcut : ∀ p, p.recipe = recipe → ¬ (quiet r).IsCutOff moves p) :
    ((quiet r).run moves).reconciler.Settled recipe := by
  induction moves using List.reverseRecOn with
  | nil => exact hr
  | append_singleton moves m ih =>
    have hconcat : (quiet r).run (moves ++ [m]) = ((quiet r).run moves).step m := run_concat
    have hg : ((quiet r).run moves).Guarded := Guarded.quiet.run moves
    have hnobody := isFree_iff.1 (hconcat ▸ hf)
    rw [hconcat]
    cases hg.fares (advance_step _ m) recipe with
    | rests holders entries shown =>
      have hfree : ((quiet r).run moves).isFree recipe :=
        isFree_iff.2 fun i hi => hnobody i ((holders i).2 hi)
      refine (ih hfree fun p hp h => ?_).congr entries shown
      subst hp
      exact hcut p rfl (h.concat hf)
    | isTaken _ _ _ _ held => exact absurd held (hnobody _)
    | isShown _ held => exact absurd held (hnobody _)
    | settles _ _ settled => exact settled
    | @isCutOff i elapsed a p hm hi due hp =>
      have h : ((quiet r).run moves).CutsOff p m := ⟨i, elapsed, a, hm, hi, due⟩
      exact absurd h.isCutOff (hcut p hp)

theorem Guarded.isFree_abort (h : c.Guarded) (held : c.Holds i recipe) (elapsed : Nat) :
    (c.step (.abort i elapsed)).isFree recipe := by
  obtain ⟨a, hi, ha⟩ := held
  obtain ⟨st, a', habort, held'⟩ := Reconciler.abort_eq c.reconciler elapsed a
  have hstep : c.step (.abort i elapsed) =
      ⟨{ c.reconciler with statistics := st }, c.activities.set i a'⟩ := by
    show c.abort i elapsed = _
    simp only [abort, hi, habort]
  rw [hstep]
  exact h.isFree_of_letGo hi ha held'

/-- The channels hold the set that was cut off, and what is shown is what was shown before. -/
theorem Guarded.cutOff_is_held (h : c.Guarded) (hcut : c.CutsOff p m)
    (hs : ∀ l, (c.step m).Spares l p.recipe moves) :
    ((c.step m).run moves).reconciler.channels.merged p.recipe = p.diagnostics ∧
      ((c.step m).run moves).reconciler.lastPublished? p.recipe =
        c.reconciler.lastPublished? p.recipe := by
  obtain ⟨i, elapsed, a, rfl, hi, hp⟩ := hcut
  have held : c.Holds i p.recipe := ⟨a, hi, Activity.held?_of_due? hp⟩
  have hdue : p.diagnostics = c.reconciler.channels.merged p.recipe :=
    (h.owed a (List.mem_of_getElem? hi)).due p hp
  obtain ⟨-, entries, shown⟩ := (h.step (.abort i elapsed)).kept_of_spares (h.isFree_abort held elapsed) hs
  obtain ⟨st, as, habort⟩ := abort_eq c i elapsed
  have hstep : c.step (.abort i elapsed) = ⟨{ c.reconciler with statistics := st }, as⟩ := habort
  rw [hstep] at entries shown
  rw [hstep]
  exact ⟨(Channels.merged_congr entries).trans hdue.symm, shown⟩

end

/-- However updates and clearings, and the editor's reports and changes of the configuration, are interleaved,
and whichever activities are broken off wherever they stand: if the line to the editor has room, then at any
time a recipe was either never shown and has no entry, or the last set shown for it is its shell entry followed
by its Python entry. -/
theorem shown_wherever_broken_off (w : Workspace) (g : Registry) (moves : List Move)
    (hroom : ∀ i chance s, .proceed i chance s ∈ moves → chance.line.HasRoom) (recipe : Uri) :
    let r := ((quiet (.start w g)).run moves).reconciler
    (r.lastPublished? recipe = none ∧ ∀ l, (r.channels.channel l).get? recipe = none) ∨
      r.lastPublished? recipe =
        some (r.channels.bash.diagnostics recipe ++ r.channels.python.diagnostics recipe) := by
  intro r
  have hprompt := (Prompt.quiet fun _ => Reconciler.settled_start w g).run hroom
  exact hprompt.settled recipe

namespace Sample
open Reconciler.Sample

/-- An update is broken off while it waits for the line to move on. The update in its place finds the recipe
closed, and a third is broken off before that. -/
def brokenOff : List Move :=
  .update script :: goOn 0 [0, 0, 0, 0, 0, 0, 1, 0, 0] ++ .abort 0 0 :: .update script :: .update script ::
    goOn 2 [0, 0, 0, 0, 0] ++ .abort 2 0 :: .edit (.close recipe) :: goOn 1 [0, 0]

theorem hasRoom_of_mem_goOn {i j : Nat} {chance : Chance} {s : Surroundings} {choices : List Nat}
    (h : .proceed i chance s ∈ goOn j choices) : chance.line.HasRoom := by
  obtain ⟨index, -, hindex⟩ := List.mem_map.1 h
  cases hindex
  exact fun _ => rfl

end Sample

open Reconciler.Sample Sample in
theorem shown_wherever_broken_off_of_script :
    let c := (quiet idle).run brokenOff
    c.isQuiet ∧ c.reconciler.channels.bash.diagnostics recipe ≠ [] ∧
      c.reconciler.lastPublished? recipe = some (c.reconciler.channels.bash.diagnostics recipe ++
        c.reconciler.channels.python.diagnostics recipe) := by
  intro c
  have hroom : ∀ i chance s, .proceed i chance s ∈ brokenOff → chance.line.HasRoom := by
    intro i chance s hm
    simp only [brokenOff, List.mem_append, List.mem_cons, reduceCtorEq, false_or] at hm
    rcases hm with (hm | hm) | hm <;> exact hasRoom_of_mem_goOn hm
  have hentry : c.reconciler.channels.bash.diagnostics recipe ≠ [] := by decide +kernel
  refine ⟨by decide +kernel, hentry, ?_⟩
  rcases shown_wherever_broken_off workspace (.ofList [document]) brokenOff hroom recipe with ⟨-, hnone⟩ | h
  · have hempty : c.reconciler.channels.bash.diagnostics recipe = [] :=
      congrArg (Option.getD · []) (hnone .bash)
    exact absurd hempty hentry
  · exact h

/-- Whatever the line is like: what is shown for a recipe that nobody holds is what the channels hold, unless
the last activity that took hold of it was broken off before it published. Then the channels hold the set that
was cut off, and what is shown is still what was shown before. -/
theorem shown_unless_cut_off (w : Workspace) (g : Registry) (moves : List Move) (recipe : Uri) :
    let start := quiet (.start w g)
    let r := (start.run moves).reconciler
    ((start.run moves).isFree recipe →
      ((r.lastPublished? recipe).getD [] = r.channels.merged recipe ↔
        ∀ p, p.recipe = recipe → start.IsCutOff moves p →
          (r.lastPublished? recipe).getD [] = p.diagnostics)) ∧
    ∀ before m after p, moves = before ++ m :: after → (start.run before).CutsOff p m →
      (∀ l, ((start.run before).step m).Spares l p.recipe after) →
        r.channels.merged p.recipe = p.diagnostics ∧
          r.lastPublished? p.recipe = (start.run before).reconciler.lastPublished? p.recipe := by
  intro start r
  have hheld : ∀ before m after p, moves = before ++ m :: after → (start.run before).CutsOff p m →
      (∀ l, ((start.run before).step m).Spares l p.recipe after) →
        r.channels.merged p.recipe = p.diagnostics ∧
          r.lastPublished? p.recipe = (start.run before).reconciler.lastPublished? p.recipe := by
    rintro before m after p rfl hcut hs
    have hg : (start.run before).Guarded := Guarded.quiet.run before
    have hrun : start.run (before ++ m :: after) = ((start.run before).step m).run after := run_append _
    have h := hg.cutOff_is_held hcut hs
    rwa [← hrun] at h
  refine ⟨fun hf => ⟨?_, fun h => ?_⟩, hheld⟩
  · rintro h p rfl ⟨before, m, after, hmoves, hcut, hs⟩
    rw [h, (hheld before m after p hmoves hcut hs).1]
  · by_cases hcut : ∃ p, p.recipe = recipe ∧ start.IsCutOff moves p
    · obtain ⟨p, rfl, hp⟩ := hcut
      rw [h p rfl hp]
      obtain ⟨before, m, after, hmoves, hcut, hs⟩ := hp
      exact (hheld before m after p hmoves hcut hs).1.symm
    · have hsettled := settled_of_not_cutOff (Reconciler.settled_start w g) hf
        fun p hp h => hcut ⟨p, hp, h⟩
      exact hsettled.getD_lastPublished?

end Concurrent
end RecipeDiag
