import RecipeDiag.Proofs.Channels
import RecipeDiag.Proofs.Reconciler.Recency

/-!
# Switching diagnostics off

Of all moves, only those in which an update commits or a clearing withdraws a recipe change an entry,
so what the channels hold at the end of a run is what the last of these moves left behind
(`get?_channel_run_eq_some_iff`). While diagnostics are off no update gets past its first stage
(`IsOpenAt.of_run`), and a clearing withdraws every recipe that had an entry when it began
(`HasLeft.run`). What an update that was under way commits after that stays, as nothing asks again
whether diagnostics are on (`get?_channel_of_clear`, `entry_after_disabling`).
-/

namespace RecipeDiag

/-- The recipes that a clearing has still to withdraw. -/
def ClearStage.left : ClearStage → List Uri
  | .clearing recipes => recipes
  | .withdrawing _ others | .withdrawn _ others => others

/-- Where an update stands that has seen that diagnostics are on and has not ended. -/
def UpdateStage.IsOpen : UpdateStage → Prop
  | .begun _ | .ended _ | .aborted => False
  | .opening _ | .reading _ | .listing _ | .judging .. | .committing _ | .publishing _ | .handedOver _ => True

/-- While diagnostics are off no update gets past its first stage. -/
theorem Reconciler.Leads.isOpen_of_disabled {r r' : Reconciler} {s : Surroundings} {chance : Chance}
    {stage stage' : UpdateStage} (h : r.Leads s chance stage r' stage')
    (hoff : r.configuration.enabled = false) (ho : stage'.IsOpen) : stage.IsOpen := by
  cases h with
  | opens h => exact nomatch (Reconciler.opening?_of_disabled hoff).symm.trans h
  | skips h => exact ho
  | rests h => exact ho
  | _ => trivial

namespace Concurrent

section
variable {c : Concurrent} {m : Move} {moves : List Move} {i : Nat} {chance : Chance} {s : Surroundings}
  {a a' : Activity} {o : Outcome} {l : Language} {recipe : Uri} {ds : List Diagnostic}

theorem run_nil : c.run [] = c := rfl

theorem run_append (moves' : List Move) : c.run (moves ++ moves') = (c.run moves).run moves' :=
  List.foldl_append

/-! ### One activity in one move -/

theorem abort_eq (c : Concurrent) (i elapsed : Nat) :
    ∃ st as, c.abort i elapsed = ⟨{ c.reconciler with statistics := st }, as⟩ := by
  cases hi : c.activities[i]? with
  | none => exact ⟨c.reconciler.statistics, c.activities, by simp only [abort, hi]⟩
  | some a =>
    obtain ⟨st, a', h, -⟩ := Reconciler.abort_eq c.reconciler elapsed a
    exact ⟨st, c.activities.set i a', by simp only [abort, hi, h]⟩

theorem getElem?_step (hi : c.activities[i]? = some a) (hm : ∀ elapsed, m ≠ .abort i elapsed) :
    (c.step m).activities[i]? = some a ∨ ∃ chance s, m = .proceed i chance s ∧
      (∀ recipe, a.awaited? chance = some recipe → c.isFree recipe) ∧
      (c.step m).activities[i]? = some (c.reconciler.proceed s chance a).2 := by
  have hlt : i < c.activities.length := (List.getElem?_eq_some_iff.1 hi).1
  cases m with
  | update u => exact .inl ((List.getElem?_append_left hlt).trans hi)
  | review s => exact .inl ((List.getElem?_append_left hlt).trans hi)
  | clear => exact .inl ((List.getElem?_append_left hlt).trans hi)
  | proceed j chance s =>
    rcases proceed_cases c j chance s with h | ⟨b, hj, hf⟩
    · exact .inl ((congrArg (·.activities[i]?) h).trans hi)
    · have h := proceed_of_free (s := s) hj hf
      by_cases hji : j = i
      · subst hji
        cases hi.symm.trans hj
        refine .inr ⟨chance, s, rfl, hf, (congrArg (·.activities[j]?) h).trans ?_⟩
        exact List.getElem?_set_self hlt
      · refine .inl ((congrArg (·.activities[i]?) h).trans ?_)
        exact (List.getElem?_set_ne hji).trans hi
  | abort j elapsed =>
    have hji : j ≠ i := fun hji => hm elapsed (hji ▸ rfl)
    refine .inl ?_
    simp only [step, abort]
    split
    · exact (List.getElem?_set_ne hji).trans hi
    · exact hi
  | edit e => exact .inl hi
  | configure settings => exact .inl hi

theorem begun_of_getElem?_step (hi : c.activities[i]? = none)
    (hi' : (c.step m).activities[i]? = some a') :
    (∃ u, a' = .update (.begun u)) ∨ a' = .clear (.clearing c.reconciler.channels.recipes) := by
  have hge := List.getElem?_eq_none_iff.1 hi
  cases m with
  | update u =>
    have h := List.mem_of_getElem? ((List.getElem?_append_right hge).symm.trans hi')
    exact .inl ⟨u, List.mem_singleton.1 h⟩
  | review s =>
    have h := List.mem_of_getElem? ((List.getElem?_append_right hge).symm.trans hi')
    obtain ⟨u, -, rfl⟩ := List.mem_map.1 h
    exact .inl ⟨u, rfl⟩
  | clear =>
    have h := List.mem_of_getElem? ((List.getElem?_append_right hge).symm.trans hi')
    exact .inr (List.mem_singleton.1 h)
  | proceed j chance s =>
    rcases proceed_cases c j chance s with h | ⟨b, hj, hf⟩
    · exact nomatch hi.symm.trans ((congrArg (·.activities[i]?) h).symm.trans hi')
    · have hlt := (List.getElem?_eq_some_iff.1 ((congrArg (·.activities[i]?)
        (proceed_of_free (s := s) hj hf)).symm.trans hi')).1
      rw [List.length_set] at hlt
      omega
  | abort j elapsed =>
    simp only [step, abort] at hi'
    split at hi'
    · have hlt := (List.getElem?_eq_some_iff.1 hi').1
      rw [List.length_set] at hlt
      omega
    · exact nomatch hi.symm.trans hi'
  | edit e => exact nomatch hi.symm.trans hi'
  | configure settings => exact nomatch hi.symm.trans hi'

/-! ### Which moves touch an entry -/

/-- In the move a clearing takes a recipe out of both channels. -/
def Withdraws (c : Concurrent) (recipe : Uri) (m : Move) : Prop :=
  ∃ i recipes chance s, c.activities[i]? = some (.clear (.clearing recipes)) ∧
    recipes[chance.index]? = some recipe ∧ c.isFree recipe ∧ m = .proceed i chance s

/-- The move replaces or withdraws the entry of a recipe in the channel of a language. -/
def Touches (c : Concurrent) (l : Language) (recipe : Uri) (m : Move) : Prop :=
  (∃ i o, c.Commits i o m ∧ o.language = l ∧ o.recipe = recipe) ∨ c.Withdraws recipe m

theorem Commits.unique {i' : Nat} {o' : Outcome} (h : c.Commits i o m) (h' : c.Commits i' o' m) :
    i' = i ∧ o' = o := by
  obtain ⟨hi, -, chance, s, rfl⟩ := h
  obtain ⟨hi', -, chance', s', hm⟩ := h'
  cases hm
  cases hi.symm.trans hi'
  exact ⟨rfl, rfl⟩

theorem Withdraws.unique {recipe' : Uri} (h : c.Withdraws recipe m) (h' : c.Withdraws recipe' m) :
    recipe' = recipe := by
  obtain ⟨i, recipes, chance, s, hi, hr, -, rfl⟩ := h
  obtain ⟨i', recipes', chance', s', hi', hr', -, hm⟩ := h'
  cases hm
  cases hi.symm.trans hi'
  exact Option.some.inj (hr'.symm.trans hr)

theorem Withdraws.not_commits (h : c.Withdraws recipe m) : ¬ c.Commits i o m := by
  rintro ⟨hi', -, chance', s', hm⟩
  obtain ⟨i, recipes, chance, s, hi, -, -, rfl⟩ := h
  cases hm
  cases hi.symm.trans hi'

theorem Commits.channels_step (h : c.Commits i o m) : (c.step m).reconciler.channels =
    c.reconciler.channels.set o.language o.recipe o.diagnostics := by
  obtain ⟨hi, hfree, chance, s, rfl⟩ := h
  have hf : ∀ recipe, (Activity.update (.committing o)).awaited? chance = some recipe → c.isFree recipe :=
    fun recipe h => by
      cases h
      exact hfree
  refine (congrArg (·.reconciler.channels) (proceed_of_free hi hf)).trans ?_
  exact (Reconciler.leads_proceedUpdate (s := s) (.committing o)).channels_of_commits

theorem Withdraws.channels_step (h : c.Withdraws recipe m) :
    (c.step m).reconciler.channels = c.reconciler.channels.remove recipe := by
  obtain ⟨i, recipes, chance, s, hi, hr, hfree, rfl⟩ := h
  have hf : ∀ r, recipes[chance.index]? = some r → c.isFree r := fun r h => by
    cases hr.symm.trans h
    exact hfree
  refine (congrArg (·.reconciler.channels) (proceed_of_free hi hf)).trans ?_
  simp only [Reconciler.proceed, Reconciler.proceedClear, hr]
  split <;> rfl

/-- All other moves leave the channels alone. -/
theorem channels_step_eq (hc : ∀ i o, ¬ c.Commits i o m) (hw : ∀ recipe, ¬ c.Withdraws recipe m) :
    (c.step m).reconciler.channels = c.reconciler.channels := by
  cases m with
  | proceed i chance s =>
    rcases proceed_cases c i chance s with h | ⟨a, hi, hf⟩
    · exact congrArg (·.reconciler.channels) h
    · refine (congrArg (·.reconciler.channels) (proceed_of_free hi hf)).trans ?_
      cases a with
      | update stage =>
        refine (Reconciler.leads_proceedUpdate stage).channels_eq fun o ho => ?_
        subst ho
        exact hc i o ⟨hi, hf _ rfl, chance, s, rfl⟩
      | clear stage =>
        cases stage with
        | withdrawing recipe others => rfl
        | withdrawn recipe others => rfl
        | clearing recipes =>
          cases hr : recipes[chance.index]? with
          | none => simp only [Reconciler.proceed, Reconciler.proceedClear, hr]
          | some recipe => exact absurd ⟨i, recipes, chance, s, hi, hr, hf _ hr, rfl⟩ (hw recipe)
  | abort i elapsed =>
    obtain ⟨st, as, h⟩ := abort_eq c i elapsed
    exact congrArg (·.reconciler.channels) h
  | edit e => cases e <;> rfl
  | _ => rfl

/-- After a move an entry is what the move made it, or what it was before if the move did not touch
it. -/
theorem get?_channel_step_eq_some_iff :
    ((c.step m).reconciler.channels.channel l).get? recipe = some ds ↔
      (∃ i o, c.Commits i o m ∧ o.language = l ∧ o.recipe = recipe ∧ o.diagnostics = ds) ∨
      (¬ c.Touches l recipe m ∧ (c.reconciler.channels.channel l).get? recipe = some ds) := by
  by_cases hc : ∃ i o, c.Commits i o m
  · obtain ⟨i, o, hc⟩ := hc
    have hiff : ∀ P : Outcome → Prop, (∃ i o, c.Commits i o m ∧ P o) ↔ P o := fun P =>
      ⟨fun ⟨i', o', hc', h⟩ => (hc.unique hc').2 ▸ h, fun h => ⟨i, o, hc, h⟩⟩
    have hw : ¬ c.Withdraws recipe m := fun hw => hw.not_commits hc
    rw [hc.channels_step, Channels.get?_channel_set, Touches, hiff, hiff, or_iff_left hw]
    split <;> grind
  · have hc' : ∀ i o, ¬ c.Commits i o m := fun i o h => hc ⟨i, o, h⟩
    have hiff : ∀ P : Outcome → Prop, ¬ ∃ i o, c.Commits i o m ∧ P o :=
      fun P ⟨i, o, h, _⟩ => hc' i o h
    rw [Touches, or_iff_right (hiff _), or_iff_right (hiff _)]
    by_cases hw : ∃ recipe', c.Withdraws recipe' m
    · obtain ⟨recipe', hw⟩ := hw
      have hiff' : c.Withdraws recipe m ↔ recipe = recipe' :=
        ⟨fun h => hw.unique h, fun h => h ▸ hw⟩
      rw [hw.channels_step, Channels.get?_channel_remove, hiff']
      split <;> simp_all
    · have hw' : ∀ recipe, ¬ c.Withdraws recipe m := fun recipe h => hw ⟨recipe, h⟩
      rw [channels_step_eq hc' hw', and_iff_right (hw' recipe)]

/-! ### The last word on an entry -/

/-- None of the moves touches the entry. -/
def Spares (l : Language) (recipe : Uri) : Concurrent → List Move → Prop
  | _, [] => True
  | c, m :: moves => ¬ c.Touches l recipe m ∧ Spares l recipe (c.step m) moves

/-- In one of the moves the update makes its outcome the entry, and none of those that follow touches
the entry. -/
def HasLastWord (c : Concurrent) (moves : List Move) (i : Nat) (o : Outcome) : Prop :=
  ∃ before m after, moves = before ++ m :: after ∧ (c.run before).Commits i o m ∧
    ((c.run before).step m).Spares o.language o.recipe after

theorem hasLastWord_cons : c.HasLastWord (m :: moves) i o ↔
    (c.Commits i o m ∧ (c.step m).Spares o.language o.recipe moves) ∨
      (c.step m).HasLastWord moves i o := by
  constructor
  · rintro ⟨before, m', after, hmoves, hc, hs⟩
    cases before with
    | nil =>
      cases hmoves
      exact .inl ⟨hc, hs⟩
    | cons m₀ before =>
      cases hmoves
      exact .inr ⟨before, m', after, rfl, hc, hs⟩
  · rintro (⟨hc, hs⟩ | ⟨before, m', after, rfl, hc, hs⟩)
    · exact ⟨[], m, moves, rfl, hc, hs⟩
    · exact ⟨m :: before, m', after, rfl, hc, hs⟩

/-- At the end of a run an entry is what the last move that touched it made it. -/
theorem get?_channel_run_eq_some_iff :
    ((c.run moves).reconciler.channels.channel l).get? recipe = some ds ↔
      (∃ i o, c.HasLastWord moves i o ∧ o.language = l ∧ o.recipe = recipe ∧ o.diagnostics = ds) ∨
      (c.Spares l recipe moves ∧ (c.reconciler.channels.channel l).get? recipe = some ds) := by
  induction moves generalizing c with
  | nil => simp [HasLastWord, Spares, run]
  | cons m moves ih =>
    have hrun : c.run (m :: moves) = (c.step m).run moves := rfl
    rw [hrun, ih, get?_channel_step_eq_some_iff]
    simp only [hasLastWord_cons, Spares]
    constructor
    · rintro (⟨i, o, h, heq⟩ | ⟨hs, ⟨i, o, hc, rfl, rfl, rfl⟩ | ⟨hn, he⟩⟩)
      · exact .inl ⟨i, o, .inr h, heq⟩
      · exact .inl ⟨i, o, .inl ⟨hc, hs⟩, rfl, rfl, rfl⟩
      · exact .inr ⟨⟨hn, hs⟩, he⟩
    · rintro (⟨i, o, ⟨hc, hs⟩ | h, rfl, rfl, rfl⟩ | ⟨⟨hn, hs⟩, he⟩)
      · exact .inr ⟨hs, .inl ⟨i, o, hc, rfl, rfl, rfl⟩⟩
      · exact .inl ⟨i, o, h, rfl, rfl, rfl⟩
      · exact .inr ⟨hs, .inr ⟨hn, he⟩⟩

/-! ### While diagnostics are off -/

/-- Diagnostics are off before each of the moves and after them all. -/
def StaysOff : Concurrent → List Move → Prop
  | c, [] => c.reconciler.configuration.enabled = false
  | c, m :: moves => c.reconciler.configuration.enabled = false ∧ StaysOff (c.step m) moves

/-- The update with a number is under way and has seen that diagnostics are on. -/
def IsOpenAt (c : Concurrent) (i : Nat) : Prop :=
  ∃ stage, c.activities[i]? = some (.update stage) ∧ stage.IsOpen

theorem Commits.isOpenAt (h : c.Commits i o m) : c.IsOpenAt i := ⟨_, h.1, trivial⟩

theorem StaysOff.enabled_eq (h : c.StaysOff moves) : c.reconciler.configuration.enabled = false := by
  cases moves with
  | nil => exact h
  | cons m moves => exact h.1

theorem StaysOff.of_append {moves' : List Move} (h : c.StaysOff (moves ++ moves')) :
    c.StaysOff moves ∧ (c.run moves).StaysOff moves' := by
  induction moves generalizing c with
  | nil => exact ⟨h.enabled_eq, h⟩
  | cons m moves ih => exact ⟨⟨h.1, (ih h.2).1⟩, (ih h.2).2⟩

theorem configuration_step (hm : ∀ settings, m ≠ .configure settings) :
    (c.step m).reconciler.configuration = c.reconciler.configuration := by
  cases m with
  | proceed i chance s =>
    rcases proceed_cases c i chance s with h | ⟨a, hi, hf⟩
    · exact congrArg (·.reconciler.configuration) h
    · refine (congrArg (·.reconciler.configuration) (proceed_of_free hi hf)).trans ?_
      cases a with
      | update stage => exact (Reconciler.leads_proceedUpdate stage).reads_eq.2.2
      | clear stage =>
        cases stage with
        | withdrawing recipe others => rfl
        | withdrawn recipe others => rfl
        | clearing recipes =>
          simp only [Reconciler.proceed, Reconciler.proceedClear]
          split
          · split <;> rfl
          · rfl
  | abort i elapsed =>
    obtain ⟨st, as, h⟩ := abort_eq c i elapsed
    exact congrArg (·.reconciler.configuration) h
  | edit e => cases e <;> rfl
  | configure settings => exact absurd rfl (hm settings)
  | _ => rfl

theorem staysOff_of_not_mem (hoff : c.reconciler.configuration.enabled = false)
    (hm : ∀ settings, .configure settings ∉ moves) : c.StaysOff moves := by
  induction moves generalizing c with
  | nil => exact hoff
  | cons m moves ih =>
    have hstep := configuration_step (c := c) (m := m) fun settings h => hm settings (by simp [h])
    exact ⟨hoff, ih (hstep ▸ hoff) fun settings h => hm settings (by simp [h])⟩

namespace IsOpenAt

theorem of_step (h : (c.step m).IsOpenAt i) (hm : ∀ i elapsed, m ≠ .abort i elapsed)
    (hoff : c.reconciler.configuration.enabled = false) : c.IsOpenAt i := by
  obtain ⟨stage', hi', ho⟩ := h
  cases hi : c.activities[i]? with
  | none =>
    rcases begun_of_getElem?_step hi hi' with ⟨u, hu⟩ | hclear
    · cases hu
      exact ho.elim
    · exact nomatch hclear
  | some a =>
    rcases getElem?_step hi (hm i) with h | ⟨chance, s, -, -, h⟩
    · exact ⟨stage', hi.trans (h.symm.trans hi'), ho⟩
    · have ha := Option.some.inj (h.symm.trans hi')
      cases a with
      | clear stage => exact nomatch ha
      | update stage =>
        cases ha
        exact ⟨stage, hi, (Reconciler.leads_proceedUpdate stage).isOpen_of_disabled hoff ho⟩

/-- An update that is under way while diagnostics are off was under way when they were switched
off. -/
theorem of_run (h : (c.run moves).IsOpenAt i) (hm : ∀ i elapsed, .abort i elapsed ∉ moves)
    (hoff : c.StaysOff moves) : c.IsOpenAt i := by
  induction moves generalizing c with
  | nil => exact h
  | cons m moves ih =>
    have hm' : ∀ i elapsed, .abort i elapsed ∉ moves := fun i elapsed hi => hm i elapsed (by simp [hi])
    exact (ih h hm' hoff.2).of_step (fun i elapsed hi => hm i elapsed (by simp [hi])) hoff.1

end IsOpenAt

/-! ### What a clearing withdraws -/

/-- The activity with a number is a clearing that has still to withdraw the recipe. -/
def HasLeft (c : Concurrent) (n : Nat) (recipe : Uri) : Prop :=
  ∃ stage, c.activities[n]? = some (.clear stage) ∧ recipe ∈ stage.left

theorem hasLeft_step_clear (h : recipe ∈ c.reconciler.channels.recipes) :
    (c.step .clear).HasLeft c.activities.length recipe :=
  ⟨.clearing c.reconciler.channels.recipes, List.getElem?_concat_length, h⟩

namespace HasLeft
variable {n : Nat}

/-- What a clearing has to withdraw it withdraws in this move, or it still has to after it. -/
theorem step (h : c.HasLeft n recipe) (hm : ∀ i elapsed, m ≠ .abort i elapsed) (hw : ¬ c.Withdraws recipe m) :
    (c.step m).HasLeft n recipe := by
  obtain ⟨stage, hn, hmem⟩ := h
  rcases getElem?_step hn (hm n) with h | ⟨chance, s, rfl, hf, h⟩
  · exact ⟨stage, h, hmem⟩
  · refine ⟨_, h, ?_⟩
    cases stage with
    | withdrawing recipe' others => exact hmem
    | withdrawn recipe' others => exact hmem
    | clearing recipes =>
      cases hr : recipes[chance.index]? with
      | none => simpa only [Reconciler.proceedClear, hr] using hmem
      | some recipe' =>
        have hne : recipe ≠ recipe' := by
          rintro rfl
          exact hw ⟨n, recipes, chance, s, hn, hr, hf _ hr, rfl⟩
        obtain ⟨k, hk⟩ := List.mem_iff_getElem?.1 hmem
        have hkc : k ≠ chance.index := fun h => hne (Option.some.inj (hk.symm.trans (h ▸ hr)))
        have hothers : recipe ∈ recipes.eraseIdx chance.index := List.mem_eraseIdx_iff_getElem?.2 ⟨k, hkc, hk⟩
        simp only [hr]
        split <;> exact hothers

theorem run (h : c.HasLeft n recipe) (hm : ∀ i elapsed, .abort i elapsed ∉ moves) (hs : c.Spares l recipe moves) :
    (c.run moves).HasLeft n recipe := by
  induction moves generalizing c with
  | nil => exact h
  | cons m moves ih =>
    have hm' : ∀ i elapsed, .abort i elapsed ∉ moves := fun i elapsed hi => hm i elapsed (by simp [hi])
    have hw : ¬ c.Withdraws recipe m := fun hw => hs.1 (.inr hw)
    exact ih (h.step (fun i elapsed hi => hm i elapsed (by simp [hi])) hw) hm' hs.2

theorem not_isQuiet (h : c.HasLeft n recipe) : ¬ c.isQuiet := by
  obtain ⟨stage, hn, hmem⟩ := h
  intro hq
  have hover := List.all_eq_true.1 hq _ (List.mem_of_getElem? hn)
  cases stage with
  | withdrawing recipe' others => exact nomatch hover
  | withdrawn recipe' others => exact nomatch hover
  | clearing recipes =>
    cases recipes with
    | nil => exact nomatch hmem
    | cons r rs => exact nomatch hover

end HasLeft

/-! ### What is left in the end -/

theorem isFree_of_isQuiet (h : c.isQuiet) (recipe : Uri) : c.isFree recipe := by
  refine List.all_eq_true.2 fun a ha => decide_eq_true ?_
  have hover := List.all_eq_true.1 h a ha
  unfold Activity.isOver at hover
  split at hover <;> simp_all [Activity.held?]

/-- What the channels hold once a clearing has ended was committed after it had begun. -/
theorem get?_channel_of_clear (hm : ∀ i elapsed, .abort i elapsed ∉ moves)
    (hquiet : ((c.step .clear).run moves).isQuiet) :
    (((c.step .clear).run moves).reconciler.channels.channel l).get? recipe = some ds ↔
      ∃ i o, (c.step .clear).HasLastWord moves i o ∧ o.language = l ∧ o.recipe = recipe ∧
        o.diagnostics = ds := by
  rw [get?_channel_run_eq_some_iff, or_iff_left]
  rintro ⟨hs, he⟩
  have hleft : (c.step .clear).HasLeft c.activities.length recipe :=
    hasLeft_step_clear (Channels.mem_recipes_of_get? (c := c.reconciler.channels) he)
  exact (hleft.run hm hs).not_isQuiet hquiet

end

/-- Diagnostics are switched off while anything may be under way, then a clearing begins, and they
stay off until nothing is under way any more. The last set shown for a recipe is then what the channels
hold. They hold what updates committed after the clearing had begun and it did not withdraw, and all
these updates had begun and seen that diagnostics are on before they were switched off. -/
theorem entry_after_disabling (w : Workspace) (g : Registry) (before first second : List Move)
    (hm : ∀ i elapsed, .abort i elapsed ∉ before ++ first ++ .clear :: second)
    (hoff : ((quiet (.start w g)).run before).StaysOff (first ++ .clear :: second)) :
    let c := (quiet (.start w g)).run before
    let cleared := (c.run first).step .clear
    let c' := cleared.run second
    c'.isQuiet → ∀ recipe,
      (c'.reconciler.lastPublished? recipe).getD [] = c'.reconciler.channels.merged recipe ∧
      ∀ l ds, (c'.reconciler.channels.channel l).get? recipe = some ds ↔
        ∃ i o, c.IsOpenAt i ∧ cleared.HasLastWord second i o ∧ o.language = l ∧ o.recipe = recipe ∧
          o.diagnostics = ds := by
  intro c cleared c' hquiet recipe
  have hfirst : ∀ i elapsed, .abort i elapsed ∉ first := fun i elapsed hi => hm i elapsed (by simp [hi])
  have hsecond : ∀ i elapsed, .abort i elapsed ∉ second := fun i elapsed hi => hm i elapsed (by simp [hi])
  have hoff' := hoff.of_append
  constructor
  · have hrun : c' = (quiet (.start w g)).run (before ++ first ++ .clear :: second) := by
      rw [run_append, run_append]
      rfl
    have hc : c'.Orderly := hrun ▸ (Orderly.quiet fun _ => Reconciler.settled_start w g).run hm
    exact (hc.settled recipe (isFree_of_isQuiet hquiet recipe)).getD_lastPublished?
  · intro l ds
    rw [get?_channel_of_clear hsecond hquiet]
    constructor
    · rintro ⟨i, o, hlast, heq⟩
      refine ⟨i, o, ?_, hlast, heq⟩
      -- the update commits while diagnostics are off, so it was under way before
      obtain ⟨pre, m, post, rfl, hcommits, -⟩ := hlast
      have hpre : ∀ i elapsed, .abort i elapsed ∉ pre := fun i elapsed hi => hsecond i elapsed (by simp [hi])
      have hopen : cleared.IsOpenAt i := hcommits.isOpenAt.of_run hpre hoff'.2.2.of_append.1
      exact (hopen.of_step (by simp) hoff'.2.1).of_run hfirst hoff'.1
    · rintro ⟨i, o, -, hlast, heq⟩
      exact ⟨i, o, hlast, heq⟩

namespace Sample
open Reconciler.Sample

/-- An update shows what it found, and a second one takes the findings up. -/
def secondUnderWay : List Move :=
  .update script :: goOn 0 [0, 0, 0, 0, 0, 0, 1, 0, 0, 0] ++ .update script :: goOn 1 [0, 0, 0, 0]

def off : Json := .object [("enableDiagnostics", .bool false)]

/-- The clearing withdraws the recipe, then the second update goes on to its end. -/
def withdrawnFirst : List Move := goOn 2 [0, 0] ++ goOn 1 [0, 0, 1, 0, 0, 0]

end Sample

open Reconciler.Sample Sample in
theorem entry_after_disabling_of_script :
    let c := (quiet idle).run (secondUnderWay ++ [.configure off])
    let cleared := c.step .clear
    let c' := cleared.run withdrawnFirst
    c'.isQuiet ∧ (∃ i o, c.IsOpenAt i ∧ cleared.HasLastWord withdrawnFirst i o ∧ o.recipe = recipe ∧
      o.diagnostics ≠ []) ∧ (c'.reconciler.lastPublished? recipe).getD [] ≠ [] := by
  intro c cleared c'
  have hm : ∀ i elapsed,
      .abort i elapsed ∉ secondUnderWay ++ [.configure off] ++ [] ++ .clear :: withdrawnFirst := by
    simp [secondUnderWay, withdrawnFirst, goOn]
  have hoff : c.StaysOff ([] ++ .clear :: withdrawnFirst) :=
    staysOff_of_not_mem (by decide +kernel) (by simp [withdrawnFirst, goOn])
  have hquiet : c'.isQuiet := by decide +kernel
  have hmerged : c'.reconciler.channels.merged recipe ≠ [] := by decide +kernel
  have hentry : ∃ ds, (c'.reconciler.channels.channel .bash).get? recipe = some ds ∧ ds ≠ [] :=
    ⟨c'.reconciler.channels.merged recipe, by decide +kernel, hmerged⟩
  have hdisabled := entry_after_disabling workspace (.ofList [document]) _ [] withdrawnFirst hm hoff
  have hc : (quiet (.start workspace (.ofList [document]))).run (secondUnderWay ++ [.configure off]) = c := rfl
  have hcleared : c.step .clear = cleared := rfl
  have hc' : cleared.run withdrawnFirst = c' := rfl
  dsimp only at hdisabled
  rw [run_nil, hc, hcleared, hc'] at hdisabled
  -- from here on it does not matter what the runs come to
  clear_value c' cleared c
  obtain ⟨hshown, hlast⟩ := hdisabled hquiet recipe
  obtain ⟨ds, hds, hne⟩ := hentry
  obtain ⟨i, o, hopen, hword, -, hrecipe, rfl⟩ := (hlast .bash ds).1 hds
  exact ⟨hquiet, ⟨i, o, hopen, hword, hrecipe, hne⟩, fun h => hmerged (hshown.symm.trans h)⟩

open Reconciler.Sample Sample in
/-- The second update shows its findings again after the clearing has withdrawn them. -/
theorem shown_again_after_clear :
    ¬ ∀ (w : Workspace) (g : Registry) (before second : List Move) (settings : Json),
      (∀ m ∈ before, (∃ u, m = .update u) ∨ ∃ i chance s, m = .proceed i chance s) →
      (∀ m ∈ second, ∃ i chance s, m = .proceed i chance s) →
      let c := (quiet (.start w g)).run before
      let disabled := c.step (.configure settings)
      let c' := (disabled.step .clear).run second
      c.reconciler.configuration.enabled = true → disabled.reconciler.configuration.enabled = false →
      c'.isQuiet → ∀ recipe, c'.reconciler.channels.merged recipe = [] ∧
        (c'.reconciler.lastPublished? recipe).getD [] = [] := by
  intro h
  have hempty := h workspace (.ofList [document]) secondUnderWay withdrawnFirst off
    (by simp [secondUnderWay, goOn]) (by simp [withdrawnFirst, goOn]) (by decide +kernel)
    (by decide +kernel) (by decide +kernel) recipe
  exact absurd hempty.1 (by decide +kernel)

end Concurrent
end RecipeDiag
