import RecipeDiag.Proofs.Reconciler.Interleaving

/-!
# What updates do, stage by stage and move by move

`Leads` lists all that an update can do in one stage, with the conditions for it, and
`Concurrent.Turn` all that one move can do among updates while nothing changes but findings. No stage
changes what updates read (`Leads.reads_eq`), and only the move that commits an outcome changes the
channels (`Turn.channels_of_commits`, `Turn.channels_eq`).

How the inquiry about a finding will end is fixed from its beginning (`Progress.finish_progress`), so
once all have ended they have reached the verdicts on the findings that were taken up
(`Progress.map_finish_of_mapM_result?`).
-/

namespace RecipeDiag

/-! ### Inquiries under way -/

namespace Progress
variable {service : LanguageService} {recipe : Uri} {p : Progress} {ps : List Progress}

/-- How the inquiry will end. -/
def finish (service : LanguageService) (recipe : Uri) : Progress → Except Fault Verdict
  | asking q => q.run service recipe
  | reached v => .ok v
  | failed e => .error e

theorem finish_of_result? {x : Except Fault Verdict} (h : p.result? = some x) :
    p.finish service recipe = x := by
  cases p with
  | asking q => exact nomatch h
  | reached v => exact Option.some.inj h
  | failed e => exact Option.some.inj h

theorem map_finish_of_mapM_result? {xs : List (Except Fault Verdict)}
    (h : ps.mapM result? = some xs) : ps.map (finish service recipe) = xs := by
  induction ps generalizing xs with
  | nil =>
    cases h
    rfl
  | cons p ps ih =>
    simp only [List.mapM_cons, Option.pure_def, Option.bind_eq_bind, Option.bind_eq_some_iff,
      Option.some.injEq] at h
    obtain ⟨x, hx, xs', hxs, rfl⟩ := h
    rw [List.map_cons, finish_of_result? hx, ih hxs]

/-- Going on with an inquiry does not change how it will end. -/
theorem finish_progress (r : Reconciler) :
    (r.progress service recipe p).2.finish service recipe = p.finish service recipe := by
  cases p with
  | asking q =>
    cases q with
    | done v => rfl
    | askLanguage pos next =>
      simp only [Reconciler.progress, finish, Inquiry.run]
      cases service.languageAt recipe pos <;> rfl
    | askDefinitions pos next =>
      simp only [Reconciler.progress, finish, Inquiry.run]
      cases service.definitions recipe pos <;> rfl
    | overflow next => rfl
  | reached v => rfl
  | failed e => rfl

theorem map_finish_set {chance : Chance} (r : Reconciler) (h : ps[chance.index]? = some p) :
    (ps.set chance.index (r.progress service recipe p).2).map (finish service recipe) =
      ps.map (finish service recipe) := by
  obtain ⟨hlt, rfl⟩ := List.getElem?_eq_some_iff.1 h
  rw [List.map_set, finish_progress, ← List.getElem_map (finish service recipe) (h := by simpa using hlt),
    List.set_getElem_self]

end Progress

namespace Reconciler

/-! ### One stage of an update -/

/-- All that one stage of an update can lead to. -/
inductive Leads (s : Surroundings) (chance : Chance) (r : Reconciler) :
    UpdateStage → Reconciler → UpdateStage → Prop
  | opens {u : Uri} {o : Opening} (h : r.opening? u = some o) : Leads s chance r (.begun u) r (.opening o)
  | skips {u : Uri} (h : r.opening? u = none) : Leads s chance r (.begun u) r (.ended (.ok ()))
  | finds {o : Opening} {g : Reading} (h : r.reading? o = some g) :
      Leads s chance r (.opening o) r (.reading g)
  | misses {o : Opening} (h : r.reading? o = none) : Leads s chance r (.opening o) r (.ended (.ok ()))
  | lists {g : Reading} {l : Listing} (h : r.listing s.files g = .ok l) :
      Leads s chance r (.reading g) r (.listing l)
  | failsToList {g : Reading} {e : Fault} (h : r.listing s.files g = .error e) :
      Leads s chance r (.reading g) (r.time chance.elapsed) (.ended (.error e))
  | takesUp {l : Listing} :
      Leads s chance r (.listing l) r (.judging l ((l.inquiries r.workspace).map .asking))
  | asks {l : Listing} {ps : List Progress} {p : Progress} (hx : ps.mapM Progress.result? = none)
      (h : ps[chance.index]? = some p) :
      Leads s chance r (.judging l ps) (r.progress s.service l.reading.opening.recipe p).1
        (.judging l (ps.set chance.index (r.progress s.service l.reading.opening.recipe p).2))
  | idles {l : Listing} {ps : List Progress} (hx : ps.mapM Progress.result? = none)
      (h : ps[chance.index]? = none) : Leads s chance r (.judging l ps) r (.judging l ps)
  | concludes {l : Listing} {ps : List Progress} {xs : List (Except Fault Verdict)} {vs : List Verdict}
      (h : ps.mapM Progress.result? = some xs) (hvs : firstFailure xs = .ok vs) :
      Leads s chance r (.judging l ps) (r.countOutcome (l.outcome vs)) (.committing (l.outcome vs))
  | failsToJudge {l : Listing} {ps : List Progress} {xs : List (Except Fault Verdict)} {e : Fault}
      (h : ps.mapM Progress.result? = some xs) (he : firstFailure xs = .error e) :
      Leads s chance r (.judging l ps) (r.time chance.elapsed) (.ended (.error e))
  | commits {o : Outcome} (h : ¬ chance.line.takesAtOnce ((r.commit o).holding o.recipe)) :
      Leads s chance r (.committing o) (r.commit o) (.publishing ((r.commit o).holding o.recipe))
  | commitsAtOnce {o : Outcome} (h : chance.line.takesAtOnce ((r.commit o).holding o.recipe)) :
      Leads s chance r (.committing o) ((r.commit o).announce o.recipe) (.handedOver o.recipe)
  | publishes {p : Publication} : Leads s chance r (.publishing p) (r.publish p) (.handedOver p.recipe)
  | finishes {recipe : Uri} :
      Leads s chance r (.handedOver recipe) (r.time chance.elapsed) (.ended (.ok ()))
  | rests {stage : UpdateStage} (h : (Activity.update stage).isOver) : Leads s chance r stage r stage

variable {r r' : Reconciler} {s : Surroundings} {chance : Chance} {stage stage' : UpdateStage}

theorem leads_proceedUpdate (stage : UpdateStage) : Leads s chance r stage
    (r.proceedUpdate s chance stage).1 (r.proceedUpdate s chance stage).2 := by
  cases stage with
  | begun u =>
    simp only [proceedUpdate]
    split
    · next o h => exact .opens h
    · next h => exact .skips h
  | opening o =>
    simp only [proceedUpdate]
    split
    · next g h => exact .finds h
    · next h => exact .misses h
  | reading g =>
    simp only [proceedUpdate]
    split
    · next l h => exact .lists h
    · next e h => exact .failsToList h
  | listing l => exact .takesUp
  | judging l ps =>
    simp only [proceedUpdate]
    split
    · next xs h =>
      split
      · next vs hvs => exact .concludes h hvs
      · next e he => exact .failsToJudge h he
    · next hx =>
      split
      · next p h => exact .asks hx h
      · next h => exact .idles hx h
  | committing o =>
    simp only [proceedUpdate]
    split
    · next h => exact .commitsAtOnce h
    · next h => exact .commits h
  | publishing p => exact .publishes
  | handedOver recipe => exact .finishes
  | ended result => exact .rests rfl
  | aborted => exact .rests rfl

namespace Leads

/-- No stage changes what updates read. -/
theorem reads_eq (h : Leads s chance r stage r' stage') :
    r'.workspace = r.workspace ∧ r'.registry = r.registry ∧ r'.configuration = r.configuration := by
  cases h with
  | @asks l ps p _ _ =>
    obtain ⟨st, as, hp⟩ := progress_eq (r := r) s.service l.reading.opening.recipe p
    rw [hp]
    exact ⟨rfl, rfl, rfl⟩
  | _ => exact ⟨rfl, rfl, rfl⟩

theorem channels_of_commits {o : Outcome} (h : Leads s chance r (.committing o) r' stage') :
    r'.channels = r.channels.set o.language o.recipe o.diagnostics := by
  cases h with
  | commits | commitsAtOnce => rfl
  | rests h => exact nomatch h

/-- Only an update that commits changes the channels. -/
theorem channels_eq (h : Leads s chance r stage r' stage') (hc : ∀ o, stage ≠ .committing o) :
    r'.channels = r.channels := by
  cases h with
  | @asks l ps p _ _ =>
    obtain ⟨st, as, hp⟩ := progress_eq (r := r) s.service l.reading.opening.recipe p
    rw [hp]
  | @commits o => exact absurd rfl (hc o)
  | @commitsAtOnce o => exact absurd rfl (hc o)
  | _ => rfl

end Leads
end Reconciler

/-! ### One move among updates -/

/-- Nothing changes meanwhile but findings, and nothing but updates begins. -/
def Move.IsSteady (s : Surroundings) : Move → Prop
  | .update _ | .review _ | .abort .. | .edit (.setFindings ..) => True
  | .proceed _ _ s' => s' = s
  | _ => False

namespace Concurrent
variable {s : Surroundings} {c c' : Concurrent} {m : Move} {i : Nat} {o : Outcome}

/-- All that one move can lead to among updates while nothing changes but findings. -/
inductive Turn (s : Surroundings) (c : Concurrent) : Move → Concurrent → Prop
  | begins {m : Move} {us : List Uri} (hm : (∃ u, m = .update u ∧ us = [u]) ∨
      ∃ s', m = .review s' ∧ us = s'.reported c.reconciler.workspace) :
      Turn s c m (c.begin (us.map fun u => .update (.begun u)))
  | goesOn {i : Nat} {chance : Chance} {stage stage' : UpdateStage} {r : Reconciler}
      (hi : c.activities[i]? = some (.update stage))
      (hf : ∀ o, stage = .committing o → c.isFree o.recipe)
      (h : c.reconciler.Leads s chance stage r stage') :
      Turn s c (.proceed i chance s) ⟨r, c.activities.set i (.update stage')⟩
  /-- The recipe is not free. -/
  | waits {i : Nat} {chance : Chance} {o : Outcome} (hi : c.activities[i]? = some (.update (.committing o)))
      (hf : ¬ c.isFree o.recipe) : Turn s c (.proceed i chance s) c
  | breaksOff {i elapsed : Nat} {stage : UpdateStage} {st : Statistics}
      (hs : stage = .aborted ∨ ∃ result, stage = .ended result) :
      Turn s c (.abort i elapsed) ⟨{ c.reconciler with statistics := st }, c.activities.set i (.update stage)⟩
  /-- No activity has the number. -/
  | misses {m : Move} {i : Nat} (hm : (∃ elapsed, m = .abort i elapsed) ∨ ∃ chance, m = .proceed i chance s)
      (hi : c.activities[i]? = none) : Turn s c m c
  | reports {u : Uri} {fs : List Finding} : Turn s c (.edit (.setFindings u fs))
      ⟨c.reconciler.edit (.setFindings u fs), c.activities⟩

theorem turn_proceed (ha : ∀ a ∈ c.activities, ∃ stage, a = .update stage) (i : Nat) (chance : Chance) :
    Turn s c (.proceed i chance s) (c.proceed i chance s) := by
  unfold Concurrent.proceed
  split
  · next a hi =>
    obtain ⟨stage, rfl⟩ := ha a (List.mem_of_getElem? hi)
    split
    · next hf =>
      refine .goesOn hi (fun o ho => ?_) (Reconciler.leads_proceedUpdate stage)
      subst ho
      exact hf
    · next hf =>
      cases stage with
      | committing o => exact .waits hi hf
      | _ => exact absurd rfl hf
  · next hi => exact .misses (.inr ⟨chance, rfl⟩) hi

theorem turn_abort (ha : ∀ a ∈ c.activities, ∃ stage, a = .update stage) (i elapsed : Nat) :
    Turn s c (.abort i elapsed) (c.abort i elapsed) := by
  unfold Concurrent.abort
  split
  · next a hi =>
    obtain ⟨stage, rfl⟩ := ha a (List.mem_of_getElem? hi)
    cases stage with
    | ended result => exact .breaksOff (.inr ⟨result, rfl⟩)
    | _ => exact .breaksOff (.inl rfl)
  · next hi => exact .misses (.inl ⟨elapsed, rfl⟩) hi

theorem turn_step (ha : ∀ a ∈ c.activities, ∃ stage, a = .update stage) (hm : m.IsSteady s) :
    Turn s c m (c.step m) := by
  cases m with
  | update u => exact @Turn.begins s c _ [u] (.inl ⟨u, rfl, rfl⟩)
  | review s' => exact .begins (.inr ⟨s', rfl, rfl⟩)
  | clear => exact hm.elim
  | proceed i chance s' =>
    cases (show s' = s from hm)
    exact turn_proceed ha i chance
  | abort i elapsed => exact turn_abort ha i elapsed
  | edit e =>
    cases e with
    | setFindings u fs => exact .reports
    | _ => exact hm.elim
  | configure settings => exact hm.elim

/-- In the move an update makes its outcome the entry of its recipe. -/
def Commits (c : Concurrent) (i : Nat) (o : Outcome) (m : Move) : Prop :=
  c.activities[i]? = some (.update (.committing o)) ∧ c.isFree o.recipe ∧
    ∃ chance s, m = .proceed i chance s

namespace Turn

theorem channels_of_commits (h : Turn s c m c') (hc : c.Commits i o m) :
    c'.reconciler.channels = c.reconciler.channels.set o.language o.recipe o.diagnostics := by
  obtain ⟨hi, hfree, chance, s', rfl⟩ := hc
  cases h with
  | begins hm => simp at hm
  | goesOn hi' _ h =>
    rw [hi] at hi'
    cases hi'
    exact h.channels_of_commits
  | waits hi' hf =>
    rw [hi] at hi'
    cases hi'
    exact absurd hfree hf
  | misses hm hi' =>
    obtain ⟨_, hm⟩ := hm.resolve_left nofun
    cases hm
    exact nomatch hi.symm.trans hi'

theorem channels_eq (h : Turn s c m c') (hc : ∀ i o, ¬ c.Commits i o m) :
    c'.reconciler.channels = c.reconciler.channels := by
  cases h with
  | goesOn hi hf h =>
    refine h.channels_eq fun o ho => ?_
    subst ho
    exact hc _ o ⟨hi, hf o rfl, _, _, rfl⟩
  | _ => rfl

end Turn
end Concurrent
end RecipeDiag
