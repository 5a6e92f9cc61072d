import RecipeDiag.Proofs.Reconciler.Locality
import RecipeDiag.Proofs.Reconciler.Operation
import RecipeDiag.Proofs.Reconciler.Transition

/-!
# What may be shown

A diagnostic may be shown in a language if its source names a checker and that language, and if
neither its code nor its message is one of those that only report the embedding (`Presentable`). The
finding is checked, but the diagnostic is shown: the source is longer by then, which adds no name of a
checker (`occursIn_source_iff`), and the message may be reworded, but not that of a finding without
a code.

Every verdict is presentable, whatever is answered on the way to it (`Assignment.yields_presentable`).
Channels, publications and all that activities still have in hand stay so, in runs of operations and
in interleavings (`presentable_of_mem_published`).
-/

namespace RecipeDiag

/-! ### Diagnostics and what is made of them -/

/-- The code is the identifier, possibly with a symbolic name behind a colon. -/
def CodeValue.IsNamed (v : CodeValue) (id : String) : Prop :=
  v.asText = id ∨ ∃ symbol, v.asText = id ++ ":" ++ symbol

/-- Whether the source names a tool. -/
def Diagnostic.comesFrom (d : Diagnostic) (tool : String) : Bool :=
  Text.occursIn tool.toList d.source.toList

structure Diagnostic.Presentable (l : Language) (d : Diagnostic) : Prop where
  source : ∃ s, d.source = s ++ ", " ++ l.channelName ∧
    ∃ c : Checker, Text.occursIn c.name.toList s.toList
  code : ∀ c id v, (c, id) ∈ alwaysIgnoredCodes → d.comesFrom c.name → d.code = some v → ¬ v.IsNamed id
  message : d.comesFrom Checker.pylance.name → d.code = none → d.message ≠ anonymousMessage

def Verdict.Presentable (l : Language) (v : Verdict) : Prop :=
  ∀ d, v.diagnostic? = some d → d.Presentable l

def Outcome.Presentable (o : Outcome) : Prop := ∀ d ∈ o.diagnostics, d.Presentable o.language

/-- The diagnostics of the shell channel come first. -/
def Publication.Presentable (p : Publication) : Prop :=
  ∃ shell python, p.diagnostics = shell ++ python ∧
    (∀ d ∈ shell, d.Presentable .bash) ∧ ∀ d ∈ python, d.Presentable .python

theorem Verdict.presentable_dropped {l : Language} (reason : DropReason) :
    (dropped reason).Presentable l := by
  intro d h
  cases h

theorem Publication.presentable_nil (recipe : Uri) : (Publication.mk recipe []).Presentable :=
  ⟨[], [], rfl, List.forall_mem_nil _, List.forall_mem_nil _⟩

/-! ### From the finding to the diagnostic -/

theorem Code.isNamed_iff {c : Code} {id : String} : c.isNamed id ↔ c.value.IsNamed id := by
  simp only [isNamed, CodeValue.IsNamed]
  show _ ↔ c.asText = id ∨ ∃ symbol, c.asText = id ++ ":" ++ symbol
  constructor
  · intro h
    split at h
    · next rest hr =>
      have hr := Text.dropPrefix?_eq_some_iff.1 hr
      cases rest with
      | nil => exact .inl (String.toList_inj.1 (by simpa using hr))
      | cons x rest =>
        have hx : x = ':' := by simpa using h
        subst hx
        exact .inr ⟨String.ofList rest, String.toList_inj.1 (by simpa using hr)⟩
    · cases h
  · rintro (h | ⟨symbol, h⟩)
    · have hd : Text.dropPrefix? id.toList c.asText.toList = some [] :=
        Text.dropPrefix?_eq_some_iff.2 (by simp [h])
      rw [hd]
      rfl
    · have hd : Text.dropPrefix? id.toList c.asText.toList = some (':' :: symbol.toList) :=
        Text.dropPrefix?_eq_some_iff.2 (by simp [h])
      rw [hd]
      rfl

namespace Assignment
variable {a : Assignment} {f : Finding} {r : Range} {l : Language}

/-- No checker is named by what is put behind a source. -/
theorem occursIn_source_iff (c : Checker) (l : Language) (s : String) :
    Text.occursIn c.name.toList (s ++ ", " ++ l.channelName).toList ↔
      Text.occursIn c.name.toList s.toList := by
  have hcut : (s ++ ", " ++ l.channelName).toList = s.toList ++ ',' :: ' ' :: l.channelName.toList := by
    simp
  have hcomma : ',' ∉ c.name.toList := by cases c <;> decide
  have hsuffix : Text.occursIn c.name.toList (' ' :: l.channelName.toList) = false := by
    cases c <;> cases l <;> decide
  rw [hcut, Text.occursIn_append_cons_iff hcomma, hsuffix]
  simp

theorem comesFrom_diagnosticOf (c : Checker) :
    (a.diagnosticOf f r).comesFrom c.name ↔ f.comesFrom c.name :=
  occursIn_source_iff c a.language f.sourceText

/-- Only a finding with a code is reworded. -/
theorem message_of_code_eq_none {threshold : UInt32} (h : f.code = none) :
    ImportNote.message f threshold = f.message := by
  have hw : ImportNote.warnings.find? (fun w => f.isReport w.checker.name w.code) = none := by
    simp [Finding.isReport, h]
  unfold ImportNote.message
  rw [hw]

theorem presentable_diagnosticOf (hr : f.isRecognized) (hi : f.isAlwaysIgnored = false)
    (ha : f.isAnonymousFunction = false) : (a.diagnosticOf f r).Presentable a.language where
  source := ⟨f.sourceText, rfl, isRecognized_iff.1 hr⟩
  code c id v hc hs hv hn := by
    obtain ⟨code, hcode, rfl⟩ := Option.map_eq_some_iff.1 hv
    have hreport : f.isReport c.name id := by
      rw [Finding.isReport, comesFrom_diagnosticOf c |>.1 hs, hcode]
      exact Code.isNamed_iff.2 hn
    have hany : f.isAlwaysIgnored = true := List.any_eq_true.2 ⟨(c, id), hc, hreport⟩
    exact absurd hany (by simp [hi])
  message hs hc hm := by
    have hcode : f.code = none := Option.map_eq_none_iff.1 hc
    have hsource := (comesFrom_diagnosticOf .pylance).1 hs
    have hmessage : f.message = anonymousMessage := (message_of_code_eq_none hcode).symm.trans hm
    exact absurd ha (by simp [Finding.isAnonymousFunction, hsource, hcode, hmessage])

end Assignment

theorem Assignment.yields_presentable (a : Assignment) (f : Finding) :
    (a.judge f).Yields (Verdict.Presentable a.language) := by
  refine yields_judge Verdict.presentable_dropped fun range hr hi ha d hd => ?_
  cases hd
  exact presentable_diagnosticOf hr hi ha

/-! ### What is held and what was shown -/

namespace Listing
variable {l : Listing} {w : Workspace} {vs : List Verdict}

theorem presentable_outcome (h : ∀ v ∈ vs, v.Presentable l.reading.opening.language) :
    (l.outcome vs).Presentable := by
  intro d hd
  obtain ⟨v, hv, hvd⟩ := List.mem_filterMap.1 hd
  exact h v hv d hvd

theorem presentable_verdicts {service : LanguageService} (h : l.verdicts w service = .ok vs) :
    ∀ v ∈ vs, v.Presentable l.reading.opening.language := by
  have hruns := verdicts_eq_ok_iff.1 h
  intro v hv
  have hmem : (Except.ok v : Except Fault Verdict) ∈ vs.map Except.ok := List.mem_map_of_mem hv
  rw [← hruns] at hmem
  obtain ⟨f, -, hf⟩ := List.mem_map.1 hmem
  exact (l.assignment.yields_presentable f).of_run hf

end Listing

namespace Reconciler
variable {r r' : Reconciler} {s : Surroundings} {o : Outcome} {p : Publication} {u : Uri}

/-- All that is held and all that was shown may be shown. -/
structure Presentable (r : Reconciler) : Prop where
  held : ∀ l recipe ds, (r.channels.channel l).get? recipe = some ds → ∀ d ∈ ds, d.Presentable l
  shown : ∀ p ∈ r.published, p.Presentable

theorem presentable_outcome (h : r.outcome s u = .ok (some o)) : o.Presentable := by
  obtain ⟨g, hg, -, -⟩ := admits_of_outcome h
  obtain ⟨text, vs, -, hv, ho⟩ := (outcome_eq_ok_iff hg).1 h
  cases ho
  exact Listing.presentable_outcome (Listing.presentable_verdicts hv)

namespace Presentable

theorem start (w : Workspace) (g : Registry) : (start w g).Presentable where
  held l recipe ds h := by
    rw [show (Reconciler.start w g).channels = .empty from rfl, Channels.get?_channel_empty] at h
    cases h
  shown p hp := nomatch hp

theorem congr (h : r.Presentable) (hc : r'.channels = r.channels) (hp : r'.published = r.published) :
    r'.Presentable where
  held := by
    rw [hc]
    exact h.held
  shown := by
    rw [hp]
    exact h.shown

theorem diagnostics (h : r.Presentable) (l : Language) (recipe : Uri) :
    ∀ d ∈ (r.channels.channel l).diagnostics recipe, d.Presentable l := by
  unfold Channel.diagnostics
  cases hd : (r.channels.channel l).get? recipe with
  | none => exact fun d hd => nomatch hd
  | some ds => exact h.held l recipe ds hd

theorem holding (h : r.Presentable) (recipe : Uri) : (r.holding recipe).Presentable :=
  ⟨_, _, rfl, h.diagnostics .bash recipe, h.diagnostics .python recipe⟩

theorem commit (h : r.Presentable) (ho : o.Presentable) : (r.commit o).Presentable where
  held l recipe ds hds := by
    rw [show (r.commit o).channels = r.channels.set o.language o.recipe o.diagnostics from rfl,
      Channels.get?_channel_set] at hds
    split at hds
    · next hk =>
      cases hds
      rw [hk.1]
      exact ho
    · exact h.held l recipe ds hds
  shown := h.shown

theorem forget (h : r.Presentable) (recipe : Uri) : (r.forget recipe).Presentable where
  held l recipe' ds hds := by
    rw [show (r.forget recipe).channels = r.channels.remove recipe from rfl,
      Channels.get?_channel_remove] at hds
    split at hds
    · cases hds
    · exact h.held l recipe' ds hds
  shown := h.shown

theorem publish (h : r.Presentable) (hp : p.Presentable) : (r.publish p).Presentable where
  held := h.held
  shown q hq := by
    rcases List.mem_append.1 hq with hq | hq
    · exact h.shown q hq
    · rw [List.mem_singleton.1 hq]
      exact hp

theorem settle (h : r.Presentable) (ho : o.Presentable) : (r.settle o).Presentable :=
  (h.commit ho).publish ((h.commit ho).holding o.recipe)

theorem withdraw (h : r.Presentable) (recipe : Uri) : (r.withdraw recipe).Presentable :=
  (h.forget recipe).publish (Publication.presentable_nil recipe)

theorem update (h : r.Presentable) (s : Surroundings) (u : Uri) : (r.update s u).1.Presentable := by
  obtain ⟨st, as, hu⟩ := update_eq r s u
  rw [hu]
  refine congr (r := r.takeOver (r.outcome s u)) ?_ rfl rfl
  unfold takeOver
  split
  · next o ho => exact h.settle (presentable_outcome ho)
  · exact h

theorem edit (h : r.Presentable) (e : Edit) : (r.edit e).Presentable := by
  cases e <;> exact h.congr rfl rfl

theorem perform (h : r.Presentable) (op : Operation) : (r.perform op).Presentable := by
  cases op with
  | update s u => exact h.update s u
  | review s => exact updateAll_induction h (fun _ u h => h.update s u) _
  | clear => exact clear_induction h fun _ recipe h => h.withdraw recipe
  | edit e => exact h.edit e
  | configure settings => exact h.congr rfl rfl

end Presentable
end Reconciler

/-! ### What activities have in hand -/

def Progress.Presentable (l : Language) : Progress → Prop
  | asking q => q.Yields (Verdict.Presentable l)
  | reached v => v.Presentable l
  | failed _ => True

/-- All that is left to show of an activity may be shown. -/
def Activity.Presentable : Activity → Prop
  | update (.judging l ps) => ∀ p ∈ ps, p.Presentable l.reading.opening.language
  | update (.committing o) => o.Presentable
  | update (.publishing p) => p.Presentable
  | _ => True

namespace Progress
variable {l : Language} {p : Progress} {ps : List Progress}

theorem Presentable.progress (h : p.Presentable l) (r : Reconciler) (service : LanguageService)
    (recipe : Uri) : (r.progress service recipe p).2.Presentable l := by
  cases p with
  | reached v => exact h
  | failed e => trivial
  | asking q =>
    cases h with
    | done h => exact h
    | @askLanguage pos next h =>
      simp only [Reconciler.progress]
      cases service.languageAt recipe pos with
      | ok language => exact h language
      | error e => trivial
    | @askDefinitions pos next h =>
      simp only [Reconciler.progress]
      cases service.definitions recipe pos with
      | ok found => exact h found
      | error e => trivial
    | overflow h => exact h

theorem exists_result?_of_mapM_result? {xs : List (Except Fault Verdict)}
    (h : ps.mapM result? = some xs) : ∀ x ∈ xs, ∃ p ∈ ps, p.result? = some x := by
  induction ps generalizing xs with
  | nil =>
    cases h
    exact fun x hx => nomatch hx
  | cons p ps ih =>
    simp only [List.mapM_cons, Option.pure_def, Option.bind_eq_bind, Option.bind_eq_some_iff,
      Option.some.injEq] at h
    obtain ⟨y, hy, ys, hys, rfl⟩ := h
    intro x hx
    rcases List.mem_cons.1 hx with rfl | hx
    · exact ⟨p, List.mem_cons_self .., hy⟩
    · obtain ⟨p', hp', hx'⟩ := ih hys x hx
      exact ⟨p', List.mem_cons_of_mem p hp', hx'⟩

theorem presentable_of_mapM_result? {xs : List (Except Fault Verdict)} {vs : List Verdict}
    (h : ∀ p ∈ ps, p.Presentable l) (hx : ps.mapM result? = some xs)
    (hvs : Reconciler.firstFailure xs = .ok vs) : ∀ v ∈ vs, v.Presentable l := by
  intro v hv
  have hmem : .ok v ∈ xs := by
    rw [Reconciler.firstFailure_eq_ok_iff.1 hvs]
    exact List.mem_map_of_mem hv
  obtain ⟨p, hp, hpv⟩ := exists_result?_of_mapM_result? hx _ hmem
  cases p with
  | reached v' =>
    cases hpv
    exact h _ hp
  | asking q => cases hpv
  | failed e => cases hpv

end Progress

namespace Reconciler
variable {r r' : Reconciler} {s : Surroundings} {chance : Chance} {stage stage' : UpdateStage}

theorem Leads.presentable (h : r.Leads s chance stage r' stage') (hr : r.Presentable)
    (hs : (Activity.update stage).Presentable) :
    r'.Presentable ∧ (Activity.update stage').Presentable := by
  cases h with
  | opens | skips | finds | misses | lists => exact ⟨hr, trivial⟩
  | failsToList | failsToJudge | finishes => exact ⟨hr.congr rfl rfl, trivial⟩
  | @takesUp l =>
    refine ⟨hr, fun p hp => ?_⟩
    obtain ⟨q, hq, rfl⟩ := List.mem_map.1 hp
    obtain ⟨f, -, rfl⟩ := List.mem_map.1 hq
    exact l.assignment.yields_presentable f
  | @asks l ps p hx hp =>
    obtain ⟨st, as, heq⟩ := progress_eq (r := r) s.service l.reading.opening.recipe p
    refine ⟨?_, fun p' hp' => ?_⟩
    · rw [heq]
      exact hr.congr rfl rfl
    · rcases List.mem_or_eq_of_mem_set hp' with hp' | rfl
      · exact hs p' hp'
      · exact (hs p (List.mem_of_getElem? hp)).progress r s.service _
  | idles => exact ⟨hr, hs⟩
  | concludes hx hvs =>
    exact ⟨hr.congr rfl rfl, Listing.presentable_outcome (Progress.presentable_of_mapM_result? hs hx hvs)⟩
  | commits => exact ⟨hr.commit hs, (hr.commit hs).holding _⟩
  | commitsAtOnce => exact ⟨(hr.commit hs).publish ((hr.commit hs).holding _), trivial⟩
  | publishes => exact ⟨hr.publish hs, trivial⟩
  | rests => exact ⟨hr, hs⟩

theorem Presentable.proceed (hr : r.Presentable) (s : Surroundings) (chance : Chance) {a : Activity}
    (ha : a.Presentable) :
    (r.proceed s chance a).1.Presentable ∧ (r.proceed s chance a).2.Presentable := by
  cases a with
  | update stage => exact (leads_proceedUpdate stage).presentable hr ha
  | clear stage =>
    cases stage with
    | clearing recipes =>
      simp only [Reconciler.proceed, proceedClear]
      split
      · next recipe _ =>
        split
        · exact ⟨(hr.forget recipe).publish (Publication.presentable_nil recipe), trivial⟩
        · exact ⟨hr.forget recipe, trivial⟩
      · exact ⟨hr, trivial⟩
    | withdrawing recipe others => exact ⟨hr.publish (Publication.presentable_nil recipe), trivial⟩
    | withdrawn recipe others => exact ⟨hr, trivial⟩

theorem Presentable.abort (hr : r.Presentable) (elapsed : Nat) (a : Activity) :
    (r.abort elapsed a).1.Presentable ∧ (r.abort elapsed a).2.Presentable := by
  cases a with
  | clear stage => exact ⟨hr, trivial⟩
  | update stage =>
    cases stage with
    | ended result => exact ⟨hr, trivial⟩
    | _ => exact ⟨hr.congr rfl rfl, trivial⟩

end Reconciler

namespace Concurrent
variable {c : Concurrent}

structure Presentable (c : Concurrent) : Prop where
  reconciler : c.reconciler.Presentable
  activities : ∀ a ∈ c.activities, a.Presentable

namespace Presentable

theorem quiet {r : Reconciler} (h : r.Presentable) : (quiet r).Presentable :=
  ⟨h, List.forall_mem_nil _⟩

theorem begin (h : c.Presentable) {as : List Activity} (has : ∀ a ∈ as, a.Presentable) :
    (c.begin as).Presentable where
  reconciler := h.reconciler
  activities a ha := (List.mem_append.1 ha).elim (h.activities a) (has a)

theorem set (h : c.Presentable) {r : Reconciler} {a : Activity} (i : Nat) (hr : r.Presentable)
    (ha : a.Presentable) : (⟨r, c.activities.set i a⟩ : Concurrent).Presentable where
  reconciler := hr
  activities b hb := by
    rcases List.mem_or_eq_of_mem_set hb with hb | rfl
    · exact h.activities b hb
    · exact ha

theorem step (h : c.Presentable) (m : Move) : (c.step m).Presentable := by
  cases m with
  | update generated => exact h.begin (by simp [Activity.Presentable])
  | review s => exact h.begin (by simp [Activity.Presentable])
  | clear => exact h.begin (by simp [Activity.Presentable])
  | proceed i chance s =>
    show (c.proceed i chance s).Presentable
    unfold Concurrent.proceed
    split
    · next a hi =>
      split
      · have hp := h.reconciler.proceed s chance (h.activities a (List.mem_of_getElem? hi))
        exact h.set i hp.1 hp.2
      · exact h
    · exact h
  | abort i elapsed =>
    show (c.abort i elapsed).Presentable
    unfold Concurrent.abort
    split
    · next a hi =>
      have hp := h.reconciler.abort elapsed a
      exact h.set i hp.1 hp.2
    · exact h
  | edit e => exact ⟨h.reconciler.edit e, h.activities⟩
  | configure settings => exact ⟨h.reconciler.congr rfl rfl, h.activities⟩

theorem run (h : c.Presentable) (moves : List Move) : (c.run moves).Presentable := by
  induction moves generalizing c with
  | nil => exact h
  | cons m moves ih => exact ih (h.step m)

end Presentable
end Concurrent

/-- Whatever the documents, the editor's reports and the answers of the tooling are: all that is ever
published consists of presentable diagnostics, those of the shell channel before those of the Python
channel. This holds of operations that are done one after the other and of any interleaving of
updates, reviews and clearings, even if some of them are broken off. -/
theorem presentable_of_mem_published (w : Workspace) (g : Registry) :
    (∀ ops, ∀ p ∈ ((Reconciler.start w g).performAll ops).published, p.Presentable) ∧
    ∀ moves, ∀ p ∈ ((Concurrent.quiet (.start w g)).run moves).reconciler.published,
      p.Presentable := by
  have hstart := Reconciler.Presentable.start w g
  constructor
  · intro ops
    exact (Reconciler.performAll_induction hstart (fun _ op h => h.perform op) ops).shown
  · intro moves
    exact ((Concurrent.Presentable.quiet hstart).run moves).reconciler.shown

open Reconciler.Sample in
theorem presentable_of_mem_published_of_script :
    (∃ p ∈ (idle.performAll [.update surroundings script]).published,
      p.diagnostics ≠ [] ∧ p.Presentable) ∧
    ∃ p ∈ ((Concurrent.quiet idle).run Concurrent.crossing).reconciler.published,
      p.diagnostics ≠ [] ∧ p.Presentable := by
  obtain ⟨hops, hmoves⟩ := presentable_of_mem_published workspace (.ofList [document])
  have hone : ∃ p ∈ (idle.performAll [.update surroundings script]).published, p.diagnostics ≠ [] := by
    decide +kernel
  have hother : ∃ p ∈ ((Concurrent.quiet idle).run Concurrent.crossing).reconciler.published,
      p.diagnostics ≠ [] := by
    decide +kernel
  obtain ⟨p, hp, hne⟩ := hone
  obtain ⟨q, hq, hqne⟩ := hother
  exact ⟨⟨p, hp, hne, hops _ p hp⟩, q, hq, hqne, hmoves _ q hq⟩

end RecipeDiag
