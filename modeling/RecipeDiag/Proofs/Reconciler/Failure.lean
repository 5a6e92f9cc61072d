import RecipeDiag.Proofs.Reconciler.Image

/-!
# What makes an update fail

`update_eq_error_iff`: an update fails exactly if its document cannot be read or one of the findings
breaks. The first of them in the list tells the failure, and nothing that is shown changes. A finding
that is dropped before the rules ask, or by a rule that does not ask, never is that finding.
-/

namespace RecipeDiag

namespace Assignment
variable {a : Assignment} {s : LanguageService} {f : Finding}

/-- Findings that nobody asks the definition of a symbol for. -/
theorem definitions_not_mem_questions_judge
    (h : ¬ (∃ c : Checker, f.comesFrom c.name) ∨
      (a.origins.mapRange a.recipeText a.generatedText f.range).value = none ∨
      f.isAlwaysIgnored ∨ f.isAnonymousFunction) (p : Position) :
    .definitions p ∉ (a.judge f).questions s a.recipe := by
  intro hq
  by_cases hr : f.isRecognized
  case neg =>
    rw [judge_of_unrecognized hr] at hq
    cases hq
  cases hm : (a.origins.mapRange a.recipeText a.generatedText f.range).value with
  | none =>
    rw [questions_judge_of_image hr hm] at hq
    cases hq
  | some range =>
    rcases h with h | h | h
    · exact h (isRecognized_iff.1 hr)
    · cases hm.symm.trans h
    · rw [questions_judge_of_image hr hm, judgeAt, Inquiry.questions_bind, Inquiry.questions_languageAt,
        Inquiry.run_languageAt] at hq
      rcases List.mem_append.1 hq with hq | hq
      · cases List.mem_singleton.1 hq
      · split at hq
        · split at hq
          · rw [questions_judgeByRules, Rule.questions_first_eq_nil (p := ⟨f, range, a.recipeText⟩) h] at hq
            cases hq
          · cases hq
        · cases hq

end Assignment

namespace Listing
variable {l : Listing} {w : Workspace} {service : LanguageService} {e : Fault}

/-- The finding that tells the failure is the first that breaks. -/
def FailsWith (l : Listing) (w : Workspace) (service : LanguageService) (e : Fault) : Prop :=
  ∃ before f after, w.findingsOf l.reading.document.uri = before ++ f :: after ∧
    (∀ f' ∈ before, ∀ e', ¬ l.assignment.Breaks service f' e') ∧ l.assignment.Breaks service f e

theorem verdicts_eq_error_iff : l.verdicts w service = .error e ↔ l.FailsWith w service e := by
  rw [verdicts, Reconciler.firstFailure_eq_error_iff, inquiries, List.map_map]
  constructor
  · rintro ⟨before', after', h, hb⟩
    obtain ⟨before, rest, hfs, rfl, hr⟩ := List.map_eq_append_iff.1 h
    obtain ⟨f, after, rfl, hf, -⟩ := List.map_eq_cons_iff.1 hr
    refine ⟨before, f, after, hfs, fun f' hf' e' hbr => ?_, Assignment.run_judge_eq_error_iff.1 hf⟩
    exact hb _ (List.mem_map_of_mem hf') e' (Assignment.run_judge_eq_error_iff.2 hbr)
  · rintro ⟨before, f, after, hfs, hb, hf⟩
    rw [hfs, List.map_append, List.map_cons]
    refine ⟨_, _, congrArg _ (congrArg (· :: _) (Assignment.run_judge_eq_error_iff.2 hf)), ?_⟩
    intro x hx e' he'
    obtain ⟨f', hf', rfl⟩ := List.mem_map.1 hx
    exact hb f' hf' e' (Assignment.run_judge_eq_error_iff.1 he')

/-- Whenever some finding breaks there is a first one. -/
theorem exists_failsWith_iff : (∃ e, l.FailsWith w service e) ↔
    ∃ f ∈ w.findingsOf l.reading.document.uri, ∃ e, l.assignment.Breaks service f e := by
  unfold FailsWith
  constructor
  · rintro ⟨e, before, f, after, hfs, -, hf⟩
    exact ⟨f, by simp [hfs], e, hf⟩
  · generalize w.findingsOf l.reading.document.uri = fs
    rintro ⟨f, hf, e, hb⟩
    -- if the head breaks it is the first to do so, else the first of the tail is
    induction fs with
    | nil => simp at hf
    | cons f' fs ih =>
      by_cases hf' : ∃ e', l.assignment.Breaks service f' e'
      · obtain ⟨e', he'⟩ := hf'
        exact ⟨e', [], f', fs, rfl, by simp, he'⟩
      · obtain ⟨e₁, before, f₁, after, rfl, hbefore, h₁⟩ :=
          ih ((List.mem_cons.1 hf).resolve_left fun h => hf' ⟨e, h ▸ hb⟩)
        refine ⟨e₁, f' :: before, f₁, after, rfl, ?_, h₁⟩
        exact List.forall_mem_cons.2 ⟨fun e' he' => hf' ⟨e', he'⟩, hbefore⟩

end Listing

namespace Reconciler
variable {r : Reconciler} {s : Surroundings} {u : Uri} {g : Reading} {e : Fault}

theorem outcome_eq_error_iff (h : r.Admits u g) : r.outcome s u = .error e ↔
    r.registry.read s.files g.document.uri = .error e ∨
      ∃ text, r.registry.read s.files g.document.uri = .ok text ∧
        (⟨g, text⟩ : Listing).FailsWith r.workspace s.service e := by
  simp only [outcome_of_admits h, ← Listing.verdicts_eq_error_iff]
  cases r.registry.read s.files g.document.uri with
  | error e' => simp [Except.bind]
  | ok text =>
    cases hv : (⟨g, text⟩ : Listing).verdicts r.workspace s.service <;>
      simp [Except.bind, Except.map, hv]

/-- The failure of an update is that of the reading, else that of the first finding that breaks. -/
theorem snd_update_eq_error_iff : (r.update s u).2 = .error e ↔ ∃ g, r.Admits u g ∧
    (r.registry.read s.files g.document.uri = .error e ∨
      ∃ text, r.registry.read s.files g.document.uri = .ok text ∧
        (⟨g, text⟩ : Listing).FailsWith r.workspace s.service e) := by
  obtain ⟨st, as, h⟩ := update_eq r s u
  have hmap : (r.update s u).2 = .error e ↔ r.outcome s u = .error e := by
    rw [h]
    cases r.outcome s u <;> simp [Except.map]
  rw [hmap]
  constructor
  · intro ho
    have hs : ¬ r.Skips u := fun hs => nomatch (outcome_of_skips hs).symm.trans ho
    obtain ⟨g, hg⟩ := not_skips_iff.1 hs
    exact ⟨g, hg, (outcome_eq_error_iff hg).1 ho⟩
  · rintro ⟨g, hg, ho⟩
    exact (outcome_eq_error_iff hg).2 ho

/-- A failed update only counts and asks. -/
theorem update_of_error (h : (r.update s u).2 = .error e) :
    ∃ st as, (r.update s u).1 = { r with statistics := st, asked := as } := by
  obtain ⟨st, as, hu⟩ := update_eq r s u
  rw [hu] at h ⊢
  cases ho : r.outcome s u with
  | ok o => rw [ho] at h; cases h
  | error e' => exact ⟨st, as, rfl⟩

/-- An update fails exactly if it has something to work on and the document cannot be read or a
finding about it breaks; the failure is that of the reading, else that of the first such finding. A
failed update leaves both channels, everything published and the registry alone. Findings of no
checker, without an origin, about layout or about the wrapper of anonymous functions are never asked
the definition of a symbol for. -/
theorem update_eq_error_iff (r : Reconciler) (s : Surroundings) (u : Uri) :
    ((∃ e, (r.update s u).2 = .error e) ↔ ∃ g, r.Admits u g ∧
      ((∃ e, r.registry.read s.files g.document.uri = .error e) ∨
        ∃ text, r.registry.read s.files g.document.uri = .ok text ∧
          ∃ f ∈ r.workspace.findingsOf g.document.uri, ∃ e,
            (⟨g, text⟩ : Listing).assignment.Breaks s.service f e)) ∧
    (∀ e, (r.update s u).2 = .error e ↔ ∃ g, r.Admits u g ∧
      (r.registry.read s.files g.document.uri = .error e ∨
        ∃ text, r.registry.read s.files g.document.uri = .ok text ∧
          (⟨g, text⟩ : Listing).FailsWith r.workspace s.service e)) ∧
    (∀ e, (r.update s u).2 = .error e → (r.update s u).1.channels = r.channels ∧
      (r.update s u).1.published = r.published ∧ (r.update s u).1.registry = r.registry) ∧
    ∀ (a : Assignment) (f : Finding), (¬ (∃ c : Checker, f.comesFrom c.name) ∨
        (a.origins.mapRange a.recipeText a.generatedText f.range).value = none ∨
        f.isAlwaysIgnored ∨ f.isAnonymousFunction) →
      ∀ p, .definitions p ∉ (a.judge f).questions s.service a.recipe := by
  refine ⟨⟨?_, ?_⟩, fun e => snd_update_eq_error_iff, fun e he => ?_,
    fun a f hf p => Assignment.definitions_not_mem_questions_judge hf p⟩
  · rintro ⟨e, he⟩
    obtain ⟨g, hg, hr | ⟨text, hr, hf⟩⟩ := snd_update_eq_error_iff.1 he
    · exact ⟨g, hg, .inl ⟨e, hr⟩⟩
    · exact ⟨g, hg, .inr ⟨text, hr, Listing.exists_failsWith_iff.1 ⟨e, hf⟩⟩⟩
  · rintro ⟨g, hg, ⟨e, hr⟩ | ⟨text, hr, hb⟩⟩
    · exact ⟨e, snd_update_eq_error_iff.2 ⟨g, hg, .inl hr⟩⟩
    · obtain ⟨e, hf⟩ := (Listing.exists_failsWith_iff (l := ⟨g, text⟩)).2 hb
      exact ⟨e, snd_update_eq_error_iff.2 ⟨g, hg, .inr ⟨text, hr, hf⟩⟩⟩
  · obtain ⟨st, as, h⟩ := update_of_error he
    rw [h]
    exact ⟨rfl, rfl, rfl⟩

end Reconciler
end RecipeDiag
