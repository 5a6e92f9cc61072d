import RecipeDiag.Proofs.Rule.Chain
import RecipeDiag.Reconciler.Verdict

/-!
# What is shown of a finding

`Assignment.Shows` says which diagnostic a finding is shown as, if it is shown at all, and
`Assignment.Breaks` which failure of the tooling it runs into. `judge` decides both:
`diagnostic?_eq_some_iff` for an inquiry that comes to a verdict, `run_judge_eq_error_iff` for one
that fails.
-/

namespace RecipeDiag
namespace Rule
variable {s : LanguageService} {recipe : Uri} {p : PlacedFinding} {q : Question}

theorem exists_definitions_of_mem_questions_applies {rule : Rule}
    (h : q ∈ (rule.applies p).questions s recipe) : ∃ pos, q = .definitions pos := by
  cases rule with
  | alwaysIgnoredCode => simp [applies] at h
  | anonymousFunction => simp [applies] at h
  | definedVariable =>
    simp only [applies] at h
    split at h
    · rw [Inquiry.questions_bind, Inquiry.questions_definitionsAt] at h
      exact ⟨_, by split at h <;> simpa using h⟩
    · simp at h
  | assignedShellVariable =>
    simp only [applies] at h
    split at h
    · rw [Inquiry.questions_bind, Inquiry.questions_definitionsAt] at h
      exact ⟨_, by split at h <;> simpa using h⟩
    · simp at h

/-- The rules only ever ask where something is defined. -/
theorem exists_definitions_of_mem_questions_firstOf (rules : List Rule)
    (h : q ∈ (firstOf p rules).questions s recipe) : ∃ pos, q = .definitions pos := by
  induction rules with
  | nil => simp [firstOf] at h
  | cons rule rules ih =>
    rw [questions_firstOf_cons, List.mem_append] at h
    rcases h with h | h
    · exact exists_definitions_of_mem_questions_applies h
    · split at h
      · exact ih h
      · simp at h

end Rule

namespace Assignment
variable {a : Assignment} {s : LanguageService} {f : Finding} {d : Diagnostic} {e : Fault}
  {range : Range} {v : Verdict}

/-- The finding is shown as the diagnostic. -/
structure Shows (a : Assignment) (s : LanguageService) (f : Finding) (d : Diagnostic) : Prop where
  recognized : ∃ c : Checker, f.comesFrom c.name
  mapped : (a.origins.mapRange a.recipeText a.generatedText f.range).value = some d.range
  language : s.languageAt a.recipe d.range.start = .ok (some a.language)
  unmatched : ∀ rule : Rule, ¬ rule.Matches s a.recipe ⟨f, d.range, a.recipeText⟩
  message : d.message = ImportNote.message f a.importLineThreshold
  source : d.source = f.sourceText ++ ", " ++ a.language.channelName
  severity : d.severity = f.severity
  code : d.code = f.code.map Code.value
  link : d.link = f.code.bind Code.link
  tags : d.tags = f.tags

/-- The finding runs into a question that is refused: which language its place has, or, if that is
the language of the document, where a symbol is defined that one of the rules asks about. -/
inductive Breaks (a : Assignment) (s : LanguageService) (f : Finding) (e : Fault) : Prop
  | language {range : Range} (recognized : ∃ c : Checker, f.comesFrom c.name)
      (mapped : (a.origins.mapRange a.recipeText a.generatedText f.range).value = some range)
      (refused : s.languageAt a.recipe range.start = .error e)
  | definitions {range : Range} {p : Position} (recognized : ∃ c : Checker, f.comesFrom c.name)
      (mapped : (a.origins.mapRange a.recipeText a.generatedText f.range).value = some range)
      (language : s.languageAt a.recipe range.start = .ok (some a.language))
      (asked : .definitions p ∈ (Rule.first ⟨f, range, a.recipeText⟩).questions s a.recipe)
      (refused : s.definitions a.recipe p = .error e)

theorem isRecognized_iff : f.isRecognized ↔ ∃ c : Checker, f.comesFrom c.name := by
  simp only [Finding.isRecognized, List.any_eq_true]
  exact ⟨fun ⟨c, _, h⟩ => ⟨c, h⟩, fun ⟨c, h⟩ => ⟨c, by cases c <;> simp [Checker.all], h⟩⟩

/-- A finding is shown as one diagnostic at most. -/
theorem Shows.unique {d' : Diagnostic} (h : a.Shows s f d) (h' : a.Shows s f d') : d = d' := by
  have hr : d.range = d'.range := Option.some.inj (h.mapped.symm.trans h'.mapped)
  obtain ⟨range, severity, code, link, source, message, tags⟩ := d
  obtain ⟨range', severity', code', link', source', message', tags'⟩ := d'
  obtain ⟨-, -, -, -, h1, h2, h3, h4, h5, h6⟩ := h
  obtain ⟨-, -, -, -, h1', h2', h3', h4', h5', h6'⟩ := h'
  simp only at *
  subst hr h1 h2 h3 h4 h5 h6 h1' h2' h3' h4' h5' h6'
  rfl

/-! ### The stages of `judge` -/

theorem judge_of_unrecognized (h : ¬ f.isRecognized) :
    a.judge f = pure (.dropped .unrecognizedSource) := by
  simp [judge, h]

/-- Past the check of the language the rules decide. -/
def judgeByRules (a : Assignment) (f : Finding) (range : Range) : Inquiry Verdict := do
  match ← Rule.first ⟨f, range, a.recipeText⟩ with
  | some rule => return .dropped (.ignored rule)
  | none => return .kept (a.diagnosticOf f range) ((a.diagnosticOf f range).message ≠ f.message)

/-- Decides what becomes of a finding from a checker by the image of its range. -/
def judgeAt (a : Assignment) (f : Finding) : Option Range → Inquiry Verdict
  | none => return .dropped .unmapped
  | some range => do
    let language ← Inquiry.languageAt range.start
    if language = some a.language then a.judgeByRules f range else return .dropped .languageMismatch

theorem judge_of_recognized (h : f.isRecognized) : a.judge f =
    Inquiry.reckon (a.origins.mapRange a.recipeText a.generatedText f.range) >>= a.judgeAt f := by
  simp only [judge, h, Bool.not_true, Bool.false_eq_true, if_false, ite_not]
  rfl

section
variable {image : Option Range} (h : f.isRecognized)
  (hm : (a.origins.mapRange a.recipeText a.generatedText f.range).value = image)
include h hm

theorem run_judge_of_image : (a.judge f).run s a.recipe = (a.judgeAt f image).run s a.recipe := by
  rw [judge_of_recognized h, Inquiry.run_bind, Inquiry.run_reckon, hm]
  rfl

theorem questions_judge_of_image :
    (a.judge f).questions s a.recipe = (a.judgeAt f image).questions s a.recipe := by
  rw [judge_of_recognized h, Inquiry.questions_bind, Inquiry.run_reckon, Inquiry.questions_reckon, hm]
  rfl

end

theorem run_judgeByRules : (a.judgeByRules f range).run s a.recipe =
    ((Rule.first ⟨f, range, a.recipeText⟩).run s a.recipe).map fun
      | some rule => .dropped (.ignored rule)
      | none => .kept (a.diagnosticOf f range) ((a.diagnosticOf f range).message ≠ f.message) := by
  rw [judgeByRules, Inquiry.run_bind]
  cases (Rule.first ⟨f, range, a.recipeText⟩).run s a.recipe with
  | ok o => cases o <;> rfl
  | error e => rfl

theorem questions_judgeByRules : (a.judgeByRules f range).questions s a.recipe =
    (Rule.first ⟨f, range, a.recipeText⟩).questions s a.recipe := by
  rw [judgeByRules, Inquiry.questions_bind]
  cases (Rule.first ⟨f, range, a.recipeText⟩).run s a.recipe with
  | ok o => cases o <;> simp
  | error e => simp

/-- Whatever is answered, a finding is dropped, or kept if it is from a checker and neither about layout
nor about the wrapper of an anonymous function. -/
theorem yields_judge {P : Verdict → Prop} (hdropped : ∀ reason, P (.dropped reason))
    (hkept : ∀ range, f.isRecognized → f.isAlwaysIgnored = false → f.isAnonymousFunction = false →
      P (.kept (a.diagnosticOf f range) ((a.diagnosticOf f range).message ≠ f.message))) :
    (a.judge f).Yields P := by
  by_cases hr : f.isRecognized
  case neg =>
    rw [judge_of_unrecognized hr]
    exact .done (hdropped _)
  rw [judge_of_recognized hr]
  refine .bind (.always (P := fun _ => True) (fun _ => trivial) _) fun image _ => ?_
  cases image with
  | none => exact .done (hdropped _)
  | some range =>
    refine .bind (.always (P := fun _ => True) (fun _ => trivial) _) fun language _ => ?_
    split
    · refine .bind (Rule.yields_first ⟨f, range, a.recipeText⟩) fun rule? hrule => ?_
      cases rule? with
      | some rule => exact .done (hdropped _)
      | none =>
        obtain ⟨hi, ha⟩ := hrule rfl
        exact .done (hkept range hr hi ha)
    · exact .done (hdropped _)

/-! ### Verdicts -/

/-- The rules keep a finding that none of them matches. -/
theorem diagnostic?_of_judgeByRules (hv : (a.judgeByRules f range).run s a.recipe = .ok v) :
    v.diagnostic? = some d ↔ d = a.diagnosticOf f range ∧
      ∀ rule : Rule, ¬ rule.Matches s a.recipe ⟨f, range, a.recipeText⟩ := by
  rw [run_judgeByRules] at hv
  cases ho : (Rule.first ⟨f, range, a.recipeText⟩).run s a.recipe with
  | error e => rw [ho] at hv; cases hv
  | ok o =>
    have hok : ∀ e, (Rule.first ⟨f, range, a.recipeText⟩).run s a.recipe ≠ .error e := by
      simp [ho]
    have hnone := Rule.run_first_eq_none_iff hok
    rw [ho] at hv hnone
    cases o with
    | some rule =>
      cases hv
      exact ⟨fun h => (nomatch h), fun h => (nomatch hnone.2 h.2)⟩
    | none =>
      cases hv
      simp only [Verdict.diagnostic?, Option.some.injEq]
      exact ⟨fun h => ⟨h.symm, hnone.1 rfl⟩, fun h => h.1.symm⟩

/-- Past the check of the language, what is shown is what the rules keep. -/
theorem shows_iff_of_mapped (hr : f.isRecognized)
    (hm : (a.origins.mapRange a.recipeText a.generatedText f.range).value = some range)
    (hl : s.languageAt a.recipe range.start = .ok (some a.language)) :
    a.Shows s f d ↔ d = a.diagnosticOf f range ∧
      ∀ rule : Rule, ¬ rule.Matches s a.recipe ⟨f, range, a.recipeText⟩ := by
  have shown (h : ∀ rule : Rule, ¬ rule.Matches s a.recipe ⟨f, range, a.recipeText⟩) :
      a.Shows s f (a.diagnosticOf f range) :=
    ⟨isRecognized_iff.1 hr, hm, hl, h, rfl, rfl, rfl, rfl, rfl, rfl⟩
  constructor
  · intro h
    cases hm.symm.trans h.mapped
    exact ⟨h.unique (shown h.unmatched), h.unmatched⟩
  · rintro ⟨rfl, h⟩
    exact shown h

theorem diagnostic?_eq_some_iff (hv : (a.judge f).run s a.recipe = .ok v) :
    v.diagnostic? = some d ↔ a.Shows s f d := by
  by_cases hr : f.isRecognized
  case neg =>
    rw [judge_of_unrecognized hr] at hv
    cases hv
    exact ⟨fun h => (nomatch h), fun h => absurd (isRecognized_iff.2 h.recognized) hr⟩
  cases hm : (a.origins.mapRange a.recipeText a.generatedText f.range).value with
  | none =>
    rw [run_judge_of_image hr hm] at hv
    cases hv
    exact ⟨fun h => (nomatch h), fun h => (nomatch hm.symm.trans h.mapped)⟩
  | some range =>
    rw [run_judge_of_image hr hm, judgeAt, Inquiry.run_bind, Inquiry.run_languageAt] at hv
    cases hl : s.languageAt a.recipe range.start with
    | error e => rw [hl] at hv; cases hv
    | ok l =>
      rw [hl] at hv
      by_cases hla : l = some a.language
      · subst hla
        simp only [Except.bind, if_pos] at hv
        exact (diagnostic?_of_judgeByRules hv).trans (shows_iff_of_mapped hr hm hl).symm
      · simp only [Except.bind, if_neg hla] at hv
        cases hv
        refine ⟨fun h => (nomatch h), fun h => ?_⟩
        cases hm.symm.trans h.mapped
        exact absurd (Except.ok.inj (hl.symm.trans h.language)) hla

/-! ### Failures -/

theorem run_judge_eq_error_iff : (a.judge f).run s a.recipe = .error e ↔ a.Breaks s f e := by
  rw [Inquiry.run_eq_error_iff]
  by_cases hr : f.isRecognized
  case neg =>
    rw [judge_of_unrecognized hr]
    refine ⟨fun ⟨_, h, _⟩ => (nomatch h), ?_⟩
    rintro (⟨hr', -, -⟩ | ⟨hr', -, -, -, -⟩) <;> exact absurd (isRecognized_iff.2 hr') hr
  cases hm : (a.origins.mapRange a.recipeText a.generatedText f.range).value with
  | none =>
    rw [questions_judge_of_image hr hm]
    refine ⟨fun ⟨_, h, _⟩ => (nomatch h), ?_⟩
    rintro (⟨-, hm', -⟩ | ⟨-, hm', -, -, -⟩) <;> exact nomatch hm.symm.trans hm'
  | some range =>
    have hc := isRecognized_iff.1 hr
    rw [questions_judge_of_image hr hm, judgeAt, Inquiry.questions_bind, Inquiry.questions_languageAt,
      Inquiry.run_languageAt]
    constructor
    · rintro ⟨q, hq, href⟩
      rcases List.mem_append.1 hq with hq | hq
      · cases List.mem_singleton.1 hq
        exact .language hc hm href
      · split at hq
        · next l hl =>
          split at hq
          · next hla =>
            rw [questions_judgeByRules] at hq
            obtain ⟨p, rfl⟩ := Rule.exists_definitions_of_mem_questions_firstOf _ hq
            exact .definitions hc hm (hla ▸ hl) hq href
          · exact nomatch hq
        · exact nomatch hq
    · rintro (⟨-, hm', href⟩ | ⟨-, hm', hl, hq, href⟩)
      · cases hm.symm.trans hm'
        exact ⟨_, List.mem_append_left _ (List.mem_singleton_self _), href⟩
      · cases hm.symm.trans hm'
        refine ⟨.definitions _, List.mem_append_right _ ?_, href⟩
        simpa [hl, questions_judgeByRules] using hq

end Assignment
end RecipeDiag
