import RecipeDiag.Inquiry

/-!
# Runs of an inquiry

`run`, `questions` and `fits` of a composed inquiry are put together from those of its parts (`run_bind`,
`questions_bind`, `fits_bind`). An inquiry fails exactly when one of the questions it really asks is refused
(`run_eq_error_iff`): it stops there, so no other question of it is. `Yields` says what an inquiry can
come to, whoever answers and even if its questions are answered by different services.
-/

namespace RecipeDiag

/-- The service refuses to answer a question about a recipe. -/
def LanguageService.Refuses (s : LanguageService) (recipe : Uri) (e : Fault) : Question → Prop
  | .language p => s.languageAt recipe p = .error e
  | .definitions p => s.definitions recipe p = .error e

@[simp] theorem LanguageService.refuses_language {s : LanguageService} {recipe : Uri} {e : Fault}
    {p : Position} : s.Refuses recipe e (.language p) ↔ s.languageAt recipe p = .error e := Iff.rfl

@[simp] theorem LanguageService.refuses_definitions {s : LanguageService} {recipe : Uri} {e : Fault}
    {p : Position} : s.Refuses recipe e (.definitions p) ↔ s.definitions recipe p = .error e := Iff.rfl

namespace Inquiry
variable {α β : Type} {s : LanguageService} {recipe : Uri} {e : Fault}

@[simp] theorem run_pure (a : α) : (pure a : Inquiry α).run s recipe = .ok a := rfl

@[simp] theorem questions_pure (a : α) : (pure a : Inquiry α).questions s recipe = [] := rfl

@[simp] theorem run_languageAt (p : Position) :
    (languageAt p).run s recipe = s.languageAt recipe p := by
  unfold languageAt run
  cases s.languageAt recipe p <;> rfl

@[simp] theorem run_definitions (p : Position) :
    (definitions p).run s recipe = s.definitions recipe p := by
  unfold definitions run
  cases s.definitions recipe p <;> rfl

@[simp] theorem questions_languageAt (p : Position) :
    (languageAt p).questions s recipe = [.language p] := by
  unfold languageAt questions
  cases s.languageAt recipe p <;> rfl

@[simp] theorem questions_definitions (p : Position) :
    (definitions p).questions s recipe = [.definitions p] := by
  unfold definitions questions
  cases s.definitions recipe p <;> rfl

@[simp] theorem run_reckon (a : Reckoned α) : (reckon a).run s recipe = .ok a.value := by
  unfold reckon
  split <;> rfl

@[simp] theorem questions_reckon (a : Reckoned α) : (reckon a).questions s recipe = [] := by
  unfold reckon
  split <;> rfl

@[simp] theorem fits_languageAt (p : Position) : (languageAt p).fits s recipe = true := by
  unfold languageAt fits
  cases s.languageAt recipe p <;> rfl

@[simp] theorem fits_definitions (p : Position) : (definitions p).fits s recipe = true := by
  unfold definitions fits
  cases s.definitions recipe p <;> rfl

@[simp] theorem fits_reckon (a : Reckoned α) : (reckon a).fits s recipe = a.fits := by
  unfold reckon
  cases a.fits <;> rfl

theorem run_bind (q : Inquiry α) (f : α → Inquiry β) :
    (q >>= f).run s recipe = (q.run s recipe).bind fun a => (f a).run s recipe := by
  show (q.bind f).run s recipe = _
  induction q with
  | done a => rfl
  | askLanguage p next ih =>
    simp only [bind, run]
    cases s.languageAt recipe p with
    | ok l => exact ih l
    | error e => rfl
  | askDefinitions p next ih =>
    simp only [bind, run]
    cases s.definitions recipe p with
    | ok ls => exact ih ls
    | error e => rfl
  | overflow next ih => exact ih

/-- What comes behind a part that fails is never asked. -/
theorem questions_bind (q : Inquiry α) (f : α → Inquiry β) :
    (q >>= f).questions s recipe = q.questions s recipe ++
      match q.run s recipe with
      | .ok a => (f a).questions s recipe
      | .error _ => [] := by
  show (q.bind f).questions s recipe = _
  induction q with
  | done a => rfl
  | askLanguage p next ih =>
    simp only [bind, questions, run, List.cons_append]
    cases s.languageAt recipe p with
    | ok l => exact congrArg _ (ih l)
    | error e => rfl
  | askDefinitions p next ih =>
    simp only [bind, questions, run, List.cons_append]
    cases s.definitions recipe p with
    | ok ls => exact congrArg _ (ih ls)
    | error e => rfl
  | overflow next ih => exact ih

theorem fits_bind (q : Inquiry α) (f : α → Inquiry β) :
    (q >>= f).fits s recipe = (q.fits s recipe &&
      match q.run s recipe with
      | .ok a => (f a).fits s recipe
      | .error _ => true) := by
  show (q.bind f).fits s recipe = _
  induction q with
  | done a => rfl
  | askLanguage p next ih =>
    simp only [bind, fits, run]
    cases s.languageAt recipe p with
    | ok l => exact ih l
    | error e => rfl
  | askDefinitions p next ih =>
    simp only [bind, fits, run]
    cases s.definitions recipe p with
    | ok ls => exact ih ls
    | error e => rfl
  | overflow next ih => rfl

section
variable (p : Reckoned Position)

@[simp] theorem run_definitionsAt : (definitionsAt p).run s recipe = s.definitions recipe p.value := by
  rw [definitionsAt, run_bind, run_reckon]
  exact run_definitions p.value

@[simp] theorem questions_definitionsAt :
    (definitionsAt p).questions s recipe = [.definitions p.value] := by
  rw [definitionsAt, questions_bind, questions_reckon, run_reckon]
  exact questions_definitions p.value

@[simp] theorem fits_definitionsAt : (definitionsAt p).fits s recipe = p.fits := by
  rw [definitionsAt, fits_bind, fits_reckon, run_reckon]
  simp

end

theorem run_eq_error_iff (q : Inquiry α) :
    q.run s recipe = .error e ↔ ∃ question ∈ q.questions s recipe, s.Refuses recipe e question := by
  induction q with
  | done a => simp [run, questions]
  | askLanguage p next ih =>
    simp only [run, questions, List.mem_cons, exists_eq_or_imp, LanguageService.refuses_language]
    cases s.languageAt recipe p with
    | ok l => simp [ih l]
    | error e' => simp
  | askDefinitions p next ih =>
    simp only [run, questions, List.mem_cons, exists_eq_or_imp, LanguageService.refuses_definitions]
    cases s.definitions recipe p with
    | ok ls => simp [ih ls]
    | error e' => simp
  | overflow next ih => exact ih

/-! ### Results under any answers -/

/-- Whatever is answered, the inquiry comes to no other results. -/
inductive Yields (P : α → Prop) : Inquiry α → Prop
  | done {a : α} (h : P a) : Yields P (done a)
  | askLanguage {p : Position} {next : Option Language → Inquiry α} (h : ∀ l, Yields P (next l)) :
      Yields P (askLanguage p next)
  | askDefinitions {p : Position} {next : List Location → Inquiry α} (h : ∀ ls, Yields P (next ls)) :
      Yields P (askDefinitions p next)
  | overflow {next : Inquiry α} (h : Yields P next) : Yields P (overflow next)

namespace Yields
variable {P : α → Prop} {Q : β → Prop} {q : Inquiry α} {f : α → Inquiry β} {a : α}

theorem of_run (h : q.Yields P) (hr : q.run s recipe = .ok a) : P a := by
  induction h with
  | done h =>
    cases hr
    exact h
  | @askLanguage p next _ ih =>
    rw [run] at hr
    cases hl : s.languageAt recipe p with
    | ok l =>
      rw [hl] at hr
      exact ih l hr
    | error e =>
      rw [hl] at hr
      cases hr
  | @askDefinitions p next _ ih =>
    rw [run] at hr
    cases hl : s.definitions recipe p with
    | ok ls =>
      rw [hl] at hr
      exact ih ls hr
    | error e =>
      rw [hl] at hr
      cases hr
  | overflow _ ih => exact ih hr

theorem always (h : ∀ a, P a) (q : Inquiry α) : q.Yields P := by
  induction q with
  | done a => exact .done (h a)
  | askLanguage p next ih => exact .askLanguage ih
  | askDefinitions p next ih => exact .askDefinitions ih
  | overflow next ih => exact .overflow ih

theorem bind (h : q.Yields P) (hf : ∀ a, P a → (f a).Yields Q) : (q >>= f).Yields Q := by
  show (q.bind f).Yields Q
  induction h with
  | done h => exact hf _ h
  | askLanguage _ ih => exact .askLanguage ih
  | askDefinitions _ ih => exact .askDefinitions ih
  | overflow _ ih => exact .overflow ih

end Yields
end Inquiry
end RecipeDiag
