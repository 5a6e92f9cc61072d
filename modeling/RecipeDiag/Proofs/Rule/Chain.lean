import RecipeDiag.Proofs.Inquiry
import RecipeDiag.Rule.Basic

/-!
# What the rules decide

`Rule.Matches` says when a rule takes a finding for a false positive, in terms of the finding and of
the answers of the tooling. As long as no question is refused, the chain ends without a rule exactly
if none of them matches (`run_first_eq_none_iff`). The rules about layout and about the wrapper of
anonymous functions come first and ask nothing, so what they match is never asked about
(`questions_first_eq_nil`).
-/

namespace RecipeDiag.Rule
variable {s : LanguageService} {recipe : Uri} {p : PlacedFinding} {rule : Rule} {e : Fault}

/-- The rule takes the finding for a false positive, going by what the tooling answers. -/
inductive Matches (s : LanguageService) (recipe : Uri) (p : PlacedFinding) : Rule → Prop
  | layout (h : p.finding.isAlwaysIgnored) : Matches s recipe p alwaysIgnoredCode
  | wrapper (h : p.finding.isAnonymousFunction) : Matches s recipe p anonymousFunction
  | defined {found : List Location} (h : p.finding.isUndefinedVariable)
      (hf : s.definitions recipe (insideStart p.range).value = .ok found) (hne : found ≠ []) :
      Matches s recipe p definedVariable
  | assigned {found : List Location} (h : p.finding.isUnassignedVariable)
      (hf : s.definitions recipe (ShellVariable.nameEnd p.recipeText p.range).value = .ok found)
      (hne : found ≠ []) : Matches s recipe p assignedShellVariable
  | directory {found : List Location} {name : String} (h : p.finding.isUnassignedVariable)
      (hf : s.definitions recipe (ShellVariable.nameEnd p.recipeText p.range).value = .ok found)
      (hn : ShellVariable.unassignedName? p.finding.message = some name)
      (hd : isCommonDirectory name) : Matches s recipe p assignedShellVariable

/-! ### One rule -/

theorem run_applies_definedVariable : (definedVariable.applies p).run s recipe =
    if p.finding.isUndefinedVariable then
      (s.definitions recipe (insideStart p.range).value).map fun found => !found.isEmpty
    else .ok false := by
  simp only [applies]
  split
  · rw [Inquiry.run_bind, Inquiry.run_definitionsAt]
    cases s.definitions recipe (insideStart p.range).value <;> rfl
  · rfl

theorem run_applies_assignedShellVariable : (assignedShellVariable.applies p).run s recipe =
    if p.finding.isUnassignedVariable then
      (s.definitions recipe (ShellVariable.nameEnd p.recipeText p.range).value).map fun found =>
        !found.isEmpty || (ShellVariable.unassignedName? p.finding.message).any isCommonDirectory
    else .ok false := by
  simp only [applies]
  split
  · rw [Inquiry.run_bind, Inquiry.run_definitionsAt]
    cases s.definitions recipe (ShellVariable.nameEnd p.recipeText p.range).value <;> rfl
  · rfl

theorem matches_definedVariable_iff : definedVariable.Matches s recipe p ↔
    p.finding.isUndefinedVariable ∧
      ∃ found, s.definitions recipe (insideStart p.range).value = .ok found ∧ found ≠ [] := by
  constructor
  · rintro (_ | _ | ⟨h, hf, hne⟩)
    exact ⟨h, _, hf, hne⟩
  · rintro ⟨h, found, hf, hne⟩
    exact .defined h hf hne

theorem matches_assignedShellVariable_iff : assignedShellVariable.Matches s recipe p ↔
    p.finding.isUnassignedVariable ∧
      ∃ found, s.definitions recipe (ShellVariable.nameEnd p.recipeText p.range).value = .ok found ∧
        (found ≠ [] ∨ ∃ name, ShellVariable.unassignedName? p.finding.message = some name ∧
          isCommonDirectory name) := by
  constructor
  · intro h
    cases h with
    | assigned h hf hne => exact ⟨h, _, hf, .inl hne⟩
    | directory h hf hn hd => exact ⟨h, _, hf, .inr ⟨_, hn, hd⟩⟩
  · rintro ⟨h, found, hf, hne | ⟨name, hn, hd⟩⟩
    · exact .assigned h hf hne
    · exact .directory h hf hn hd

theorem run_applies_eq_true_iff :
    (rule.applies p).run s recipe = .ok true ↔ rule.Matches s recipe p := by
  cases rule with
  | alwaysIgnoredCode =>
    simp only [applies, Inquiry.run_pure, Except.ok.injEq]
    exact ⟨.layout, fun | .layout h => h⟩
  | anonymousFunction =>
    simp only [applies, Inquiry.run_pure, Except.ok.injEq]
    exact ⟨.wrapper, fun | .wrapper h => h⟩
  | definedVariable =>
    rw [run_applies_definedVariable, matches_definedVariable_iff]
    by_cases h : p.finding.isUndefinedVariable
    · cases s.definitions recipe (insideStart p.range).value <;> simp [h, Except.map]
    · simp [h]
  | assignedShellVariable =>
    rw [run_applies_assignedShellVariable, matches_assignedShellVariable_iff]
    by_cases h : p.finding.isUnassignedVariable
    · cases s.definitions recipe (ShellVariable.nameEnd p.recipeText p.range).value <;>
        simp [h, Except.map, Option.any_eq_true]
    · simp [h]

/-! ### The chain -/

theorem run_firstOf_cons (rules : List Rule) :
    (firstOf p (rule :: rules)).run s recipe = ((rule.applies p).run s recipe).bind fun applies =>
      if applies then .ok (some rule) else (firstOf p rules).run s recipe := by
  rw [firstOf, Inquiry.run_bind]
  congr 1
  funext applies
  cases applies <;> rfl

theorem questions_firstOf_cons (rules : List Rule) :
    (firstOf p (rule :: rules)).questions s recipe = (rule.applies p).questions s recipe ++
      match (rule.applies p).run s recipe with
      | .ok false => (firstOf p rules).questions s recipe
      | _ => [] := by
  rw [firstOf, Inquiry.questions_bind]
  cases (rule.applies p).run s recipe with
  | ok applies => cases applies <;> rfl
  | error e => rfl

theorem run_firstOf_eq_none_iff (rules : List Rule) :
    (firstOf p rules).run s recipe = .ok none ↔
      ∀ rule ∈ rules, (rule.applies p).run s recipe = .ok false := by
  induction rules with
  | nil => simp [firstOf]
  | cons rule rules ih =>
    rw [run_firstOf_cons, List.forall_mem_cons, ← ih]
    cases (rule.applies p).run s recipe with
    | ok applies => cases applies <;> simp [Except.bind]
    | error e => simp [Except.bind]

theorem matches_of_run_firstOf_eq_some (rules : List Rule)
    (h : (firstOf p rules).run s recipe = .ok (some rule)) : rule.Matches s recipe p := by
  induction rules with
  | nil => simp [firstOf] at h
  | cons rule' rules ih =>
    rw [run_firstOf_cons] at h
    cases hr : (rule'.applies p).run s recipe with
    | ok applies =>
      rw [hr] at h
      cases applies with
      | true =>
        cases h
        exact run_applies_eq_true_iff.1 hr
      | false => exact ih h
    | error e => rw [hr] at h; cases h

theorem run_first_eq_none_iff (hok : ∀ e, (first p).run s recipe ≠ .error e) :
    (first p).run s recipe = .ok none ↔ ∀ rule : Rule, ¬ rule.Matches s recipe p := by
  constructor
  · intro h rule hm
    have hf := (run_firstOf_eq_none_iff chain).1 h rule (by cases rule <;> simp [chain])
    rw [run_applies_eq_true_iff.2 hm] at hf
    cases hf
  · intro h
    cases hr : (first p).run s recipe with
    | ok o =>
      cases o with
      | none => rfl
      | some rule => exact absurd (matches_of_run_firstOf_eq_some chain hr) (h rule)
    | error e => exact absurd hr (hok e)

theorem questions_first_eq_nil (h : p.finding.isAlwaysIgnored ∨ p.finding.isAnonymousFunction) :
    (first p).questions s recipe = [] := by
  simp only [first, chain, questions_firstOf_cons]
  by_cases hl : p.finding.isAlwaysIgnored
  · simp [applies, hl]
  · simp [applies, hl, h.resolve_left hl]

/-- Whatever is answered, if no rule applies then neither of the two that ask nothing. -/
theorem yields_first (p : PlacedFinding) : (first p).Yields fun o =>
    o = none → p.finding.isAlwaysIgnored = false ∧ p.finding.isAnonymousFunction = false := by
  show (firstOf p [alwaysIgnoredCode, anonymousFunction, definedVariable, assignedShellVariable]).Yields _
  rw [firstOf, firstOf]
  refine .bind (.done rfl) fun ignored hignored => ?_
  subst hignored
  cases hi : p.finding.isAlwaysIgnored with
  | true => exact .done nofun
  | false =>
    refine .bind (.done rfl) fun anonymous hanonymous => ?_
    subst hanonymous
    cases ha : p.finding.isAnonymousFunction with
    | true => exact .done nofun
    | false => exact .always (fun _ _ => ⟨rfl, rfl⟩) (firstOf p [definedVariable, assignedShellVariable])

end RecipeDiag.Rule
