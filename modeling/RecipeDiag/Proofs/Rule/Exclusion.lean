import RecipeDiag.Proofs.Rule.Chain

/-!
# Rules exclude one another

Three of the rules look for codes and the fourth for a finding without one. No identifier that they look
for has a colon, so a code is named by one of them at most (`eq_of_isNamed`), and no two rules look for
the same one. So a finding concerns one rule at most (`Concerns.unique`), and the others neither apply nor
ask: the chain comes to what that rule comes to, wherever it stands (`firstOf_of_concerns`).
-/

namespace RecipeDiag

/-! ### Identifiers of a code -/

namespace Code
variable {c : Code} {id id' : String}

theorem takeWhile_of_isNamed (h : c.isNamed id) (hid : ':' ∉ id.toList) :
    c.asText.toList.takeWhile (· != ':') = id.toList := by
  unfold isNamed at h
  split at h
  · next rest hr =>
    have hpos : ∀ x ∈ id.toList, (x != ':') = true := by
      intro x hx
      refine bne_iff_ne.2 ?_
      rintro rfl
      exact hid hx
    rw [Text.dropPrefix?_eq_some_iff.1 hr, List.takeWhile_append_of_pos hpos]
    -- what follows the identifier is nothing, or starts with a colon
    cases rest with
    | nil => simp
    | cons x rest =>
      have hx : x = ':' := by simpa using h
      simp [hx]
  · cases h

/-- A code is named by one identifier at most. -/
theorem eq_of_isNamed (h : c.isNamed id) (h' : c.isNamed id') (hid : ':' ∉ id.toList)
    (hid' : ':' ∉ id'.toList) : id = id' := by
  have hsame := (takeWhile_of_isNamed h hid).symm.trans (takeWhile_of_isNamed h' hid')
  exact String.toList_inj.1 hsame

end Code

namespace Rule
variable {rule rule' : Rule} {f : Finding} {p : PlacedFinding} {rules : List Rule}
  {s : LanguageService} {recipe : Uri}

/-! ### The rule that a finding concerns -/

/-- The finding is of the kind that a rule is for. -/
def Concerns : Rule → Finding → Bool
  | alwaysIgnoredCode, f => f.isAlwaysIgnored
  | anonymousFunction, f => f.isAnonymousFunction
  | definedVariable, f => f.isUndefinedVariable
  | assignedShellVariable, f => f.isUnassignedVariable

/-- The identifiers that a rule looks for. -/
def identifiers : Rule → List String
  | alwaysIgnoredCode => alwaysIgnoredCodes.map Prod.snd
  | anonymousFunction => []
  | definedVariable => undefinedVariableCodes.map Prod.snd
  | assignedShellVariable => ["SC2154"]

theorem not_mem_of_mem_identifiers {id : String} (h : id ∈ rule.identifiers) : ':' ∉ id.toList := by
  have hall : ∀ rule ∈ chain, ∀ id ∈ rule.identifiers, ':' ∉ id.toList := by decide
  exact hall rule (by cases rule <;> simp [chain]) id h

/-- No two rules look for the same identifier. -/
theorem eq_of_mem_identifiers {id : String} (h : id ∈ rule.identifiers) (h' : id ∈ rule'.identifiers) :
    rule = rule' := by
  have hall : ∀ rule ∈ chain, ∀ rule' ∈ chain, ∀ id ∈ rule.identifiers, id ∈ rule'.identifiers →
      rule = rule' := by decide
  exact hall rule (by cases rule <;> simp [chain]) rule' (by cases rule' <;> simp [chain]) id h h'

theorem exists_code_of_reportsAny {codes : List (Checker × String)} (h : f.reportsAny codes) :
    ∃ c id, f.code = some c ∧ id ∈ codes.map Prod.snd ∧ c.isNamed id := by
  obtain ⟨⟨checker, id⟩, hmem, hreport⟩ := List.any_eq_true.1 h
  obtain ⟨-, hcode⟩ := Bool.and_eq_true_iff.1 hreport
  obtain ⟨c, hc, hnamed⟩ := (Option.any_eq_true ..).1 hcode
  exact ⟨c, id, hc, List.mem_map_of_mem hmem, hnamed⟩

namespace Concerns

/-- Which rule a finding concerns shows in its code. -/
theorem code_cases (h : rule.Concerns f) : rule = anonymousFunction ∧ f.code = none ∨
    ∃ c id, f.code = some c ∧ id ∈ rule.identifiers ∧ c.isNamed id := by
  cases rule with
  | alwaysIgnoredCode => exact .inr (exists_code_of_reportsAny h)
  | anonymousFunction =>
    obtain ⟨hcode, -⟩ := Bool.and_eq_true_iff.1 h
    obtain ⟨-, hcode⟩ := Bool.and_eq_true_iff.1 hcode
    exact .inl ⟨rfl, Option.isNone_iff_eq_none.1 hcode⟩
  | definedVariable => exact .inr (exists_code_of_reportsAny h)
  | assignedShellVariable =>
    obtain ⟨-, hcode⟩ := Bool.and_eq_true_iff.1 h
    obtain ⟨c, hc, hnamed⟩ := (Option.any_eq_true ..).1 hcode
    exact .inr ⟨c, "SC2154", hc, List.mem_singleton_self _, hnamed⟩

theorem unique (h : rule.Concerns f) (h' : rule'.Concerns f) : rule = rule' := by
  rcases code_cases h with ⟨rfl, hnone⟩ | ⟨c, id, hc, hid, hnamed⟩
  · rcases code_cases h' with ⟨rfl, -⟩ | ⟨c, id, hc, -, -⟩
    · rfl
    · exact nomatch hnone.symm.trans hc
  · rcases code_cases h' with ⟨-, hnone⟩ | ⟨c', id', hc', hid', hnamed'⟩
    · exact nomatch hnone.symm.trans hc
    · cases hc.symm.trans hc'
      obtain rfl := Code.eq_of_isNamed hnamed hnamed' (not_mem_of_mem_identifiers hid)
        (not_mem_of_mem_identifiers hid')
      exact eq_of_mem_identifiers hid hid'

end Concerns

theorem length_filter_concerns_le_one (f : Finding) : (chain.filter (·.Concerns f)).length ≤ 1 := by
  have hnodup : (chain.filter (·.Concerns f)).Nodup := List.Pairwise.filter _ (by decide)
  have hsame : ∀ rule ∈ chain.filter (·.Concerns f), ∀ rule' ∈ chain.filter (·.Concerns f), rule = rule' := by
    intro rule hrule rule' hrule'
    exact Concerns.unique (List.mem_filter.1 hrule).2 (List.mem_filter.1 hrule').2
  cases hrules : chain.filter (·.Concerns f) with
  | nil => exact Nat.zero_le 1
  | cons rule rules =>
    cases rules with
    | nil => exact Nat.le_refl 1
    | cons rule' rules =>
      rw [hrules] at hnodup hsame
      have heq := hsame rule (by simp) rule' (by simp)
      exact absurd (heq ▸ List.mem_cons_self ..) (List.nodup_cons.1 hnodup).1

/-! ### Rules in any order -/

/-- A rule that a finding does not concern neither applies nor asks. -/
theorem applies_of_not_concerns (h : rule.Concerns p.finding = false) : rule.applies p = pure false := by
  cases rule with
  | alwaysIgnoredCode => exact congrArg pure h
  | anonymousFunction => exact congrArg pure h
  | definedVariable => exact if_neg (by simpa [Concerns] using h)
  | assignedShellVariable => exact if_neg (by simpa [Concerns] using h)

theorem firstOf_cons_of_not_concerns (h : rule.Concerns p.finding = false) (rules : List Rule) :
    firstOf p (rule :: rules) = firstOf p rules := by
  rw [firstOf, applies_of_not_concerns h]
  rfl

theorem firstOf_of_not_concerns (h : ∀ rule ∈ rules, rule.Concerns p.finding = false) :
    firstOf p rules = pure none := by
  induction rules with
  | nil => rfl
  | cons rule rules ih =>
    obtain ⟨hrule, hrules⟩ := List.forall_mem_cons.1 h
    rw [firstOf_cons_of_not_concerns hrule, ih hrules]

/-- Rules come to what the one comes to that the finding concerns. -/
theorem firstOf_of_concerns (hnodup : rules.Nodup) (hmem : rule ∈ rules) (h : rule.Concerns p.finding) :
    firstOf p rules = rule.applies p >>= fun applies => pure (if applies then some rule else none) := by
  have hothers : ∀ rule', rule' ≠ rule → rule'.Concerns p.finding = false := by
    intro rule' hne
    cases hrule' : rule'.Concerns p.finding with
    | false => rfl
    | true => exact absurd (Concerns.unique hrule' h) hne
  induction rules with
  | nil => exact nomatch hmem
  | cons rule' rules ih =>
    obtain ⟨hnot, hnodup⟩ := List.nodup_cons.1 hnodup
    by_cases heq : rule' = rule
    · subst heq
      have hrest : firstOf p rules = pure none := by
        refine firstOf_of_not_concerns fun rule hrule => hothers rule ?_
        rintro rfl
        exact hnot hrule
      rw [firstOf, hrest]
      congr 1
      funext applies
      cases applies <;> rfl
    · rw [firstOf_cons_of_not_concerns (hothers rule' heq)]
      exact ih hnodup ((List.mem_cons.1 hmem).resolve_left (Ne.symm heq))

theorem firstOf_eq_first (h : rules.Perm chain) (p : PlacedFinding) : firstOf p rules = first p := by
  have hnodup : chain.Nodup := by decide
  by_cases hrule : ∃ rule ∈ chain, rule.Concerns p.finding
  · obtain ⟨rule, hmem, hrule⟩ := hrule
    rw [first, firstOf_of_concerns (h.nodup_iff.2 hnodup) (h.mem_iff.2 hmem) hrule,
      firstOf_of_concerns hnodup hmem hrule]
  · have hnone : ∀ rule ∈ chain, rule.Concerns p.finding = false := fun rule hmem =>
      Bool.eq_false_iff.2 fun hc => hrule ⟨rule, hmem, hc⟩
    rw [first, firstOf_of_not_concerns hnone,
      firstOf_of_not_concerns fun rule hmem => hnone rule (h.mem_iff.1 hmem)]

/-! ### What is asked -/

/-- The positions that a rule asks about if the finding concerns it. -/
def asksAt : Rule → PlacedFinding → List Position
  | alwaysIgnoredCode, _ | anonymousFunction, _ => []
  | definedVariable, p => [(insideStart p.range).value]
  | assignedShellVariable, p => [(ShellVariable.nameEnd p.recipeText p.range).value]

theorem questions_applies_of_concerns (h : rule.Concerns p.finding) :
    (rule.applies p).questions s recipe = (rule.asksAt p).map .definitions := by
  cases rule with
  | alwaysIgnoredCode => rfl
  | anonymousFunction => rfl
  | definedVariable =>
    have hu : p.finding.isUndefinedVariable := h
    rw [applies, if_pos hu, Inquiry.questions_bind, Inquiry.questions_definitionsAt]
    cases (Inquiry.definitionsAt (insideStart p.range)).run s recipe <;> rfl
  | assignedShellVariable =>
    have hu : p.finding.isUnassignedVariable := h
    rw [applies, if_pos hu, Inquiry.questions_bind, Inquiry.questions_definitionsAt]
    cases (Inquiry.definitionsAt (ShellVariable.nameEnd p.recipeText p.range)).run s recipe <;> rfl

theorem questions_first_of_concerns (hmem : rule ∈ chain) (h : rule.Concerns p.finding) :
    (first p).questions s recipe = (rule.asksAt p).map .definitions := by
  rw [first, firstOf_of_concerns (by decide) hmem h, Inquiry.questions_bind,
    questions_applies_of_concerns h]
  cases (rule.applies p).run s recipe <;> simp

theorem questions_first (p : PlacedFinding) : (first p).questions s recipe =
    (if p.finding.isUndefinedVariable then [(insideStart p.range).value]
    else if p.finding.isUnassignedVariable then [(ShellVariable.nameEnd p.recipeText p.range).value]
    else []).map .definitions := by
  by_cases hu : p.finding.isUndefinedVariable
  · have h : definedVariable.Concerns p.finding := hu
    rw [if_pos hu, questions_first_of_concerns (by simp [chain]) h]
    rfl
  by_cases ha : p.finding.isUnassignedVariable
  · have h : assignedShellVariable.Concerns p.finding := ha
    rw [if_neg hu, if_pos ha, questions_first_of_concerns (by simp [chain]) h]
    rfl
  rw [if_neg hu, if_neg ha]
  by_cases hi : p.finding.isAlwaysIgnored ∨ p.finding.isAnonymousFunction
  · exact questions_first_eq_nil hi
  · have hnone : ∀ rule ∈ chain, rule.Concerns p.finding = false := by
      intro rule _
      cases rule <;> simp_all [Concerns]
    rw [first, firstOf_of_not_concerns hnone]
    rfl

/-- A finding is of at most one of the kinds that the rules are for. So the rules come to the same in any
order, whatever the service answers or refuses, and ask at the same positions: at one if the finding is
about an undefined or an unassigned variable, and else at none. -/
theorem chain_in_any_order (f : Finding) :
    [f.isAlwaysIgnored, f.isAnonymousFunction, f.isUndefinedVariable, f.isUnassignedVariable].count true ≤ 1 ∧
    ∀ (range : Range) (recipeText : List Char) (rules : List Rule), rules.Perm chain →
      ∀ (s : LanguageService) (recipe : Uri), let p := PlacedFinding.mk f range recipeText
        (firstOf p rules).run s recipe = (first p).run s recipe ∧
        (firstOf p rules).questions s recipe = (first p).questions s recipe ∧
        ∃ positions : List Position, (first p).questions s recipe = positions.map .definitions ∧
          positions.length = if f.isUndefinedVariable || f.isUnassignedVariable then 1 else 0 := by
  constructor
  · show (chain.map (·.Concerns f)).count true ≤ 1
    have hle := length_filter_concerns_le_one f
    rw [← List.countP_eq_length_filter] at hle
    simpa [List.count, List.countP_map, Function.comp_def] using hle
  · intro range recipeText rules hperm s recipe p
    have hsame := firstOf_eq_first hperm p
    refine ⟨by rw [hsame], by rw [hsame], _, questions_first p, ?_⟩
    show List.length (if f.isUndefinedVariable then _ else if f.isUnassignedVariable then _ else []) = _
    cases f.isUndefinedVariable <;> cases f.isUnassignedVariable <;> rfl

namespace Sample

/-- Three tools report a code that starts like another one. -/
def severalTools : Finding :=
  ⟨⟨⟨0, 3⟩, ⟨0, 5⟩⟩, some 2, some (.linked (.text "SC2154:F821") none), some "Flake8, Pylint, shellcheck",
    "A is referenced but not assigned.", none⟩

def demo : Uri := ⟨"file", some ⟨"", "", none⟩, "/a.bb", none, none⟩

/-- Answers no question. -/
def refusing : LanguageService :=
  ⟨fun _ _ => .error (.request "a" ⟨-32603, "b"⟩), fun _ _ => .error (.request "c" ⟨-32603, "d"⟩)⟩

end Sample

open Sample in
theorem chain_in_any_order_of_severalTools :
    let p := PlacedFinding.mk severalTools ⟨⟨0, 3⟩, ⟨0, 5⟩⟩ "cp $A".toList
    chain.reverse.Perm chain ∧
    (firstOf p chain.reverse).run refusing demo = .error (.request "c" ⟨-32603, "d"⟩) ∧
    ((firstOf p chain.reverse).questions refusing demo).length = 1 := by
  intro p
  have hperm : chain.reverse.Perm chain := chain.reverse_perm
  obtain ⟨hrun, hasked, positions, hpositions, hlength⟩ :=
    (chain_in_any_order severalTools).2 ⟨⟨0, 3⟩, ⟨0, 5⟩⟩ "cp $A".toList chain.reverse hperm refusing demo
  refine ⟨hperm, hrun.trans rfl, ?_⟩
  rw [hasked, hpositions, List.length_map, hlength]
  decide +kernel

end Rule
end RecipeDiag
