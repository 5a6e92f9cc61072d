/-! # Looking for text in a text -/

namespace RecipeDiag.Text

/-- Whether a text occurs in another. -/
def occursIn (needle : List Char) : List Char → Bool
  | [] => needle.isEmpty
  | c :: cs => needle.isPrefixOf (c :: cs) || occursIn needle cs

/-- What stands behind a prefix. -/
def dropPrefix? : List Char → List Char → Option (List Char)
  | [], cs => some cs
  | _ :: _, [] => none
  | p :: ps, c :: cs => if p = c then dropPrefix? ps cs else none

/-- What stands before a suffix. -/
def dropSuffix? (suffix cs : List Char) : Option (List Char) :=
  (dropPrefix? suffix.reverse cs.reverse).map List.reverse

/-! ### Parts of a text -/

variable {needle before after cs rest : List Char} {x : Char}

theorem occursIn_iff : occursIn needle cs ↔ needle <:+: cs := by
  induction cs with
  | nil => simp [occursIn]
  | cons c cs ih => simp [occursIn, List.infix_cons_iff, ih]

theorem dropPrefix?_eq_some_iff : dropPrefix? needle cs = some rest ↔ cs = needle ++ rest := by
  induction needle generalizing cs with
  | nil => simp [dropPrefix?]
  | cons p ps ih =>
    cases cs with
    | nil => simp [dropPrefix?]
    | cons c cs =>
      simp only [dropPrefix?, List.cons_append, List.cons.injEq]
      by_cases h : p = c
      · simp [h, ih]
      · simp [h, Ne.symm h]

theorem dropSuffix?_eq_some_iff : dropSuffix? needle cs = some rest ↔ cs = rest ++ needle := by
  rw [dropSuffix?, Option.map_eq_some_iff]
  constructor
  · rintro ⟨front, hfront, rfl⟩
    have hcs := congrArg List.reverse (dropPrefix?_eq_some_iff.1 hfront)
    simpa using hcs
  · rintro rfl
    exact ⟨rest.reverse, dropPrefix?_eq_some_iff.2 (by simp), by simp⟩

theorem prefix_of_prefix_append_cons (hx : x ∉ needle) (h : needle <+: before ++ x :: after) :
    needle <+: before := by
  have hcut : before ++ [x] <+: before ++ x :: after := ⟨after, by simp⟩
  rcases List.prefix_or_prefix_of_prefix h hcut with h | h
  · rcases List.prefix_concat_iff.1 h with rfl | h
    · simp at hx
    · exact h
  · exact absurd (h.subset (by simp)) hx

/-- What does not hold a separator occurs on one side of it. -/
theorem occursIn_append_cons_iff (hx : x ∉ needle) : occursIn needle (before ++ x :: after) ↔
    occursIn needle before ∨ occursIn needle after := by
  simp only [occursIn_iff]
  constructor
  · intro h
    induction before with
    | nil =>
      rcases List.infix_cons_iff.1 h with h | h
      · have hnil : needle <+: [] := prefix_of_prefix_append_cons hx h
        exact .inl hnil.isInfix
      · exact .inr h
    | cons c cs ih =>
      rcases List.infix_cons_iff.1 h with h | h
      · have hcons : needle <+: c :: cs := prefix_of_prefix_append_cons hx h
        exact .inl hcons.isInfix
      · exact (ih h).imp_left fun h => h.trans (List.suffix_cons c cs).isInfix
  · rintro (h | h)
    · exact h.trans (List.prefix_append ..).isInfix
    · exact h.trans ((List.suffix_cons x after).trans (List.suffix_append ..)).isInfix

end RecipeDiag.Text
