import RecipeDiag.Registry

/-!
# Which documents a registry resolves

A registry answers both ways, and `register` keeps the answers in step: a generated document that
belongs to a recipe is one of the recipe's documents (`Resolves`). Where names tell languages
(`Named`), an update of a document therefore reads that very document
(`Resolves.document?_of_ofUri?`).
-/

namespace RecipeDiag.Registry
variable {r : Registry} {d : GeneratedDocument} {ds : List GeneratedDocument} {u recipe : Uri}
  {l : Language}

theorem document?_register : (r.register d).document? recipe l =
    if recipe = d.recipe ∧ l = d.language then some d else r.document? recipe l := by
  simp [register, document?, Table.get?_insert]

/-- The name of a document that is replaced under another name belongs to no recipe any more. -/
theorem recipe?_register_eq_some_iff : (r.register d).recipe? u = some recipe ↔
    (u = d.uri ∧ recipe = d.recipe) ∨ (u ≠ d.uri ∧ r.recipe? u = some recipe ∧
      ∀ old, r.document? d.recipe d.language = some old → old.uri ≠ u) := by
  simp only [register, recipe?, Table.get?_insert]
  by_cases hu : u = d.uri
  · simp [hu, eq_comm]
  · simp only [hu, if_false, false_and, false_or, ne_eq, not_false_eq_true, true_and]
    cases hd : r.document? d.recipe d.language with
    | none => simp
    | some old =>
      by_cases ho : old.uri = d.uri
      · simp only [ho, if_true, Option.some.injEq, forall_eq', Ne.symm hu, not_false_eq_true, and_true]
      · simp only [ho, if_false, Table.get?_erase, Option.some.injEq, forall_eq']
        by_cases hou : u = old.uri
        · simp [hou]
        · simp [hou, Ne.symm hou]

/-! ### Recipes own what belongs to them -/

/-- A generated document that belongs to a recipe is one of the recipe's documents. -/
def Resolves (r : Registry) : Prop :=
  ∀ u recipe, r.recipe? u = some recipe → ∃ l d, r.document? recipe l = some d ∧ d.uri = u

theorem resolves_empty : empty.Resolves := fun _ _ h => (nomatch h)

theorem Resolves.register (h : r.Resolves) (d : GeneratedDocument) : (r.register d).Resolves := by
  intro u recipe hu
  rcases recipe?_register_eq_some_iff.1 hu with ⟨rfl, rfl⟩ | ⟨-, hu, hold⟩
  · exact ⟨d.language, d, by simp [document?_register], rfl⟩
  · obtain ⟨l, d', hd', rfl⟩ := h u recipe hu
    -- the replaced document is another one, or its name would have been given up
    have hne : ¬ (recipe = d.recipe ∧ l = d.language) := by
      rintro ⟨rfl, rfl⟩
      exact hold d' hd' rfl
    exact ⟨l, d', by rw [document?_register, if_neg hne, hd'], rfl⟩

/-! ### Names that tell languages -/

/-- The name of every document tells the language that the document is filed under. -/
def Named (r : Registry) : Prop :=
  ∀ recipe l d, r.document? recipe l = some d → Language.ofUri? d.uri = some l

theorem named_empty : empty.Named := fun _ _ _ h => (nomatch h)

theorem Named.register (h : r.Named) (hd : Language.ofUri? d.uri = some d.language) :
    (r.register d).Named := by
  intro recipe l d' hd'
  rw [document?_register] at hd'
  split at hd'
  · next hk =>
    cases hd'
    rw [hd, hk.2]
  · exact h recipe l d' hd'

/-- An update of a document reads the document itself. -/
theorem Resolves.document?_of_ofUri? (h : r.Resolves) (hn : r.Named) (hu : r.recipe? u = some recipe)
    (hl : Language.ofUri? u = some l) : ∃ d, r.document? recipe l = some d ∧ d.uri = u := by
  obtain ⟨l', d, hd, rfl⟩ := h u recipe hu
  cases hl.symm.trans (hn recipe l' d hd)
  exact ⟨d, hd, rfl⟩

/-! ### Registries of lists -/

theorem ofList_append_singleton : ofList (ds ++ [d]) = (ofList ds).register d := by
  simp [ofList]

theorem resolves_foldl_register (h : r.Resolves) (ds : List GeneratedDocument) :
    (ds.foldl Registry.register r).Resolves := by
  induction ds generalizing r with
  | nil => exact h
  | cons d ds ih => exact ih (h.register d)

theorem resolves_ofList (ds : List GeneratedDocument) : (ofList ds).Resolves :=
  resolves_foldl_register resolves_empty ds

theorem named_foldl_register (h : r.Named)
    (hds : ∀ d ∈ ds, Language.ofUri? d.uri = some d.language) :
    (ds.foldl Registry.register r).Named := by
  induction ds generalizing r with
  | nil => exact h
  | cons d ds ih =>
    have hd := List.forall_mem_cons.1 hds
    exact ih (h.register hd.1) hd.2

theorem named_ofList (hds : ∀ d ∈ ds, Language.ofUri? d.uri = some d.language) :
    (ofList ds).Named := named_foldl_register named_empty hds

end RecipeDiag.Registry
