import Mathlib.Data.List.Induction
import RecipeDiag.Proofs.Registry.Resolution
import RecipeDiag.Proofs.Reconciler.Outcome

/-!
# Registries with a history

A registry is what a list of changes made of the empty one (`ofChanges`), and names may be shared
between recipes and languages. Whatever the history, a name that belongs to a recipe is the name of
one of the recipe's documents (`resolves_ofChanges`), so no update is attributed to a recipe that has
given a name up (`exists_document_of_recipe?_eq_some`).

The converse fails. A document that is given up takes its name along, also from another document of
that name. `recipe?_eq_none_iff_lost` says when exactly a registered document belongs to no recipe:
the name was lost with some document and nothing was registered under it since.
-/

namespace RecipeDiag.Registry
variable {r : Registry} {d old : GeneratedDocument} {u recipe recipe' : Uri} {l l' : Language}

/-! ### Removal -/

theorem document?_removeDocument : (r.removeDocument recipe l).document? recipe' l' =
    if recipe' = recipe ∧ l' = l then none else r.document? recipe' l' := by
  unfold removeDocument
  split
  · simp [document?, Table.get?_erase]
  · next h =>
    split
    · next hk => rw [hk.1, hk.2, h]
    · rfl

theorem recipe?_removeDocument_eq_some_iff :
    (r.removeDocument recipe l).recipe? u = some recipe' ↔
      r.recipe? u = some recipe' ∧ ∀ d, r.document? recipe l = some d → d.uri ≠ u := by
  unfold removeDocument
  split
  · next d h =>
    simp only [recipe?, Table.get?_erase, h, Option.some.injEq, forall_eq']
    by_cases hu : u = d.uri
    · simp [hu]
    · simp [hu, Ne.symm hu]
  · next h => simp [h]

theorem document?_remove : (r.remove recipe).document? recipe' l =
    if recipe' = recipe then none else r.document? recipe' l := by
  simp only [remove, Language.all, List.foldl_cons, List.foldl_nil, document?_removeDocument]
  cases l <;> by_cases h : recipe' = recipe <;> simp [h]

theorem recipe?_remove_eq_some_iff : (r.remove recipe).recipe? u = some recipe' ↔
    r.recipe? u = some recipe' ∧ ∀ l d, r.document? recipe l = some d → d.uri ≠ u := by
  simp only [remove, Language.all, List.foldl_cons, List.foldl_nil,
    recipe?_removeDocument_eq_some_iff, document?_removeDocument]
  constructor
  · rintro ⟨⟨h, hb⟩, hp⟩
    refine ⟨h, fun l d hd => ?_⟩
    cases l with
    | bash => exact hb d hd
    | python => exact hp d (by simpa using hd)
  · rintro ⟨h, hd⟩
    exact ⟨⟨h, hd .bash⟩, fun d h' => hd .python d (by simpa using h')⟩

theorem Resolves.remove (h : r.Resolves) (recipe : Uri) : (r.remove recipe).Resolves := by
  intro u recipe' hu
  obtain ⟨hu, hgiven⟩ := recipe?_remove_eq_some_iff.1 hu
  obtain ⟨l, d, hd, rfl⟩ := h u recipe' hu
  have hne : recipe' ≠ recipe := by
    rintro rfl
    exact hgiven l d hd rfl
  exact ⟨l, d, by rw [document?_remove, if_neg hne, hd], rfl⟩

/-! ### Changes -/

inductive Change where
  | register (d : GeneratedDocument)
  /-- The documents of the recipe are gone. -/
  | remove (recipe : Uri)
  deriving DecidableEq

/-- The change registers a document under the name. -/
def Change.Names (c : Change) (u : Uri) : Prop := ∃ d, c = .register d ∧ d.uri = u

def apply (r : Registry) : Change → Registry
  | .register d => r.register d
  | .remove recipe => r.remove recipe

/-- The change gives a document of the name up: it is removed, or replaced under another name. -/
def Drops (r : Registry) (u : Uri) : Change → Prop
  | .register d => d.uri ≠ u ∧ ∃ old, r.document? d.recipe d.language = some old ∧ old.uri = u
  | .remove recipe => ∃ l d, r.document? recipe l = some d ∧ d.uri = u

/-- What a list of changes makes of the empty registry. -/
def ofChanges (cs : List Change) : Registry := cs.foldl apply empty

section
variable {c : Change} {cs : List Change}

theorem ofChanges_append_singleton : ofChanges (cs ++ [c]) = (ofChanges cs).apply c := by
  simp [ofChanges]

theorem Drops.not_names (h : r.Drops u c) : ¬ c.Names u := by
  rintro ⟨d, rfl, hd⟩
  exact h.1 hd

theorem Resolves.apply (h : r.Resolves) (c : Change) : (r.apply c).Resolves := by
  cases c with
  | register d => exact h.register d
  | remove recipe => exact h.remove recipe

theorem resolves_ofChanges (cs : List Change) : (ofChanges cs).Resolves := by
  induction cs using List.reverseRecOn with
  | nil => exact resolves_empty
  | append_singleton cs c ih =>
    rw [ofChanges_append_singleton]
    exact ih.apply c

theorem recipe?_apply_ne_none_of_names (h : c.Names u) : (r.apply c).recipe? u ≠ none := by
  obtain ⟨d, rfl, rfl⟩ := h
  simp [apply, recipe?_register_eq_some_iff.2 (.inl ⟨rfl, rfl⟩)]

/-- A change that registers nothing under a name leaves it to its recipe, unless it drops it. -/
theorem recipe?_apply_eq_some_iff (h : ¬ c.Names u) :
    (r.apply c).recipe? u = some recipe ↔ r.recipe? u = some recipe ∧ ¬ r.Drops u c := by
  cases c with
  | register d =>
    have hu : d.uri ≠ u := fun hu => h ⟨d, rfl, hu⟩
    simp only [apply, recipe?_register_eq_some_iff, Ne.symm hu, false_and, false_or, ne_eq,
      not_false_eq_true, true_and, Drops, hu, not_exists, not_and]
  | remove recipe' =>
    simp only [apply, recipe?_remove_eq_some_iff, Drops, not_exists, not_and, ne_eq]

/-- A name loses its recipe exactly with a document that is given up. -/
theorem recipe?_apply_eq_none_iff : (r.apply c).recipe? u = none ↔
    r.Drops u c ∨ (¬ c.Names u ∧ r.recipe? u = none) := by
  by_cases hn : c.Names u
  · have hd : ¬ r.Drops u c := fun hd => hd.not_names hn
    simp [recipe?_apply_ne_none_of_names hn, hn, hd]
  · simp only [Option.eq_none_iff_forall_ne_some, ne_eq, recipe?_apply_eq_some_iff hn, hn,
      not_false_eq_true, true_and]
    by_cases hd : r.Drops u c <;> simp [hd]

/-- A document of the registry was registered at some time. -/
theorem names_of_document? (h : (ofChanges cs).document? recipe l = some d) :
    ∃ c ∈ cs, c.Names d.uri := by
  induction cs using List.reverseRecOn with
  | nil => exact nomatch h
  | append_singleton cs c ih =>
    have earlier (h : (ofChanges cs).document? recipe l = some d) : ∃ c' ∈ cs ++ [c], c'.Names d.uri := by
      obtain ⟨c', hc', hn⟩ := ih h
      exact ⟨c', List.mem_append_left _ hc', hn⟩
    rw [ofChanges_append_singleton] at h
    cases c with
    | register d' =>
      rw [apply, document?_register] at h
      split at h
      · cases h
        exact ⟨.register d, by simp, d, rfl, rfl⟩
      · exact earlier h
    | remove recipe' =>
      rw [apply, document?_remove] at h
      split at h
      · exact nomatch h
      · exact earlier h

/-! ### Names that are lost -/

/-- A document of the name was given up, and nothing was registered under the name since. -/
def Lost (cs : List Change) (u : Uri) : Prop :=
  ∃ before c after, cs = before ++ c :: after ∧ (ofChanges before).Drops u c ∧
    ∀ c' ∈ after, ¬ c'.Names u

theorem lost_append_singleton :
    Lost (cs ++ [c]) u ↔ (ofChanges cs).Drops u c ∨ (Lost cs u ∧ ¬ c.Names u) := by
  constructor
  · rintro ⟨before, c', after, hcs, hdrop, hafter⟩
    rcases List.eq_nil_or_concat after with rfl | ⟨after, c'', rfl⟩
    · obtain ⟨rfl, hc⟩ := List.append_inj' hcs rfl
      cases hc
      exact .inl hdrop
    · rw [List.concat_eq_append, ← List.cons_append, ← List.append_assoc] at hcs
      obtain ⟨rfl, hc⟩ := List.append_inj' hcs rfl
      cases hc
      exact .inr ⟨⟨before, c', after, rfl, hdrop, fun x hx => hafter x (by simp [hx])⟩,
        hafter c (by simp)⟩
  · rintro (hdrop | ⟨⟨before, c', after, rfl, hdrop, hafter⟩, hc⟩)
    · exact ⟨cs, c, [], rfl, hdrop, by simp⟩
    · refine ⟨before, c', after ++ [c], by simp, hdrop, fun x hx => ?_⟩
      rcases List.mem_append.1 hx with hx | hx
      · exact hafter x hx
      · rw [List.mem_singleton.1 hx]
        exact hc

theorem recipe?_ofChanges_eq_none_iff :
    (ofChanges cs).recipe? u = none ↔ Lost cs u ∨ ∀ c ∈ cs, ¬ c.Names u := by
  induction cs using List.reverseRecOn with
  | nil => simp [ofChanges, recipe?, empty]
  | append_singleton cs c ih =>
    rw [ofChanges_append_singleton, recipe?_apply_eq_none_iff, ih, lost_append_singleton]
    simp only [List.mem_append, List.mem_singleton, or_imp, forall_and, forall_eq]
    tauto

/-- However documents were registered and removed, a document of the registry belongs to no recipe
exactly if its name is lost. If it belongs to a recipe, that recipe has a document of its name. -/
theorem recipe?_eq_none_iff_lost (cs : List Change) (recipe : Uri) (l : Language)
    (d : GeneratedDocument) (h : (ofChanges cs).document? recipe l = some d) :
    ((ofChanges cs).recipe? d.uri = none ↔ Lost cs d.uri) ∧
      ∀ recipe', (ofChanges cs).recipe? d.uri = some recipe' →
        ∃ l' d', (ofChanges cs).document? recipe' l' = some d' ∧ d'.uri = d.uri := by
  refine ⟨?_, resolves_ofChanges cs d.uri⟩
  rw [recipe?_ofChanges_eq_none_iff, or_iff_left]
  intro hnever
  obtain ⟨c, hc, hn⟩ := names_of_document? h
  exact hnever c hc hn

end

/-! ### Attribution -/

/-- However documents were registered and removed, a name that belongs to a recipe is the name of one
of its documents. So once a document is replaced under another name, an update of the old name is
attributed to its recipe only if another of the recipe's documents has that name, and once the
documents of a recipe are removed no update is. -/
theorem exists_document_of_recipe?_eq_some (cs : List Change) :
    (∀ u recipe, (ofChanges cs).recipe? u = some recipe →
      ∃ l d, (ofChanges cs).document? recipe l = some d ∧ d.uri = u) ∧
    (∀ (s : Reconciler) (d old : GeneratedDocument), s.registry = (ofChanges cs).register d →
      (ofChanges cs).document? d.recipe d.language = some old → old.uri ≠ d.uri →
      ∀ o, s.opening? old.uri = some o → o.recipe = d.recipe →
        ∃ l d', l ≠ d.language ∧ s.registry.document? d.recipe l = some d' ∧ d'.uri = old.uri) ∧
    (∀ (s : Reconciler) (recipe : Uri), s.registry = (ofChanges cs).remove recipe →
      ∀ u o, s.opening? u = some o → o.recipe ≠ recipe) := by
  have hcs := resolves_ofChanges cs
  refine ⟨hcs, fun s d old hs hold hne o ho hrecipe => ?_, fun s recipe hs u o ho hrecipe => ?_⟩
  · obtain ⟨-, -, hu, -⟩ := Reconciler.opening?_eq_some_iff.1 ho
    rw [hs, hrecipe] at hu
    obtain ⟨l, d', hd', hname⟩ := hcs.register d old.uri d.recipe hu
    refine ⟨l, d', ?_, hs ▸ hd', hname⟩
    -- in the language of the change the recipe has the new document, which is named otherwise
    rintro rfl
    rw [document?_register, if_pos ⟨rfl, rfl⟩] at hd'
    cases hd'
    exact hne hname.symm
  · obtain ⟨-, -, hu, -⟩ := Reconciler.opening?_eq_some_iff.1 ho
    rw [hs, hrecipe] at hu
    obtain ⟨l, d, hd, -⟩ := hcs.remove recipe u recipe hu
    rw [document?_remove, if_pos rfl] at hd
    exact nomatch hd

/-! ### A recipe that is renamed -/

namespace Sample

def file (path : String) : Uri := ⟨"file", some ⟨"", "", none⟩, path, none, none⟩

/-- The shell document of a recipe, under the same name for every recipe. -/
def shell (recipe : Uri) : GeneratedDocument := ⟨recipe, .bash, file "/g.sh", ⟨[]⟩, none⟩

/-- The shell document is registered for the new recipe before the old recipe is removed. -/
def handover : List Change :=
  [.register (shell (file "/a.bb")), .register (shell (file "/b.bb")), .remove (file "/a.bb")]

end Sample

open Sample in
theorem recipe?_eq_none_iff_lost_of_handover :
    (ofChanges handover).document? (file "/b.bb") .bash = some (shell (file "/b.bb")) ∧
      Lost handover (file "/g.sh") := by
  have hd : (ofChanges handover).document? (file "/b.bb") .bash = some (shell (file "/b.bb")) := by
    decide
  have hnone : (ofChanges handover).recipe? (file "/g.sh") = none := by decide
  exact ⟨hd, (recipe?_eq_none_iff_lost handover _ _ _ hd).1.1 hnone⟩

open Sample in
/-- The renamed recipe has a document whose name belongs to no recipe. -/
theorem renamed_document_unreachable :
    ¬ ∀ (cs : List Change) (recipe : Uri) (l : Language) (d : GeneratedDocument),
      (ofChanges cs).document? recipe l = some d →
        ∃ recipe' l' d', (ofChanges cs).recipe? d.uri = some recipe' ∧
          (ofChanges cs).document? recipe' l' = some d' ∧ d'.uri = d.uri := by
  intro h
  obtain ⟨recipe', -, -, hrecipe, -⟩ := h handover (file "/b.bb") .bash (shell (file "/b.bb")) (by decide)
  have hnone : (ofChanges handover).recipe? (file "/g.sh") = none := by decide
  exact nomatch hrecipe.symm.trans hnone

end RecipeDiag.Registry
