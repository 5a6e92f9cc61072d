import RecipeDiag.Proofs.Reconciler.Image
import RecipeDiag.Proofs.Registry.Resolution
import RecipeDiag.Proofs.Table
import RecipeDiag.Reconciler.Edit

/-!
# What an outcome depends on

Of all that a reconciler knows, the outcome of an update depends on the registry, the configuration,
the open documents and the findings about one document (`outcome_congr`). If names tell languages,
that document is the one that is updated, and no other document comes to an outcome for the same
recipe and language (`exists_document_of_outcome`).
-/

namespace RecipeDiag

namespace Workspace
variable {w : Workspace} {u g recipe : Uri} {fs : List Finding} {text : String}

theorem findingsOf_setFindings :
    (w.setFindings g fs).findingsOf u = if u = g then fs else w.findingsOf u := by
  unfold setFindings findingsOf
  split
  · next h =>
    rw [Table.get?_erase]
    by_cases hu : u = g
    · simp [hu, List.isEmpty_iff.1 h]
    · simp [hu]
  · rw [Table.get?_insert]
    by_cases hu : u = g <;> simp [hu]

theorem get?_openDocuments_setText : (w.setText recipe text).openDocuments.get? u =
    if u = recipe then some text else w.openDocuments.get? u := Table.get?_insert ..

theorem mem_reported_iff : u ∈ w.reported ↔ w.findingsOf u ≠ [] := by
  simp only [reported, Uri.sort, List.mem_mergeSort, List.mem_filter, Bool.not_eq_true',
    List.isEmpty_eq_false_iff, and_iff_right_iff_imp]
  intro h
  cases hg : w.findings.get? u with
  | none => exact absurd (by rw [findingsOf, hg]; rfl) h
  | some fs =>
    exact Table.mem_keys_iff.2 (hg ▸ Option.some_ne_none fs)

end Workspace

/-- In whatever order they are listed, the documents are those with findings. -/
theorem Surroundings.mem_reported (s : Surroundings) {w : Workspace} {u : Uri} :
    u ∈ s.reported w ↔ u ∈ w.reported := (s.arrangement.perm w.reported).mem_iff

namespace Reconciler
variable {r r' : Reconciler} {s : Surroundings} {u recipe : Uri} {o : Outcome} {g : Reading} {l : Language}

/-- All that updates read is the same, but for the findings. -/
structure Alike (r r' : Reconciler) : Prop where
  registry : r.registry = r'.registry
  configuration : r.configuration = r'.configuration
  texts : ∀ u, r.workspace.openDocuments.get? u = r'.workspace.openDocuments.get? u

namespace Alike

theorem symm (h : r.Alike r') : r'.Alike r :=
  ⟨h.registry.symm, h.configuration.symm, fun u => (h.texts u).symm⟩

theorem admits (h : r.Alike r') (hg : r.Admits u g) : r'.Admits u g where
  enabled := h.configuration ▸ hg.enabled
  language := hg.language
  recipe := h.registry ▸ hg.recipe
  text := h.texts _ ▸ hg.text
  document := h.registry ▸ hg.document
  threshold := h.configuration ▸ hg.threshold

end Alike

theorem outcome_congr (h : r.Alike r') (hf : ∀ g, r.Admits u g →
    r.workspace.findingsOf g.document.uri = r'.workspace.findingsOf g.document.uri) :
    r.outcome s u = r'.outcome s u := by
  by_cases hs : r.Skips u
  · have hs' : r'.Skips u := Classical.byContradiction fun hn => by
      obtain ⟨g, hg⟩ := not_skips_iff.1 hn
      exact (h.symm.admits hg).not_skips hs
    rw [outcome_of_skips hs, outcome_of_skips hs']
  · obtain ⟨g, hg⟩ := not_skips_iff.1 hs
    rw [outcome_of_admits hg, outcome_of_admits (h.admits hg), h.registry]
    simp only [Listing.verdicts, Listing.inquiries, hf g hg]

/-- Who comes to an outcome is admitted. -/
theorem admits_of_outcome (h : r.outcome s u = .ok (some o)) :
    ∃ g, r.Admits u g ∧ o.recipe = g.opening.recipe ∧ o.language = g.opening.language := by
  by_cases hs : r.Skips u
  · rw [outcome_of_skips hs] at h
    cases h
  · obtain ⟨g, hg⟩ := not_skips_iff.1 hs
    obtain ⟨text, vs, -, -, ho⟩ := (outcome_eq_ok_iff hg).1 h
    cases ho
    exact ⟨g, hg, rfl, rfl⟩

theorem diagnostics_eq_nil_of_outcome (h : r.outcome s u = .ok (some o)) (hf : ∀ g, r.Admits u g →
    r.workspace.findingsOf g.document.uri = []) : o.diagnostics = [] := by
  obtain ⟨g, hg, -, -⟩ := admits_of_outcome h
  obtain ⟨text, vs, -, hv, ho⟩ := (outcome_eq_ok_iff hg).1 h
  cases ho
  simp only [Listing.verdicts, Listing.inquiries, hf g hg] at hv
  cases hv
  rfl

section Named
variable (hr : r.registry.Resolves) (hn : r.registry.Named)
include hr hn

theorem Admits.uri_document (h : r.Admits u g) : g.document.uri = u := by
  obtain ⟨d, hd, rfl⟩ := hr.document?_of_ofUri? hn h.recipe h.language
  cases h.document.symm.trans hd
  rfl

/-- An outcome is for the recipe and language of the document that was updated. -/
theorem exists_document_of_outcome (h : r.outcome s u = .ok (some o)) :
    ∃ d, r.registry.document? o.recipe o.language = some d ∧ d.uri = u := by
  obtain ⟨g, hg, hrecipe, hlanguage⟩ := admits_of_outcome h
  exact ⟨g.document, hrecipe ▸ hlanguage ▸ hg.document, hg.uri_document hr hn⟩

end Named

/-! ### Updates leave alone what they read -/

theorem workspace_takeOver {out : Except Fault (Option Outcome)} :
    (r.takeOver out).workspace = r.workspace := by
  unfold takeOver
  split <;> rfl

theorem registry_takeOver {out : Except Fault (Option Outcome)} :
    (r.takeOver out).registry = r.registry := by
  unfold takeOver
  split <;> rfl

theorem configuration_takeOver {out : Except Fault (Option Outcome)} :
    (r.takeOver out).configuration = r.configuration := by
  unfold takeOver
  split <;> rfl

end Reconciler
end RecipeDiag
