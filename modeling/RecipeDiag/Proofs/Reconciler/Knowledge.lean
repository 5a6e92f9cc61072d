import Mathlib.Data.List.Pairwise
import RecipeDiag.Proofs.Reconciler.Locality

/-!
# Edits that arrive one by one

Recipes are opened, documents registered and findings reported, each once and in any order (`Tells`).
What a reconciler knows on the way is what the edits that are done say (`Knows`), whatever their order.
Once all edits that bear on a document are done (`IsComplete`), its update comes to what it comes to in
the end (`Knows.outcome_eq`); until then it has no diagnostics to show (`Knows.diagnostics_eq_nil`).
-/

namespace RecipeDiag

/-! ### Documents that are registered once -/

/-- The documents differ in their names and in the places that they take. -/
def GeneratedDocument.Apart (d d' : GeneratedDocument) : Prop :=
  d.uri ≠ d'.uri ∧ (d.recipe, d.language) ≠ (d'.recipe, d'.language)

namespace Registry
variable {r : Registry} {P : GeneratedDocument → Prop} {d : GeneratedDocument}
  {ds : List GeneratedDocument}

/-- The registry knows these documents and no others. -/
structure Holds (r : Registry) (P : GeneratedDocument → Prop) : Prop where
  document?_eq : ∀ recipe l d, r.document? recipe l = some d ↔ P d ∧ d.recipe = recipe ∧ d.language = l
  recipe?_eq : ∀ u recipe, r.recipe? u = some recipe ↔ ∃ d, P d ∧ d.uri = u ∧ d.recipe = recipe

namespace Holds

theorem congr {P' : GeneratedDocument → Prop} (h : r.Holds P) (hp : ∀ d, P d ↔ P' d) : r.Holds P' := by
  obtain rfl : P = P' := funext fun d => propext (hp d)
  exact h

theorem empty : Registry.empty.Holds fun _ => False where
  document?_eq _ _ _ := by simp [document?, Registry.empty]
  recipe?_eq _ _ := by simp [recipe?, Registry.empty]

theorem register (h : r.Holds P) (hd : ∀ d', P d' → d'.Apart d) :
    (r.register d).Holds fun d' => P d' ∨ d' = d where
  document?_eq recipe l d' := by
    rw [document?_register]
    split
    · next hk =>
      obtain ⟨rfl, rfl⟩ := hk
      constructor
      · intro heq
        cases heq
        exact ⟨.inr rfl, rfl, rfl⟩
      · rintro ⟨hp | rfl, hr, hl⟩
        · exact absurd (Prod.ext hr hl) (hd d' hp).2
        · rfl
    · next hk =>
      rw [h.document?_eq]
      constructor
      · exact fun ⟨hp, hrl⟩ => ⟨.inl hp, hrl⟩
      · rintro ⟨hp | rfl, rfl, rfl⟩
        · exact ⟨hp, rfl, rfl⟩
        · exact absurd ⟨rfl, rfl⟩ hk
  recipe?_eq u recipe := by
    -- no document gives way to this one, so no name is lost
    have hfree : r.document? d.recipe d.language = none :=
      Option.eq_none_iff_forall_ne_some.2 fun old hold => by
        obtain ⟨hp, hr, hl⟩ := (h.document?_eq ..).1 hold
        exact (hd old hp).2 (Prod.ext hr hl)
    rw [recipe?_register_eq_some_iff, h.recipe?_eq]
    constructor
    · rintro (⟨rfl, rfl⟩ | ⟨-, ⟨d', hp, hu, hr⟩, -⟩)
      · exact ⟨d, .inr rfl, rfl, rfl⟩
      · exact ⟨d', .inl hp, hu, hr⟩
    · rintro ⟨d', hp | rfl, rfl, rfl⟩
      · exact .inr ⟨(hd d' hp).1, ⟨d', hp, rfl, rfl⟩, fun old hold => nomatch hfree.symm.trans hold⟩
      · exact .inl ⟨rfl, rfl⟩

theorem foldl_register (h : r.Holds P) (hd : ∀ d ∈ ds, ∀ d', P d' → d'.Apart d)
    (hds : ds.Pairwise GeneratedDocument.Apart) :
    (ds.foldl Registry.register r).Holds fun d => P d ∨ d ∈ ds := by
  induction ds generalizing r P with
  | nil => exact h.congr (by simp)
  | cons d ds ih =>
    obtain ⟨hd₁, hds⟩ := List.pairwise_cons.1 hds
    obtain ⟨hd₂, hd⟩ := List.forall_mem_cons.1 hd
    refine (ih (h.register hd₂) (fun d₁ h₁ d' hd' => ?_) hds).congr fun d' => ?_
    · rcases hd' with hp | rfl
      · exact hd d₁ h₁ d' hp
      · exact hd₁ d₁ h₁
    · rw [List.mem_cons, or_assoc]

theorem ofList (hds : ds.Pairwise GeneratedDocument.Apart) : (Registry.ofList ds).Holds (· ∈ ds) :=
  (empty.foldl_register (fun _ _ _ h => h.elim) hds).congr (by simp)

theorem resolves (h : r.Holds P) : r.Resolves := by
  intro u recipe hu
  obtain ⟨d, hp, rfl, rfl⟩ := (h.recipe?_eq u recipe).1 hu
  exact ⟨d.language, d, (h.document?_eq ..).2 ⟨hp, rfl, rfl⟩, rfl⟩

theorem named (h : r.Holds P) (hn : ∀ d, P d → Language.ofUri? d.uri = some d.language) : r.Named := by
  intro recipe l d hd
  obtain ⟨hp, -, rfl⟩ := (h.document?_eq recipe l d).1 hd
  exact hn d hp

end Holds
end Registry

/-! ### What the edits say -/

/-- The edits open different recipes, register different documents or report on different ones. -/
def Edit.Apart : Edit → Edit → Prop
  | .setText u _, .setText v _ => u ≠ v
  | .register d, .register d' => d.Apart d'
  | .setFindings u _, .setFindings v _ => u ≠ v
  | _, _ => True

theorem Edit.Apart.symm {e e' : Edit} (h : e.Apart e') : e'.Apart e := by
  cases e with
  | setText u text =>
    cases e' with
    | setText v text' => exact Ne.symm h
    | _ => trivial
  | register d =>
    cases e' with
    | register d' => exact ⟨h.1.symm, h.2.symm⟩
    | _ => trivial
  | setFindings u fs =>
    cases e' with
    | setFindings v fs' => exact Ne.symm h
    | _ => trivial
  | _ => cases e' <;> trivial

instance : Std.Symm Edit.Apart := ⟨fun _ _ => Edit.Apart.symm⟩

/-- The edit bears on the update of a document, as far as the registry knows it. -/
def Edit.Concerns (g : Registry) (u : Uri) : Edit → Prop
  | .setText recipe _ => g.recipe? u = some recipe
  | .register d => d.uri = u
  | .setFindings v _ => v = u
  | .close _ | .removeDocuments _ => False

namespace Reconciler
variable {r r' target : Reconciler} {s : Surroundings} {done edits : List Edit} {e : Edit}
  {u v recipe : Uri} {text : String} {d : GeneratedDocument} {fs : List Finding} {o o' : Outcome}

/-- The reconciler knows what the edits say, and nothing else. -/
structure Knows (r : Reconciler) (done : List Edit) : Prop where
  texts : ∀ u text, r.workspace.openDocuments.get? u = some text ↔ .setText u text ∈ done
  documents : r.registry.Holds fun d => .register d ∈ done
  reported : ∀ u fs, .setFindings u fs ∈ done → r.workspace.findingsOf u = fs
  unreported : ∀ u, (∀ fs, .setFindings u fs ∉ done) → r.workspace.findingsOf u = []

theorem knows_start : (start .empty .empty).Knows [] where
  texts u text := by simp [start, Workspace.empty]
  documents := Registry.Holds.empty.congr (by simp)
  reported u fs h := nomatch h
  unreported u _ := rfl

namespace Knows

theorem congr (h : r.Knows done) (hw : r'.workspace = r.workspace) (hg : r'.registry = r.registry) :
    r'.Knows done :=
  ⟨hw ▸ h.texts, hg ▸ h.documents, hw ▸ h.reported, hw ▸ h.unreported⟩

theorem setText (h : r.Knows done) (hd : ∀ e ∈ done, e.Apart (.setText recipe text)) :
    (r.edit (.setText recipe text)).Knows (done ++ [.setText recipe text]) where
  texts u text' := by
    simp only [edit, Workspace.get?_openDocuments_setText, List.mem_append, List.mem_singleton,
      Edit.setText.injEq]
    split
    · next hu =>
      subst hu
      have hnot : .setText u text' ∉ done := fun hm => (show u ≠ u from hd _ hm) rfl
      rw [Option.some.injEq, or_iff_right hnot]
      exact ⟨fun ht => ⟨rfl, ht.symm⟩, fun ht => ht.2.symm⟩
    · next hu => rw [h.texts, or_iff_left fun ht => hu ht.1]
  documents := h.documents.congr (by simp)
  reported u fs hu := h.reported u fs (by simpa using hu)
  unreported u hu := h.unreported u fun fs hfs => hu fs (by simp [hfs])

theorem register (h : r.Knows done) (hd : ∀ e ∈ done, e.Apart (.register d)) :
    (r.edit (.register d)).Knows (done ++ [.register d]) where
  texts u text := (h.texts u text).trans (by simp)
  documents := (h.documents.register fun d' hd' => hd _ hd').congr (by simp)
  reported u fs hu := h.reported u fs (by simpa using hu)
  unreported u hu := h.unreported u fun fs hfs => hu fs (by simp [hfs])

theorem setFindings (h : r.Knows done) (hd : ∀ e ∈ done, e.Apart (.setFindings v fs)) :
    (r.edit (.setFindings v fs)).Knows (done ++ [.setFindings v fs]) where
  texts u text := (h.texts u text).trans (by simp)
  documents := h.documents.congr (by simp)
  reported u fs' hu := by
    simp only [edit, Workspace.findingsOf_setFindings]
    rcases List.mem_append.1 hu with hu | hu
    · rw [if_neg (hd _ hu), h.reported u fs' hu]
    · cases List.mem_singleton.1 hu
      exact if_pos rfl
  unreported u hu := by
    simp only [edit, Workspace.findingsOf_setFindings]
    rw [if_neg, h.unreported u fun fs' hfs => hu fs' (by simp [hfs])]
    rintro rfl
    exact hu fs (by simp)

end Knows

/-- The target knows all edits, no two of which are about the same, and names tell languages. -/
structure Awaits (target : Reconciler) (edits : List Edit) : Prop where
  knows : target.Knows edits
  apart : edits.Pairwise Edit.Apart
  named : ∀ d, .register d ∈ edits → Language.ofUri? d.uri = some d.language

/-- All edits that bear on the update of the document are done. -/
def IsComplete (target : Reconciler) (edits done : List Edit) (u : Uri) : Prop :=
  ∀ e ∈ edits, e.Concerns target.registry u → e ∈ done

namespace IsComplete

theorem append (h : target.IsComplete edits done u) : target.IsComplete edits (done ++ [e]) u :=
  fun e' he' hc => List.mem_append_left _ (h e' he' hc)

theorem concerns (h : target.IsComplete edits (done ++ [e]) u) (hn : ¬ target.IsComplete edits done u) :
    e.Concerns target.registry u := by
  refine Classical.byContradiction fun he => hn fun e' he' hc => ?_
  rcases List.mem_append.1 (h e' he' hc) with hm | hm
  · exact hm
  · exact absurd (List.mem_singleton.1 hm ▸ hc) he

end IsComplete

namespace Awaits

theorem resolves (h : target.Awaits edits) : target.registry.Resolves := h.knows.documents.resolves

theorem names (h : target.Awaits edits) : target.registry.Named := h.knows.documents.named h.named

theorem eq_of_not_apart {e' : Edit} (h : target.Awaits edits) (he : e ∈ edits) (he' : e' ∈ edits)
    (hn : ¬ e.Apart e') : e = e' :=
  Classical.byContradiction fun hne => hn (h.apart.forall he he' hne)

theorem next {rest : List Edit} (h : target.Awaits edits) (he : edits = done ++ e :: rest) :
    e ∈ edits ∧ ∀ e' ∈ done, e'.Apart e := by
  have hapart := (List.pairwise_append.1 (he ▸ h.apart)).2.2
  exact ⟨by simp [he], fun e' he' => hapart e' he' e (List.mem_cons_self ..)⟩

theorem eq_of_uri_eq {d' : GeneratedDocument} (h : target.Awaits edits) (hd : .register d ∈ edits)
    (hd' : .register d' ∈ edits) (hu : d.uri = d'.uri) : d = d' :=
  Edit.register.inj (h.eq_of_not_apart hd hd' fun ha => ha.1 hu)

/-- The document of a name, if there is one, takes the place that the name tells. -/
theorem document?_eq (h : target.Awaits edits) {l : Language} (hr : target.registry.recipe? u = some recipe)
    (hl : Language.ofUri? u = some l) : ∃ d, .register d ∈ edits ∧ d.uri = u ∧ d.recipe = recipe ∧
      d.language = l ∧ target.registry.document? recipe l = some d := by
  obtain ⟨d, hd, rfl, rfl⟩ := (h.knows.documents.recipe?_eq u recipe).1 hr
  cases (h.named d hd).symm.trans hl
  exact ⟨d, hd, rfl, rfl, rfl, (h.knows.documents.document?_eq ..).2 ⟨hd, rfl, rfl⟩⟩

end Awaits

/-! ### What updates come to on the way -/

theorem Admits.content?_eq {g : Reading} (h : r.Admits u g) : r.registry.content? u = g.document.content := by
  simp [Registry.content?, h.recipe, h.language, h.document]

/-- The outcome of an update depends on what is admitted and on the findings. -/
theorem outcome_congr_of_admits (hr : r.registry.Resolves) (hn : r.registry.Named)
    (h : ∀ g, r.Admits u g ↔ r'.Admits u g)
    (hf : r.workspace.findingsOf u = r'.workspace.findingsOf u) : r.outcome s u = r'.outcome s u := by
  by_cases hs : r.Skips u
  · have hs' : r'.Skips u := Classical.byContradiction fun hn' => by
      obtain ⟨g, hg⟩ := not_skips_iff.1 hn'
      exact ((h g).2 hg).not_skips hs
    rw [outcome_of_skips hs, outcome_of_skips hs']
  · obtain ⟨g, hg⟩ := not_skips_iff.1 hs
    have hg' := (h g).1 hg
    have hu : g.document.uri = u := hg.uri_document hr hn
    have hread : r.registry.read s.files u = r'.registry.read s.files u := by
      rw [Registry.read, hg.content?_eq, Registry.read, hg'.content?_eq]
    rw [outcome_of_admits hg, outcome_of_admits hg', hu, hread]
    simp only [Listing.verdicts, Listing.inquiries, hu, hf]

section
variable (h : r.Knows done) (ht : target.Awaits edits) (hsub : ∀ e ∈ done, e ∈ edits)
include h ht hsub

theorem Knows.names : r.registry.Named := h.documents.named fun d hd => ht.named d (hsub _ hd)

/-- Once nothing is missing that bears on a document, its update comes to what it comes to in the end. -/
theorem Knows.outcome_eq (hc : r.configuration = target.configuration)
    (hu : target.IsComplete edits done u) : r.outcome s u = target.outcome s u := by
  have hrecipe (recipe : Uri) :
      r.registry.recipe? u = some recipe ↔ target.registry.recipe? u = some recipe := by
    rw [h.documents.recipe?_eq, ht.knows.documents.recipe?_eq]
    constructor
    · exact fun ⟨d, hd, heq⟩ => ⟨d, hsub _ hd, heq⟩
    · exact fun ⟨d, hd, heq⟩ => ⟨d, hu _ hd heq.1, heq⟩
  have htext (recipe : Uri) (hr : target.registry.recipe? u = some recipe) (text : String) :
      r.workspace.openDocuments.get? recipe = some text ↔
        target.workspace.openDocuments.get? recipe = some text := by
    rw [h.texts, ht.knows.texts]
    exact ⟨hsub _, fun hm => hu _ hm hr⟩
  have hdocument (recipe : Uri) (l : Language) (hr : target.registry.recipe? u = some recipe)
      (hl : Language.ofUri? u = some l) : r.registry.document? recipe l =
        target.registry.document? recipe l := by
    obtain ⟨d, hd, huri, hrec, hlang, heq⟩ := ht.document?_eq hr hl
    rw [heq]
    exact (h.documents.document?_eq ..).2 ⟨hu _ hd huri, hrec, hlang⟩
  have hfindings : r.workspace.findingsOf u = target.workspace.findingsOf u := by
    by_cases hm : ∃ fs, .setFindings u fs ∈ edits
    · obtain ⟨fs, hm⟩ := hm
      rw [h.reported u fs (hu _ hm rfl), ht.knows.reported u fs hm]
    · rw [ht.knows.unreported u fun fs hfs => hm ⟨fs, hfs⟩,
        h.unreported u fun fs hfs => hm ⟨fs, hsub _ hfs⟩]
  refine outcome_congr_of_admits (h.documents.resolves) (h.names ht hsub) (fun g => ?_) hfindings
  constructor
  · intro hg
    have hr := (hrecipe _).1 hg.recipe
    exact ⟨hc ▸ hg.enabled, hg.language, hr, (htext _ hr _).1 hg.text,
      (hdocument _ _ hr hg.language).symm.trans hg.document, hc ▸ hg.threshold⟩
  · intro hg
    exact ⟨hc ▸ hg.enabled, hg.language, (hrecipe _).2 hg.recipe, (htext _ hg.recipe _).2 hg.text,
      (hdocument _ _ hg.recipe hg.language).trans hg.document, hc ▸ hg.threshold⟩

/-- As long as something is missing that bears on a document, its update has nothing to show. -/
theorem Knows.diagnostics_eq_nil (hu : ¬ target.IsComplete edits done u)
    (ho : r.outcome s u = .ok (some o)) : o.diagnostics = [] := by
  obtain ⟨e, he, hconcerns, hnew⟩ : ∃ e ∈ edits, e.Concerns target.registry u ∧ e ∉ done := by
    simpa [IsComplete] using hu
  obtain ⟨g, hg, -, -⟩ := admits_of_outcome ho
  obtain ⟨d, hd, hduri, hdrecipe⟩ := (h.documents.recipe?_eq ..).1 hg.recipe
  cases e with
  | setText recipe text =>
    -- the recipe is the one that was found open, so its text is known
    have hr : target.registry.recipe? u = some g.opening.recipe :=
      (ht.knows.documents.recipe?_eq ..).2 ⟨d, hsub _ hd, hduri, hdrecipe⟩
    cases hr.symm.trans hconcerns
    have hopen := (h.texts _ _).1 hg.text
    have heq := ht.eq_of_not_apart he (hsub _ hopen) fun ha => ha rfl
    exact absurd (heq ▸ hopen) hnew
  | register d' =>
    have heq := ht.eq_of_uri_eq he (hsub _ hd) ((show d'.uri = u from hconcerns).trans hduri.symm)
    exact absurd (heq ▸ hd) hnew
  | setFindings v fs =>
    obtain rfl : v = u := hconcerns
    refine diagnostics_eq_nil_of_outcome ho fun g hg => ?_
    rw [hg.uri_document (h.documents.resolves) (h.names ht hsub)]
    refine h.unreported v fun fs' hfs' => hnew ?_
    exact ht.eq_of_not_apart he (hsub _ hfs') (fun ha => ha rfl) ▸ hfs'
  | close recipe => exact hconcerns.elim
  | removeDocuments recipe => exact hconcerns.elim

/-- On the way as in the end, an outcome is for the place of the document that is updated. -/
theorem Knows.eq_of_same_entry (ho : r.outcome s u = .ok (some o))
    (ho' : target.outcome s v = .ok (some o')) (hrecipe : o'.recipe = o.recipe)
    (hlanguage : o'.language = o.language) : v = u := by
  obtain ⟨d, hd, rfl⟩ := exists_document_of_outcome (h.documents.resolves) (h.names ht hsub) ho
  obtain ⟨d', hd', rfl⟩ := exists_document_of_outcome ht.resolves ht.names ho'
  obtain ⟨hm, hr, hl⟩ := (h.documents.document?_eq ..).1 hd
  have hd'' := (ht.knows.documents.document?_eq ..).2 ⟨hsub _ hm, hr, hl⟩
  rw [hrecipe, hlanguage, hd''] at hd'
  cases hd'
  rfl

end

end Reconciler

/-! ### Everything once -/

theorem Table.get?_ofList_eq_some_iff {α β : Type} [DecidableEq α] {es : List (α × β)} {k : α} {v : β}
    (hn : (es.map Prod.fst).Nodup) : (Table.ofList es).get? k = some v ↔ (k, v) ∈ es := by
  have hfold (es : List (α × β)) : ∀ t : Table α β, (es.map Prod.fst).Nodup →
      ((es.foldl (fun t e => t.insert e.1 e.2) t).get? k = some v ↔
        (k, v) ∈ es ∨ k ∉ es.map Prod.fst ∧ t.get? k = some v) := by
    induction es with
    | nil => simp
    | cons e es ih =>
      intro t hn
      obtain ⟨k', v'⟩ := e
      simp only [List.map_cons, List.nodup_cons] at hn
      obtain ⟨hnew, hn⟩ := hn
      rw [List.foldl_cons, ih _ hn, Table.get?_insert]
      by_cases hk : k = k'
      · subst hk
        have hnot : (k, v) ∉ es := fun hm => hnew (List.mem_map_of_mem hm)
        simp [hnew, hnot, eq_comm]
      · simp [hk]
  rw [ofList, hfold es _ hn]
  simp

/-- The edits open each recipe, register each document and report on each document once, in any order.
Documents have names that tell their languages, and take different places. -/
structure Tells (texts : List (Uri × String)) (documents : List GeneratedDocument)
    (reports : List (Uri × List Finding)) (edits : List Edit) : Prop where
  order : edits.Perm (texts.map (fun t => .setText t.1 t.2) ++ documents.map .register ++
    reports.map fun report => .setFindings report.1 report.2)
  recipes : (texts.map Prod.fst).Nodup
  names : (documents.map GeneratedDocument.uri).Nodup
  places : (documents.map fun d => (d.recipe, d.language)).Nodup
  languages : ∀ d ∈ documents, Language.ofUri? d.uri = some d.language
  reported : (reports.map Prod.fst).Nodup

/-- A reconciler that knows recipes, documents and findings from the start. -/
def Reconciler.informed (c : Configuration) (texts : List (Uri × String))
    (documents : List GeneratedDocument) (reports : List (Uri × List Finding)) : Reconciler :=
  { Reconciler.start ⟨.ofList texts, .ofList reports⟩ (.ofList documents) with configuration := c }

namespace Tells
variable {texts : List (Uri × String)} {documents : List GeneratedDocument}
  {reports : List (Uri × List Finding)} {edits : List Edit} {u : Uri} {text : String}
  {d : GeneratedDocument} {fs : List Finding}

theorem setText_mem_iff (h : Tells texts documents reports edits) :
    .setText u text ∈ edits ↔ (u, text) ∈ texts := by
  simp [h.order.mem_iff]

theorem register_mem_iff (h : Tells texts documents reports edits) :
    .register d ∈ edits ↔ d ∈ documents := by
  simp [h.order.mem_iff]

theorem setFindings_mem_iff (h : Tells texts documents reports edits) :
    .setFindings u fs ∈ edits ↔ (u, fs) ∈ reports := by
  simp [h.order.mem_iff]

theorem pairwise_apart_documents (h : Tells texts documents reports edits) :
    documents.Pairwise GeneratedDocument.Apart :=
  (List.pairwise_map.1 h.names).and (List.pairwise_map.1 h.places)

theorem pairwise_apart (h : Tells texts documents reports edits) : edits.Pairwise Edit.Apart := by
  have htexts : texts.Pairwise fun t t' => t.1 ≠ t'.1 := List.pairwise_map.1 h.recipes
  have hreports : reports.Pairwise fun r r' => r.1 ≠ r'.1 := List.pairwise_map.1 h.reported
  refine (h.order.pairwise_iff Edit.Apart.symm).2 ?_
  refine List.pairwise_append.2 ⟨List.pairwise_append.2 ⟨?_, ?_, ?_⟩, ?_, ?_⟩
  · exact List.pairwise_map.2 htexts
  · exact List.pairwise_map.2 h.pairwise_apart_documents
  · intro e he e' he'
    obtain ⟨t, -, rfl⟩ := List.mem_map.1 he
    obtain ⟨d, -, rfl⟩ := List.mem_map.1 he'
    trivial
  · exact List.pairwise_map.2 hreports
  · intro e he e' he'
    obtain ⟨report, -, rfl⟩ := List.mem_map.1 he'
    rcases List.mem_append.1 he with he | he
    · obtain ⟨t, -, rfl⟩ := List.mem_map.1 he
      trivial
    · obtain ⟨d, -, rfl⟩ := List.mem_map.1 he
      trivial

/-- Who knows everything from the start knows what the edits say in the end. -/
theorem awaits (h : Tells texts documents reports edits) (c : Configuration) :
    (Reconciler.informed c texts documents reports).Awaits edits where
  knows.texts u text := (Table.get?_ofList_eq_some_iff h.recipes).trans h.setText_mem_iff.symm
  knows.documents := (Registry.Holds.ofList h.pairwise_apart_documents).congr fun d =>
    h.register_mem_iff.symm
  knows.reported u fs hu := by
    have hget := (Table.get?_ofList_eq_some_iff h.reported).2 (h.setFindings_mem_iff.1 hu)
    exact congrArg (·.getD []) hget
  knows.unreported u hu := by
    have hget : (Table.ofList reports).get? u = none :=
      Option.eq_none_iff_forall_ne_some.2 fun fs hfs => hu fs
        (h.setFindings_mem_iff.2 ((Table.get?_ofList_eq_some_iff h.reported).1 hfs))
    exact congrArg (·.getD []) hget
  apart := h.pairwise_apart
  named d hd := h.languages d (h.register_mem_iff.1 hd)

end Tells
end RecipeDiag
