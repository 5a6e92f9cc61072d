import RecipeDiag.Proofs.Reconciler.Judgement
import RecipeDiag.Reconciler.Update

/-!
# The outcome of an update

An update admits a document only if five conditions hold (`Admits`); it skips any other (`Skips`).
What it comes to is `outcome`, a function of the registry, the workspace and the configuration alone.
`update_eq` says all that an update does: it takes the outcome over, if there is one, and otherwise
only counts and asks.
-/

namespace RecipeDiag

/-- The verdicts on all findings about a document that was read, or the first failure. -/
def Listing.verdicts (l : Listing) (w : Workspace) (service : LanguageService) :
    Except Fault (List Verdict) :=
  Reconciler.firstFailure ((l.inquiries w).map (·.run service l.reading.opening.recipe))

namespace Reconciler
variable {r : Reconciler} {s : Surroundings} {u : Uri} {g : Reading} {e : Fault}

/-! ### Admission -/

/-- The update of a generated document has something to work on. -/
structure Admits (r : Reconciler) (u : Uri) (g : Reading) : Prop where
  enabled : r.configuration.enabled = true
  language : Language.ofUri? u = some g.opening.language
  recipe : r.registry.recipe? u = some g.opening.recipe
  text : r.workspace.openDocuments.get? g.opening.recipe = some g.recipeText
  document : r.registry.document? g.opening.recipe g.opening.language = some g.document
  threshold : g.opening.importLineThreshold = r.configuration.importLineThreshold

/-- There is nothing to update: diagnostics are off, the document's name tells no language, no recipe
has it, its recipe is closed, or its recipe has no document in the language. -/
inductive Skips (r : Reconciler) (u : Uri) : Prop
  | disabled (h : r.configuration.enabled = false)
  | unnamed (h : Language.ofUri? u = none)
  | unregistered (h : r.registry.recipe? u = none)
  | closed {recipe : Uri} (h : r.registry.recipe? u = some recipe)
      (hc : r.workspace.openDocuments.get? recipe = none)
  | missing {recipe : Uri} {l : Language} (h : r.registry.recipe? u = some recipe)
      (hl : Language.ofUri? u = some l) (hd : r.registry.document? recipe l = none)

theorem opening?_of_disabled (h : r.configuration.enabled = false) : r.opening? u = none := by
  rw [opening?, h]
  rfl

theorem opening?_of_enabled (h : r.configuration.enabled = true) :
    r.opening? u = (Language.ofUri? u).bind fun l => (r.registry.recipe? u).map fun recipe =>
      ⟨recipe, l, r.configuration.importLineThreshold⟩ := by
  rw [opening?, h]
  cases Language.ofUri? u <;> cases r.registry.recipe? u <;> rfl

theorem opening?_eq_some_iff {o : Opening} : r.opening? u = some o ↔
    r.configuration.enabled = true ∧ Language.ofUri? u = some o.language ∧
      r.registry.recipe? u = some o.recipe ∧
      o.importLineThreshold = r.configuration.importLineThreshold := by
  obtain ⟨recipe, l, threshold⟩ := o
  cases he : r.configuration.enabled with
  | false => simp [opening?_of_disabled he]
  | true =>
    simp only [opening?_of_enabled he, Option.bind_eq_some_iff, Option.map_eq_some_iff]
    grind

theorem reading?_eq_some_iff {o : Opening} : r.reading? o = some g ↔
    g.opening = o ∧ r.workspace.openDocuments.get? o.recipe = some g.recipeText ∧
      r.registry.document? o.recipe o.language = some g.document := by
  obtain ⟨o', text, document⟩ := g
  cases ht : r.workspace.openDocuments.get? o.recipe with
  | none => simp [reading?, ht]
  | some text' =>
    cases hd : r.registry.document? o.recipe o.language with
    | none => simp [reading?, ht, hd]
    | some document' => simp [reading?, ht, hd, eq_comm]

theorem admits_iff : (r.opening? u).bind r.reading? = some g ↔ r.Admits u g := by
  simp only [Option.bind_eq_some_iff, opening?_eq_some_iff, reading?_eq_some_iff]
  constructor
  · rintro ⟨o, ⟨he, hl, hr, hth⟩, rfl, ht, hd⟩
    exact ⟨he, hl, hr, ht, hd, hth⟩
  · intro h
    exact ⟨_, ⟨h.enabled, h.language, h.recipe, h.threshold⟩, rfl, h.text, h.document⟩

theorem skips_iff : (r.opening? u).bind r.reading? = none ↔ r.Skips u := by
  constructor
  · intro h
    cases he : r.configuration.enabled with
    | false => exact .disabled he
    | true =>
    rw [opening?_of_enabled he] at h
    cases hl : Language.ofUri? u with
    | none => exact .unnamed hl
    | some l =>
    cases hr : r.registry.recipe? u with
    | none => exact .unregistered hr
    | some recipe =>
    cases ht : r.workspace.openDocuments.get? recipe with
    | none => exact .closed hr ht
    | some text =>
    cases hd : r.registry.document? recipe l with
    | none => exact .missing hr hl hd
    | some document => simp [reading?, hl, hr, ht, hd] at h
  · intro h
    cases hg : (r.opening? u).bind r.reading? with
    | none => rfl
    | some g =>
      have ha := admits_iff.1 hg
      cases h with
      | disabled h => cases h.symm.trans ha.enabled
      | unnamed h => cases h.symm.trans ha.language
      | unregistered h => cases h.symm.trans ha.recipe
      | closed h hc =>
        cases h.symm.trans ha.recipe
        cases hc.symm.trans ha.text
      | missing h hl hd =>
        cases h.symm.trans ha.recipe
        cases hl.symm.trans ha.language
        cases hd.symm.trans ha.document

theorem not_skips_iff : ¬ r.Skips u ↔ ∃ g, r.Admits u g := by
  rw [← skips_iff, ← ne_eq, Option.ne_none_iff_exists']
  simp only [admits_iff]

theorem Admits.not_skips (h : r.Admits u g) : ¬ r.Skips u := not_skips_iff.2 ⟨g, h⟩

theorem listing_eq_ok_iff {files : FileReader} {l : Listing} : r.listing files g = .ok l ↔
    l.reading = g ∧ r.registry.read files g.document.uri = .ok l.generatedText := by
  obtain ⟨g', text⟩ := l
  rw [listing]
  cases r.registry.read files g.document.uri with
  | error e => simp [Except.map]
  | ok text' => simp [Except.map, eq_comm]

/-! ### Judging all findings -/

theorem foldl_ask (recipe : Uri) (qs : List Question) :
    qs.foldl (fun r q => r.ask recipe q) r = { r with asked := r.asked ++ qs.map (recipe, ·) } := by
  induction qs generalizing r with
  | nil => simp
  | cons q qs ih => rw [List.foldl_cons, ih]; simp [ask]

theorem countVerdict_eq (r : Reconciler) (v : Verdict) :
    ∃ st, r.countVerdict v = { r with statistics := st } := by
  unfold countVerdict
  split
  · exact ⟨_, rfl⟩
  · exact ⟨r.statistics, rfl⟩

/-- Going through an inquiry only counts and asks. -/
theorem inquire_eq (service : LanguageService) (recipe : Uri) (q : Inquiry Verdict) :
    ∃ st as, r.inquire service recipe q =
      ({ r with statistics := st, asked := as }, q.run service recipe) := by
  simp only [inquire, foldl_ask]
  cases q.run service recipe with
  | ok v =>
    obtain ⟨st, h⟩ := countVerdict_eq
      { r with asked := r.asked ++ (q.questions service recipe).map (recipe, ·) } v
    exact ⟨st, _, congrArg (·, Except.ok v) h⟩
  | error e => exact ⟨r.statistics, _, rfl⟩

theorem inquireAll_eq (service : LanguageService) (recipe : Uri) (qs : List (Inquiry Verdict)) :
    ∃ st as, r.inquireAll service recipe qs =
      ({ r with statistics := st, asked := as }, qs.map (·.run service recipe)) := by
  induction qs generalizing r with
  | nil => exact ⟨r.statistics, r.asked, rfl⟩
  | cons q qs ih =>
    obtain ⟨st, as, h⟩ := inquire_eq (r := r) service recipe q
    obtain ⟨st', as', h'⟩ := ih (r := { r with statistics := st, asked := as })
    exact ⟨st', as', by simp only [inquireAll, h, h', List.map_cons]⟩

section FirstFailure
variable {α : Type} {rs : List (Except Fault α)} {as : List α}

theorem firstFailure_eq_ok_iff : firstFailure rs = .ok as ↔ rs = as.map .ok := by
  induction rs generalizing as with
  | nil => cases as <;> simp [firstFailure]
  | cons a rs ih =>
    cases a with
    | error e => cases as <;> simp [firstFailure]
    | ok a =>
      simp only [firstFailure]
      cases h : firstFailure rs with
      | ok as' =>
        cases as with
        | nil => simp [Except.map]
        | cons b bs => simp [Except.map, ← ih, h]
      | error e =>
        cases as with
        | nil => simp [Except.map]
        | cons b bs => simp [Except.map, ← ih, h]

theorem firstFailure_eq_error_iff : firstFailure rs = .error e ↔
    ∃ before after, rs = before ++ .error e :: after ∧ ∀ a ∈ before, ∀ e', a ≠ .error e' := by
  -- a success in front of a first failure becomes the head of `before`
  induction rs with
  | nil => simp [firstFailure]
  | cons a rs ih =>
    cases a with
    | error e' =>
      constructor
      · rintro ⟨⟩
        exact ⟨[], rs, rfl, by simp⟩
      · rintro ⟨before, after, h, hb⟩
        cases before with
        | nil => cases h; rfl
        | cons b before =>
          cases (List.cons.inj h).1
          exact absurd rfl (hb _ (List.mem_cons_self ..) e')
    | ok a =>
      simp only [firstFailure]
      constructor
      · intro h
        cases hf : firstFailure rs with
        | ok as => rw [hf] at h; cases h
        | error e' =>
          rw [hf] at h
          cases h
          obtain ⟨before, after, rfl, hb⟩ := ih.1 hf
          exact ⟨.ok a :: before, after, rfl, List.forall_mem_cons.2 ⟨fun _ h => (nomatch h), hb⟩⟩
      · rintro ⟨before, after, h, hb⟩
        cases before with
        | nil => cases h
        | cons b before =>
          have hrest := ih.2 ⟨before, after, (List.cons.inj h).2, fun x hx => hb x (by simp [hx])⟩
          rw [hrest]
          rfl

end FirstFailure

/-! ### The outcome -/

/-- What the update of a document comes to, none if there is nothing to update. -/
def outcome (r : Reconciler) (s : Surroundings) (u : Uri) : Except Fault (Option Outcome) :=
  match (r.opening? u).bind r.reading? with
  | none => .ok none
  | some g => (r.listing s.files g).bind fun l =>
    (l.verdicts r.workspace s.service).map fun vs => some (l.outcome vs)

/-- Takes an outcome over and shows it. -/
def settle (r : Reconciler) (o : Outcome) : Reconciler := (r.commit o).announce o.recipe

/-- Takes over the outcome of an update, if there is one. -/
def takeOver (r : Reconciler) : Except Fault (Option Outcome) → Reconciler
  | .ok (some o) => r.settle o
  | _ => r

theorem judgeAll_eq (l : Listing) : ∃ st as, r.judgeAll s l =
    ({ r.takeOver ((l.verdicts r.workspace s.service).map fun vs => some (l.outcome vs)) with
      statistics := st, asked := as }, (l.verdicts r.workspace s.service).map fun _ => ()) := by
  obtain ⟨st, as, h⟩ :=
    inquireAll_eq (r := r) s.service l.reading.opening.recipe (l.inquiries r.workspace)
  simp only [judgeAll, h, Listing.verdicts]
  split
  · next e he => exact ⟨st, as, by simp only [he]; rfl⟩
  · next vs hvs => exact ⟨_, as, by simp only [hvs]; rfl⟩

/-- An update takes its outcome over. Apart from that it only counts and asks. -/
theorem update_eq (r : Reconciler) (s : Surroundings) (u : Uri) : ∃ st as, r.update s u =
    ({ r.takeOver (r.outcome s u) with statistics := st, asked := as },
      (r.outcome s u).map fun _ => ()) := by
  unfold update outcome
  cases h : (r.opening? u).bind r.reading? with
  | none => exact ⟨r.statistics, r.asked, rfl⟩
  | some g =>
    dsimp only
    cases hl : r.listing s.files g with
    | error e => exact ⟨_, r.asked, rfl⟩
    | ok l =>
      obtain ⟨st, as, hj⟩ := judgeAll_eq (r := r) (s := s) l
      simp only [hj, Except.bind]
      cases l.verdicts r.workspace s.service with
      | ok vs => exact ⟨_, as, rfl⟩
      | error e => exact ⟨_, as, rfl⟩

end Reconciler
end RecipeDiag
