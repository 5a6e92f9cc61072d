import RecipeDiag.Proofs.Reconciler.Image
import RecipeDiag.Proofs.Registry.History

/-!
# Whose text is served

A document is filed under the language that it was registered with, but its text is looked up under the
language that its name tells. So the text of a document is served exactly if its name tells its language
(`source?_eq_some_iff_of_document?`); if that is so for all documents of a name, the name serves their
text, and an update reads the document and its text together (`own_text_where_name_tells`). Otherwise a
name may serve the text of another document of its recipe (`text_of_another_document`).
-/

namespace RecipeDiag.Registry
variable {r : Registry} {d : GeneratedDocument} {u recipe : Uri} {l : Language} {t : String}
  {files : FileReader} {cs : List Change}

/-! ### Documents are filed under what they were registered with -/

def Filed (r : Registry) : Prop :=
  ∀ recipe l d, r.document? recipe l = some d → d.recipe = recipe ∧ d.language = l

namespace Filed

theorem empty : empty.Filed := by
  intro recipe l d h
  cases h

theorem register (h : r.Filed) (d : GeneratedDocument) : (r.register d).Filed := by
  intro recipe l d' hd'
  rw [document?_register] at hd'
  split at hd'
  · next hk =>
    cases hd'
    exact ⟨hk.1.symm, hk.2.symm⟩
  · exact h recipe l d' hd'

theorem remove (h : r.Filed) (recipe : Uri) : (r.remove recipe).Filed := by
  intro recipe' l d hd
  rw [document?_remove] at hd
  split at hd
  · cases hd
  · exact h recipe' l d hd

theorem apply (h : r.Filed) (c : Change) : (r.apply c).Filed := by
  cases c with
  | register d => exact h.register d
  | remove recipe => exact h.remove recipe

theorem ofChanges (cs : List Change) : (ofChanges cs).Filed := by
  induction cs using List.reverseRecOn with
  | nil => exact empty
  | append_singleton cs c ih =>
    rw [ofChanges_append_singleton]
    exact ih.apply c

end Filed

/-! ### The document whose text is served -/

/-- The document that the text of a name is taken from. -/
def source? (r : Registry) (u : Uri) : Option GeneratedDocument :=
  (r.recipe? u).bind fun recipe => (Language.ofUri? u).bind fun l => r.document? recipe l

theorem content?_eq : r.content? u = (r.source? u).bind GeneratedDocument.content := by
  unfold content? source?
  cases r.recipe? u with
  | none => rfl
  | some recipe => cases Language.ofUri? u <;> rfl

theorem source?_eq_some_iff : r.source? u = some d ↔
    ∃ recipe l, r.recipe? u = some recipe ∧ Language.ofUri? u = some l ∧ r.document? recipe l = some d := by
  simp only [source?, Option.bind_eq_some_iff]
  constructor
  · rintro ⟨recipe, hr, l, hl, hd⟩
    exact ⟨recipe, l, hr, hl, hd⟩
  · rintro ⟨recipe, l, hr, hl, hd⟩
    exact ⟨recipe, hr, l, hl, hd⟩

/-- The text of a document is served exactly if its name tells its language. -/
theorem source?_eq_some_iff_of_document? (h : r.Filed) (hr : r.recipe? u = some recipe)
    (hd : r.document? recipe l = some d) : r.source? u = some d ↔ Language.ofUri? u = some l := by
  rw [source?_eq_some_iff]
  constructor
  · rintro ⟨recipe', l', hr', hl', hd'⟩
    rw [hl', ← (h recipe' l' d hd').2, (h recipe l d hd).2]
  · intro hl
    exact ⟨recipe, l, hr, hl, hd⟩

/-- An update reads the document whose text is served, under whatever name. -/
theorem source?_of_admits {s : Reconciler} {g : Reading} (hg : s.Admits u g) :
    s.registry.source? u = some g.document :=
  source?_eq_some_iff.2 ⟨g.opening.recipe, g.opening.language, hg.recipe, hg.language, hg.document⟩

theorem read_of_content? (h : r.content? u = some t) : r.read files u = .ok t := by
  unfold read
  rw [h]

theorem read_eq_ok_iff : r.read files u = .ok t ↔ r.content? u = some t ∨
    r.content? u = none ∧ ∃ path, u.filePath? = some path ∧ files path = .ok t := by
  unfold read
  cases r.content? u with
  | some text => simp
  | none =>
    cases u.filePath? with
    | none => simp
    | some path => cases hf : files path <;> simp [Except.mapError, hf]

/-! ### Names that tell languages -/

/-- A recipe that a name belongs to has its documents of the name in the language that the name tells. -/
def TellsLanguage (r : Registry) (u : Uri) : Prop :=
  ∀ recipe l d, r.recipe? u = some recipe → r.document? recipe l = some d → d.uri = u →
    Language.ofUri? u = some l

namespace TellsLanguage

theorem exists_source? (h : r.TellsLanguage u) (hr : r.Resolves) (hu : r.recipe? u = some recipe) :
    ∃ d, r.source? u = some d ∧ d.uri = u := by
  obtain ⟨l, d, hd, rfl⟩ := hr u recipe hu
  exact ⟨d, source?_eq_some_iff.2 ⟨recipe, l, hu, h recipe l d hu hd rfl, hd⟩, rfl⟩

/-- What is served is the text of a document of the name. -/
theorem uri_of_source? (h : r.TellsLanguage u) (hr : r.Resolves) (hd : r.source? u = some d) : d.uri = u := by
  obtain ⟨recipe, -, hu, -, -⟩ := source?_eq_some_iff.1 hd
  obtain ⟨d', hd', huri⟩ := h.exists_source? hr hu
  cases hd.symm.trans hd'
  exact huri

theorem content?_eq_of_document? (h : r.TellsLanguage u) (hu : r.recipe? u = some recipe)
    (hd : r.document? recipe l = some d) (huri : d.uri = u) : r.content? u = d.content := by
  have hsource := source?_eq_some_iff.2 ⟨recipe, l, hu, h recipe l d hu hd huri, hd⟩
  rw [content?_eq, hsource]
  rfl

end TellsLanguage

/-- However documents were registered and removed: the text of a document is served exactly if its name
tells its language. If that is so for all documents of a name, only their text is served for it, the text
that one of them holds in memory is read, and an update of the name reads a document of that name and
the document's own text. -/
theorem own_text_where_name_tells (cs : List Change) (u : Uri) :
    let r := ofChanges cs
    (∀ recipe l d, r.recipe? u = some recipe → r.document? recipe l = some d →
      (r.source? u = some d ↔ Language.ofUri? u = some l)) ∧
    (r.TellsLanguage u →
      (∀ t, r.content? u = some t →
        ∃ recipe l d, r.document? recipe l = some d ∧ d.uri = u ∧ d.content = some t) ∧
      (∀ recipe l d t, r.recipe? u = some recipe → r.document? recipe l = some d → d.uri = u →
        d.content = some t → ∀ files, r.read files u = .ok t) ∧
      ∀ (s : Reconciler) (g : Reading), s.registry = r → s.Admits u g → g.document.uri = u ∧
        ∀ files listing, s.listing files g = .ok listing →
          g.document.content = some listing.generatedText ∨ g.document.content = none ∧
            ∃ path, u.filePath? = some path ∧ files path = .ok listing.generatedText) := by
  intro r
  have hr : r.Resolves := resolves_ofChanges cs
  refine ⟨fun recipe l d hu hd => source?_eq_some_iff_of_document? (.ofChanges cs) hu hd,
    fun h => ⟨?_, ?_, ?_⟩⟩
  · intro t ht
    rw [content?_eq] at ht
    obtain ⟨d, hd, hcontent⟩ := Option.bind_eq_some_iff.1 ht
    obtain ⟨recipe, l, -, -, hdocument⟩ := source?_eq_some_iff.1 hd
    exact ⟨recipe, l, d, hdocument, h.uri_of_source? hr hd, hcontent⟩
  · intro recipe l d t hu hd huri hcontent files
    exact read_of_content? ((h.content?_eq_of_document? hu hd huri).trans hcontent)
  · rintro s g hs hg
    have hsource := source?_of_admits hg
    have huri : g.document.uri = u := h.uri_of_source? hr (hs ▸ hsource)
    refine ⟨huri, fun files listing hl => ?_⟩
    have hread := (Reconciler.listing_eq_ok_iff.1 hl).2
    have hcontent : s.registry.content? u = g.document.content := by
      rw [content?_eq, hsource]
      rfl
    rw [huri, read_eq_ok_iff, hcontent] at hread
    exact hread

/-! ### Names that tell the wrong language -/

namespace Sample

/-- A shell document that is held in memory. -/
def heldShell : GeneratedDocument := ⟨file "/a.bb", .bash, file "/a.sh", ⟨[some 0, some 1]⟩, some "cp"⟩

/-- Each document of the recipe is named as if it was in the language of the other. -/
def swappedShell : GeneratedDocument := ⟨file "/a.bb", .bash, file "/a.py", ⟨[some 0, some 1]⟩, some "cp"⟩

def swappedPython : GeneratedDocument := ⟨file "/a.bb", .python, file "/a.sh", ⟨[some 2]⟩, some "d"⟩

def swapped : List Change := [.register swappedShell, .register swappedPython]

def opened : Workspace := ⟨.ofList [(file "/a.bb", "cp d")], .empty⟩

/-- What an update of the shell document reads. -/
def plain : Reading := ⟨⟨file "/a.bb", .bash, 7⟩, "cp d", heldShell⟩

/-- An update of the Python document is taken for one of the shell document. -/
def confused : Reading := ⟨⟨file "/a.bb", .bash, 7⟩, "cp d", swappedShell⟩

end Sample

open Sample in
theorem own_text_where_name_tells_of_heldShell :
    let r := ofChanges [.register heldShell]
    r.source? (file "/a.sh") = some heldShell ∧ r.TellsLanguage (file "/a.sh") ∧
      (∀ files, r.read files (file "/a.sh") = .ok "cp") ∧
      (Reconciler.start opened r).Admits (file "/a.sh") plain ∧
      ∀ files listing, (Reconciler.start opened r).listing files plain = .ok listing →
        listing.generatedText = "cp" := by
  intro r
  obtain ⟨hsource, hserved⟩ := own_text_where_name_tells [.register heldShell] (file "/a.sh")
  have htells : r.TellsLanguage (file "/a.sh") := by
    intro recipe l d _ hd _
    simp only [r, ofChanges, List.foldl_cons, List.foldl_nil, apply, document?_register] at hd
    split at hd
    · next h =>
      rw [h.2]
      decide
    · cases hd
  obtain ⟨-, hread, hupdate⟩ := hserved htells
  have hadmits : (Reconciler.start opened r).Admits (file "/a.sh") plain :=
    ⟨rfl, by decide, by decide, by decide, by decide, rfl⟩
  refine ⟨(hsource (file "/a.bb") .bash heldShell (by decide) (by decide)).2 (by decide), htells,
    hread (file "/a.bb") .bash heldShell "cp" (by decide) (by decide) rfl rfl, hadmits,
    fun files listing hl => ?_⟩
  rcases (hupdate _ plain rfl hadmits).2 files listing hl with h | ⟨h, -⟩
  · exact (Option.some.inj h).symm
  · cases h

open Sample in
/-- The name of the Python document serves the text of the shell document, and an update of the shell
document maps positions in the text of the Python document by the table of the shell document. -/
theorem text_of_another_document :
    (¬ ∀ cs u t, (ofChanges cs).content? u = some t →
      ∃ recipe l d, (ofChanges cs).document? recipe l = some d ∧ d.uri = u ∧ d.content = some t) ∧
    (¬ ∀ cs u recipe l d, (ofChanges cs).recipe? u = some recipe →
      (ofChanges cs).document? recipe l = some d → d.uri = u → d.content.isSome →
        ∃ l' d' t, (ofChanges cs).document? recipe l' = some d' ∧ d'.uri = u ∧ d'.content = some t ∧
          ∀ files, (ofChanges cs).read files u = .ok t) ∧
    ¬ ∀ (s : Reconciler) cs u g files listing, s.registry = ofChanges cs → s.Admits u g →
      g.document.content.isSome → s.listing files g = .ok listing →
        g.document.content = some listing.generatedText := by
  have hread : (ofChanges swapped).content? (file "/a.sh") = some "cp" := by decide
  have hother : (ofChanges swapped).content? (file "/a.py") = some "d" := by decide
  -- the one document with the name holds another text
  have hown : ∀ recipe l d, (ofChanges swapped).document? recipe l = some d → d.uri = file "/a.sh" →
      d.content = some "d" := by
    intro recipe l d hd hu
    have h : (ofChanges swapped).document? recipe l =
        if recipe = file "/a.bb" ∧ l = .python then some swappedPython
        else if recipe = file "/a.bb" ∧ l = .bash then some swappedShell else none := by
      simp only [swapped, ofChanges, List.foldl_cons, List.foldl_nil, apply, document?_register]
      rfl
    rw [h] at hd
    split at hd
    · cases hd
      rfl
    split at hd
    · cases hd
      exact absurd hu (by decide)
    · cases hd
  refine ⟨fun h => ?_, fun h => ?_, fun h => ?_⟩
  · obtain ⟨recipe, l, d, hd, hu, hcontent⟩ := h swapped (file "/a.sh") "cp" hread
    exact absurd ((hown recipe l d hd hu).symm.trans hcontent) (by decide)
  · obtain ⟨l, d, t, hd, hu, hcontent, ht⟩ := h swapped (file "/a.sh") (file "/a.bb") .python swappedPython
      (by decide) (by decide) rfl rfl
    have hcp := (ht fun _ => .error .notFound).symm.trans (read_of_content? hread)
    cases hcp
    exact absurd ((hown _ l d hd hu).symm.trans hcontent) (by decide)
  · have hadmits : (Reconciler.start ⟨.ofList [(file "/a.bb", "cp d")], .empty⟩
        (ofChanges swapped)).Admits (file "/a.sh") confused :=
      ⟨rfl, by decide, by decide, by decide, by decide, rfl⟩
    have hlisting := h _ swapped (file "/a.sh") confused (fun _ => .error .notFound) ⟨confused, "d"⟩ rfl
      hadmits rfl (Reconciler.listing_eq_ok_iff.2 ⟨rfl, read_of_content? hother⟩)
    exact absurd hlisting (by decide)

end RecipeDiag.Registry
