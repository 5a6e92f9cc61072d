import Mathlib.Data.List.Basic
import RecipeDiag.Proofs.Channels
import RecipeDiag.Proofs.Reconciler.Image
import RecipeDiag.Proofs.Reconciler.Operation
import RecipeDiag.Proofs.Reconciler.Reflection
import RecipeDiag.Snapshot.Report

/-!
# The offline report shows what is published

Updates from an empty start keep the channels and what was published in line (`Aligned`): a recipe has
an entry exactly if something was published for it, and the last set is what both channels hold. So the
block of a snapshot, which is laid out from the channels, tells what was published (`tells_block`). The
report is the blocks one after the other; a snapshot that has none leaves those of the others as they are.
-/

namespace RecipeDiag

namespace Reconciler
variable {r : Reconciler} {s : Surroundings} {o : Outcome}

/-- What the channels hold and what was published are in line. -/
structure Aligned (r : Reconciler) : Prop where
  distinct : r.channels.Distinct
  settled : ∀ recipe, r.Settled recipe
  entry : ∀ recipe, r.lastPublished? recipe ≠ none → r.channels.HasEntry recipe

theorem aligned_start (w : Workspace) (g : Registry) : (start w g).Aligned where
  distinct := Channels.distinct_empty
  settled _ := settled_start w g
  entry _ h := absurd rfl h

namespace Aligned

/-- Of a recipe with an entry something was published, and last what both channels hold. -/
theorem lastPublished?_eq (h : r.Aligned) {recipe : Uri} (he : r.channels.HasEntry recipe) :
    r.lastPublished? recipe = some (r.channels.merged recipe) := by
  rcases h.settled recipe with ⟨-, hnone⟩ | hlast
  · obtain ⟨l, hl⟩ := he
    exact absurd (hnone l) hl
  · exact hlast

theorem settle (h : r.Aligned) (o : Outcome) : (r.settle o).Aligned where
  distinct := h.distinct.set o.language o.recipe o.diagnostics
  settled recipe := (h.settled recipe).settle
  entry recipe hlast := by
    refine Channels.hasEntry_set.2 ?_
    rw [lastPublished?_of_append published_settle] at hlast
    split at hlast
    · next ho => exact .inl ho.symm
    · exact .inr (h.entry recipe hlast)

theorem update (h : r.Aligned) (s : Surroundings) (u : Uri) : (r.update s u).1.Aligned := by
  obtain ⟨st, as, hu⟩ := update_eq r s u
  rw [hu]
  have htake : (r.takeOver (r.outcome s u)).Aligned := by
    unfold takeOver
    split
    · exact h.settle _
    · exact h
  exact ⟨htake.distinct, fun recipe => (htake.settled recipe).congr (fun _ => rfl) rfl, htake.entry⟩

theorem review (h : r.Aligned) (s : Surroundings) : (r.review s).1.Aligned :=
  updateAll_induction h (fun _ u h => h.update s u) _

end Aligned
end Reconciler

namespace Report
variable {host : Host} {path : String} {content : Except FileError String} {s : Snapshot}

/-! ### One block -/

/-- The severities by name. -/
def severityNames : List (Int32 × String) := [(1, "ERROR"), (2, "WARN"), (3, "INFO"), (4, "HINT")]

/-- What is shown of a diagnostic: the name of its severity, where it begins, its source and its message. -/
def entry (d : Diagnostic) : String :=
  "    " ++ (d.severity.bind fun severity => severityNames.lookup severity).getD "UNKNOWN" ++ ":" ++
    toString d.range.start.line.toNat ++ ":" ++ toString d.range.start.character.toNat ++
    " [" ++ d.source ++ "] - " ++ d.message

/-- The lines of a block: its path, then each recipe with what is shown for it. -/
def layout (path : String) (recipes : List Uri) (shown : Uri → List Diagnostic) : List String :=
  ("Diagnostics for " ++ path ++ ":") ::
    (if recipes.isEmpty then ["  (no diagnostics)"]
      else recipes.flatMap fun u => ("  " ++ u.text) :: (shown u).map entry) ++ [""]

/-- The lines are laid out from the recipes with an entry, each once and in ascending order, which are
those that something was published for, and from the last set published for each. -/
structure Tells (r : Reconciler) (path : String) (recipes : List Uri) (shown : Uri → List Diagnostic)
    (lines : List String) : Prop where
  nodup : recipes.Nodup
  ascending : recipes.Pairwise (· ≤ ·)
  mem_iff_hasEntry : ∀ u, u ∈ recipes ↔ r.channels.HasEntry u
  mem_iff_published : ∀ u, u ∈ recipes ↔ ∃ p ∈ r.published, p.recipe = u
  last : ∀ u ∈ recipes, r.lastPublished? u = some (shown u)
  lines_eq : lines = layout path recipes shown

theorem Tells.congr {r : Reconciler} {recipes : List Uri} {shown shown' : Uri → List Diagnostic}
    {lines : List String} (h : Tells r path recipes shown lines) (hshown : ∀ u ∈ recipes, shown u = shown' u) :
    Tells r path recipes shown' lines where
  nodup := h.nodup
  ascending := h.ascending
  mem_iff_hasEntry := h.mem_iff_hasEntry
  mem_iff_published := h.mem_iff_published
  last u hu := by rw [h.last u hu, hshown u hu]
  lines_eq := by
    have hblocks := List.flatMap_congr (l := recipes) (f := fun u => ("  " ++ u.text) :: (shown u).map entry)
      (g := fun u => ("  " ++ u.text) :: (shown' u).map entry) fun u hu => by rw [hshown u hu]
    rw [h.lines_eq, layout, layout, hblocks]

theorem lastPublished?_ne_none_iff {r : Reconciler} {u : Uri} :
    r.lastPublished? u ≠ none ↔ ∃ p ∈ r.published, p.recipe = u := by
  simp [Reconciler.lastPublished?]

theorem severityLabel_eq (severity : Option Int32) :
    severityLabel severity = (severity.bind fun severity => severityNames.lookup severity).getD "UNKNOWN" := by
  unfold severityLabel
  split
  · rfl
  · rfl
  · rfl
  · rfl
  · next h₁ h₂ h₃ h₄ =>
    cases severity with
    | none => rfl
    | some severity =>
      have hnone : severityNames.lookup severity = none := by
        rw [List.lookup_eq_none_iff]
        intro e he
        simp only [severityNames, List.mem_cons, List.not_mem_nil, or_false] at he
        rcases he with rfl | rfl | rfl | rfl
        · exact bne_iff_ne.2 fun h => h₁ (congrArg some h)
        · exact bne_iff_ne.2 fun h => h₂ (congrArg some h)
        · exact bne_iff_ne.2 fun h => h₃ (congrArg some h)
        · exact bne_iff_ne.2 fun h => h₄ (congrArg some h)
      rw [Option.bind_some, hnone, Option.getD_none]

theorem diagnosticLine_eq (d : Diagnostic) : diagnosticLine d = entry d := by
  unfold diagnosticLine entry
  rw [severityLabel_eq]

theorem block_eq (path : String) (c : Channels) : block path c = layout path c.recipes c.merged := by
  have hlines (u : Uri) : recipeLines c u = ("  " ++ u.text) :: (c.merged u).map entry := by
    rw [recipeLines, funext diagnosticLine_eq]
  rw [block, layout, ← funext hlines]
  cases c.recipes <;> rfl

theorem tells_block {r : Reconciler} (h : r.Aligned) (path : String) :
    Tells r path r.channels.recipes r.channels.merged (block path r.channels) where
  nodup := Channels.nodup_recipes h.distinct
  ascending := Channels.ascending_recipes r.channels
  mem_iff_hasEntry _ := Channels.mem_recipes_iff
  mem_iff_published u := by
    rw [Channels.mem_recipes_iff, ← lastPublished?_ne_none_iff]
    constructor
    · intro he
      rw [h.lastPublished?_eq he]
      exact Option.some_ne_none _
    · exact h.entry u
  last u hu := h.lastPublished?_eq (Channels.mem_recipes_iff.1 hu)
  lines_eq := block_eq path r.channels

/-! ### All blocks -/

/-- What a path contributes to the report. -/
def part (host : Host) (path : String) (content : Except FileError String) : List String :=
  (ofFile host path content).toOption.getD []

theorem fst_ofFiles (host : Host) (contents : List (String × Except FileError String)) :
    (ofFiles host contents).1 = contents.flatMap fun c => part host c.1 c.2 := by
  induction contents with
  | nil => rfl
  | cons c cs ih =>
    rw [List.flatMap_cons, ← ih, part]
    simp only [ofFiles, List.map_cons, List.flatMap_cons]
    cases ofFile host c.1 c.2 <;> rfl

theorem part_of_load_error {complaint : Complaint} (h : load path content = .error complaint) :
    part host path content = [] := by
  rw [part, ofFile, h]
  rfl

theorem part_of_load (h : load path content = .ok s) : part host path content =
    ((s.reconciler.review (s.surroundings host)).2.map fun _ =>
      block path (s.reconciler.review (s.surroundings host)).1.channels).toOption.getD [] := by
  simp only [part, ofFile, h, bind, Except.bind]
  generalize s.reconciler.review (s.surroundings host) = reviewed
  obtain ⟨r, result⟩ := reviewed
  cases result <;> rfl

theorem part_of_review_error {fault : Fault} (h : load path content = .ok s)
    (hreview : (s.reconciler.review (s.surroundings host)).2 = .error fault) :
    part host path content = [] := by
  rw [part_of_load h, hreview]
  rfl

theorem part_of_review_ok (h : load path content = .ok s)
    (hreview : (s.reconciler.review (s.surroundings host)).2 = .ok ()) :
    part host path content = block path (s.reconciler.review (s.surroundings host)).1.channels := by
  rw [part_of_load h, hreview]
  rfl

theorem fst_ofFiles_without (h : part host path content = [])
    (before after : List (String × Except FileError String)) :
    (ofFiles host (before ++ (path, content) :: after)).1 = (ofFiles host (before ++ after)).1 := by
  simp only [fst_ofFiles, List.flatMap_append, List.flatMap_cons, h, List.nil_append]

/-- The report is what the paths contribute, in their order. A snapshot that does not load, or whose
review fails, contributes nothing, and the report is the same without it; any other contributes a block
that tells what its review published. -/
theorem offline_report_shows_what_is_published (host : Host) :
    (∀ contents, (ofFiles host contents).1 = contents.flatMap fun c => part host c.1 c.2) ∧
    (∀ path content complaint, load path content = .error complaint → part host path content = [] ∧
      ∀ before after,
        (ofFiles host (before ++ (path, content) :: after)).1 = (ofFiles host (before ++ after)).1) ∧
    ∀ path content s, load path content = .ok s →
      (∀ fault, (s.reconciler.review (s.surroundings host)).2 = .error fault →
        part host path content = [] ∧ ∀ before after,
          (ofFiles host (before ++ (path, content) :: after)).1 = (ofFiles host (before ++ after)).1) ∧
      ((s.reconciler.review (s.surroundings host)).2 = .ok () → ∃ recipes shown,
        Tells (s.reconciler.review (s.surroundings host)).1 path recipes shown (part host path content)) := by
  refine ⟨fst_ofFiles host, fun path content complaint hload => ?_, fun path content s hload => ⟨?_, ?_⟩⟩
  · have hpart : part host path content = [] := part_of_load_error hload
    exact ⟨hpart, fst_ofFiles_without hpart⟩
  · intro fault hreview
    have hpart := part_of_review_error hload hreview
    exact ⟨hpart, fst_ofFiles_without hpart⟩
  · intro hreview
    have haligned : (s.reconciler.review (s.surroundings host)).1.Aligned :=
      (Reconciler.aligned_start ..).review (s.surroundings host)
    rw [part_of_review_ok hload hreview]
    exact ⟨_, _, tells_block haligned path⟩

namespace Sample
open Reconciler.Sample

/-- A snapshot of two recipes with findings, in pieces. -/
def good : List String :=
  ["[\x7b\"a:a\":\"xy\",", "\"a:b\":\"z\"\x7d,", "[[\"a:a\",\"bash\",", "\"a:.sh\",[0,1],\"xy\"],",
    "[\"a:b\",\"python\",", "\"b:.py\",[0],\"z\"]],", "\x7b\"b:.py\":[[", "[[0,0],[0,1]],null,",
    "null,\"Pylint\",", "\"o\"]],\"a:.sh\":[[", "[[0,0],[0,1]],2,", "null,\"shellcheck\",", "\"m\"],[",
    "[[0,1],[0,2]],1,", "null,\"shellcheck\",", "\"n\"]]\x7d,[],", "[[\"a:a\",\"bash\",", "[[0,0],[1,0]]],",
    "[\"a:b\",\"python\",", "[[0,0],[1,0]]]]]"]

/-- A snapshot in which the document of the findings is kept under the wrong language, so that another
one is read. -/
def failing : List String :=
  ["[\x7b\"a:a\":\"x\"\x7d,", "[[\"a:a\",\"python\",", "\"a:.sh\",[],\"x\"],", "[\"a:a\",\"bash\",",
    "\"a:c\",[],\"y\"]],", "\x7b\"a:.sh\":[[", "[[0,0],[0,1]],2,", "null,\"\",\"\"]]\x7d]"]

def contents : List (String × Except FileError String) :=
  [("cut.json", .ok "["), ("good.json", .ok (String.join good)), ("failing.json", .ok (String.join failing))]

def shellRecipe : Uri := ⟨"a", none, "a", none, none⟩

def pythonRecipe : Uri := ⟨"a", none, "b", none, none⟩

/-- What is last published for each recipe. -/
def shown (u : Uri) : List Diagnostic :=
  if u = shellRecipe then [
    ⟨⟨⟨0, 0⟩, ⟨0, 1⟩⟩, some 2, none, none, "shellcheck, bitbake-bash", "m", none⟩,
    ⟨⟨⟨0, 1⟩, ⟨0, 2⟩⟩, some 1, none, none, "shellcheck, bitbake-bash", "n", none⟩]
  else [⟨⟨⟨0, 0⟩, ⟨0, 1⟩⟩, none, none, none, "Pylint, bitbake-python", "o", none⟩]

theorem load_join {β : Type} (path : String) (pieces : List String) (f : Snapshot → β) (b : β)
    (h : ((Json.read? (pieces.flatMap String.toList)).bind Snapshot.ofJson?).map f = some b) :
    ∃ s, load path (.ok (String.join pieces)) = .ok s ∧ f s = b := by
  rw [← String.toList_join] at h
  obtain ⟨s, hs, hf⟩ := Option.map_eq_some_iff.1 h
  refine ⟨s, ?_, hf⟩
  rw [load, Snapshot.ofText?, hs]

def shellScript : Uri := ⟨"a", none, ".sh", none, none⟩

def pythonScript : Uri := ⟨"b", none, ".py", none, none⟩

/-- The review updates both documents, in this order. -/
theorem load_good : ∃ s, load "good.json" (.ok (String.join good)) = .ok s ∧
    (s.reconciler.review (s.surroundings noFiles)).2 = .ok () ∧
    (s.reconciler.review (s.surroundings noFiles)).1.published =
      [⟨shellRecipe, shown shellRecipe⟩, ⟨pythonRecipe, shown pythonRecipe⟩] := by
  obtain ⟨s, hload, hall⟩ := load_join "good.json" good (fun s =>
    let reviewed := s.reconciler.updateAll (s.surroundings noFiles) [shellScript, pythonScript]
    (s.findings.keys.filter fun u => !(s.reconciler.workspace.findingsOf u).isEmpty,
      ((Reconciler.firstFailure reviewed.2).map fun _ => ()).toOption, reviewed.1.published))
    ([shellScript, pythonScript], some (),
      [⟨shellRecipe, shown shellRecipe⟩, ⟨pythonRecipe, shown pythonRecipe⟩]) (by decide +kernel)
  obtain ⟨hkeys, hrest⟩ := Prod.mk.inj hall
  obtain ⟨hresult, hpublished⟩ := Prod.mk.inj hrest
  have hreported : (s.surroundings noFiles).reported s.reconciler.workspace = [shellScript, pythonScript] := by
    show Uri.sort (s.findings.keys.filter fun u => !(s.reconciler.workspace.findingsOf u).isEmpty) = _
    rw [hkeys]
    exact List.mergeSort_of_pairwise (by decide)
  have hreview : s.reconciler.review (s.surroundings noFiles) =
      ((s.reconciler.updateAll (s.surroundings noFiles) [shellScript, pythonScript]).1,
        (Reconciler.firstFailure (s.reconciler.updateAll (s.surroundings noFiles)
          [shellScript, pythonScript]).2).map fun _ => ()) := by
    rw [← hreported]
    rfl
  refine ⟨s, hload, ?_, hreview ▸ hpublished⟩
  rw [hreview]
  revert hresult
  cases (Reconciler.firstFailure (s.reconciler.updateAll (s.surroundings noFiles)
    [shellScript, pythonScript]).2).map fun _ => () with
  | ok u => exact fun _ => rfl
  | error e => exact nofun

theorem load_failing : ∃ s fault, load "failing.json" (.ok (String.join failing)) = .ok s ∧
    (s.reconciler.review (s.surroundings noFiles)).2 = .error fault := by
  obtain ⟨s, hload, hreview⟩ := load_join "failing.json" failing
    (fun s => (s.reconciler.review (s.surroundings noFiles)).2.toOption) none (by decide +kernel)
  cases hresult : (s.reconciler.review (s.surroundings noFiles)).2 with
  | ok u => rw [hresult] at hreview; cases hreview
  | error e => exact ⟨s, e, hload, hresult⟩

theorem load_cut : load "cut.json" (.ok "[") = .error (.noSnapshot "cut.json") := rfl

end Sample

open Sample Reconciler.Sample in
/-- Of three paths the second contributes all there is. -/
theorem offline_report_shows_what_is_published_of_three :
    ∃ s, load "good.json" (.ok (String.join good)) = .ok s ∧
      Tells (s.reconciler.review (s.surroundings noFiles)).1 "good.json" [shellRecipe, pythonRecipe] shown
        (ofFiles noFiles contents).1 ∧
      (ofFiles noFiles contents).1 = [
        "Diagnostics for good.json:",
        "  a:a",
        "    WARN:0:0 [shellcheck, bitbake-bash] - m",
        "    ERROR:0:1 [shellcheck, bitbake-bash] - n",
        "  a:b",
        "    UNKNOWN:0:0 [Pylint, bitbake-python] - o",
        ""] := by
  obtain ⟨hall, hcomplaint, hloaded⟩ := offline_report_shows_what_is_published noFiles
  obtain ⟨s, hgood, hreview, hpublished⟩ := load_good
  obtain ⟨s', fault, hfailing, hfault⟩ := load_failing
  obtain ⟨recipes, shown', htells⟩ := (hloaded _ _ _ hgood).2 hreview
  have hcut : (ofFiles noFiles contents).1 = (ofFiles noFiles (contents.drop 1)).1 :=
    (hcomplaint _ _ _ load_cut).2 [] (contents.drop 1)
  have hwithout : (ofFiles noFiles (contents.drop 1)).1 =
      (ofFiles noFiles [("good.json", .ok (String.join good))]).1 :=
    ((hloaded _ _ _ hfailing).1 _ hfault).2 [("good.json", .ok (String.join good))] []
  have hgoodOnly := hall [("good.json", .ok (String.join good))]
  rw [List.flatMap_cons, List.flatMap_nil, List.append_nil] at hgoodOnly
  rw [hcut, hwithout, hgoodOnly]
  generalize hreviewed : (s.reconciler.review (s.surroundings noFiles)).1 = r at htells hpublished
  have hmem (u : Uri) : u ∈ [shellRecipe, pythonRecipe] ↔ u ∈ recipes := by
    rw [htells.mem_iff_published, hpublished]
    simp [eq_comm]
  have hperm : [shellRecipe, pythonRecipe].Perm recipes :=
    (List.perm_ext_iff_of_nodup (by decide) htells.nodup).2 hmem
  have hrecipes : [shellRecipe, pythonRecipe] = recipes := by
    refine hperm.eq_of_pairwise (fun u v hu hv => ?_) (by decide) htells.ascending
    rw [← hmem] at hv
    simp only [List.mem_cons, List.not_mem_nil, or_false] at hu hv
    rcases hu with rfl | rfl <;> rcases hv with rfl | rfl <;> decide
  subst hrecipes
  have hshown : ∀ u ∈ [shellRecipe, pythonRecipe], shown' u = shown u := by
    intro u hu
    have hlast := htells.last u hu
    simp only [List.mem_cons, List.not_mem_nil, or_false] at hu
    rw [Reconciler.lastPublished?, hpublished] at hlast
    rcases hu with rfl | rfl <;> exact Option.some.inj (hlast.symm.trans rfl)
  have htells := htells.congr hshown
  exact ⟨s, hgood, hreviewed ▸ htells, htells.lines_eq.trans (by decide)⟩

end Report
end RecipeDiag
