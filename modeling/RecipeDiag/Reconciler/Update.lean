import RecipeDiag.Reconciler.Basic
import RecipeDiag.Reconciler.Verdict

/-! # Updates

An update reconciles the findings about one generated document and publishes the result for its
recipe. It goes through the phases below, each of which takes what the one before it found out. Only
an open recipe is updated, and a failing update changes nothing that is shown.

* `Opening`: the document is a generated one of a known recipe, and diagnostics are enabled.
* `Reading`: the recipe is open and has a document in the language.
* `Listing`: the text of the document is read.
* the findings are judged, each by an inquiry;
* `Outcome`: the diagnostics that are left. -/

namespace RecipeDiag

structure Opening where
  recipe : Uri
  language : Language
  importLineThreshold : UInt32

structure Reading where
  opening : Opening
  recipeText : String
  document : GeneratedDocument

structure Listing where
  reading : Reading
  generatedText : String

/-- The diagnostics that become the entry of a recipe in the channel of a language. -/
structure Outcome where
  recipe : Uri
  language : Language
  diagnostics : List Diagnostic

namespace Reconciler

/-- Begins the update of a generated document, if there is anything to update. -/
def opening? (r : Reconciler) (generated : Uri) : Option Opening := do
  guard r.configuration.enabled
  let language ← Language.ofUri? generated
  let recipe ← r.registry.recipe? generated
  return ⟨recipe, language, r.configuration.importLineThreshold⟩

/-- Looks the recipe up among the open documents. -/
def reading? (r : Reconciler) (o : Opening) : Option Reading := do
  let text ← r.workspace.openDocuments.get? o.recipe
  let document ← r.registry.document? o.recipe o.language
  return ⟨o, text, document⟩

/-- Reads the generated document. -/
def listing (r : Reconciler) (files : FileReader) (g : Reading) : Except Fault Listing :=
  (r.registry.read files g.document.uri).map (⟨g, ·⟩)

end Reconciler

namespace Listing

def assignment (l : Listing) : Assignment where
  recipe := l.reading.opening.recipe
  language := l.reading.opening.language
  recipeText := l.reading.recipeText.toList
  generatedText := l.generatedText.toList
  origins := l.reading.document.origins
  importLineThreshold := l.reading.opening.importLineThreshold

/-- One inquiry for each finding about the document. -/
def inquiries (l : Listing) (w : Workspace) : List (Inquiry Verdict) :=
  (w.findingsOf l.reading.document.uri).map l.assignment.judge

/-- The outcome of the verdicts on all findings. -/
def outcome (l : Listing) (vs : List Verdict) : Outcome :=
  ⟨l.reading.opening.recipe, l.reading.opening.language, vs.filterMap Verdict.diagnostic?⟩

end Listing

namespace Reconciler

/-- Counts what a verdict adds to. -/
def countVerdict (r : Reconciler) (v : Verdict) : Reconciler :=
  match v.counter? with
  | some name => r.count name
  | none => r

/-- Records that a question was asked. -/
def ask (r : Reconciler) (recipe : Uri) (q : Question) : Reconciler :=
  { r with asked := r.asked ++ [(recipe, q)] }

/-- Goes through an inquiry. -/
def inquire (r : Reconciler) (service : LanguageService) (recipe : Uri) (q : Inquiry Verdict) :
    Reconciler × Except Fault Verdict :=
  let r := (q.questions service recipe).foldl (fun r question => r.ask recipe question) r
  match q.run service recipe with
  | .ok v => (r.countVerdict v, .ok v)
  | .error e => (r, .error e)

/-- Goes through all inquiries; a failing one does not keep the others from being counted. -/
def inquireAll (r : Reconciler) (service : LanguageService) (recipe : Uri) :
    List (Inquiry Verdict) → Reconciler × List (Except Fault Verdict)
  | [] => (r, [])
  | q :: qs =>
    let (r, v) := r.inquire service recipe q
    let (r, vs) := r.inquireAll service recipe qs
    (r, v :: vs)

/-- All results, or the first failure. -/
def firstFailure {α : Type} : List (Except Fault α) → Except Fault (List α)
  | [] => .ok []
  | .ok a :: rest => (firstFailure rest).map (a :: ·)
  | .error e :: _ => .error e

/-- Makes an outcome the entry of its recipe in the channel of its language. -/
def commit (r : Reconciler) (o : Outcome) : Reconciler :=
  { r with channels := r.channels.set o.language o.recipe o.diagnostics }

/-- Publishes what both channels hold for a recipe. -/
def announce (r : Reconciler) (recipe : Uri) : Reconciler :=
  r.publish (r.holding recipe)

/-- Counts the diagnostics of an outcome. -/
def countOutcome (r : Reconciler) (o : Outcome) : Reconciler :=
  { r with
    statistics := r.statistics.increment Statistics.published (UInt64.ofNat o.diagnostics.length) }

/-- Judges the findings about a document that was read and publishes what is left. -/
def judgeAll (r : Reconciler) (s : Surroundings) (l : Listing) : Reconciler × Except Fault Unit :=
  let recipe := l.reading.opening.recipe
  let (r, results) := r.inquireAll s.service recipe (l.inquiries r.workspace)
  match firstFailure results with
  | .error e => (r, .error e)
  | .ok verdicts =>
    let outcome := l.outcome verdicts
    (((r.countOutcome outcome).commit outcome).announce recipe, .ok ())

/-- Ends the timing of an update that took so many nanoseconds. -/
def time (r : Reconciler) (nanos : Nat) : Reconciler :=
  { r with statistics := r.statistics.record Statistics.updateOperation nanos }

/-- Reconciles the findings about one generated document. Nothing happens unless diagnostics are
enabled and the document is registered for a recipe that is open. -/
def update (r : Reconciler) (s : Surroundings) (generated : Uri) : Reconciler × Except Fault Unit :=
  match (r.opening? generated).bind r.reading? with
  | none => (r, .ok ())
  | some g =>
    let (r, result) : Reconciler × Except Fault Unit := match r.listing s.files g with
      | .error e => (r, .error e)
      | .ok l => r.judgeAll s l
    (r.time (s.elapsed generated), result)

end Reconciler
end RecipeDiag
