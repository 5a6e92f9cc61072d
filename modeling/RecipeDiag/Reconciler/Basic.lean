import RecipeDiag.Channels
import RecipeDiag.Configuration
import RecipeDiag.Inquiry
import RecipeDiag.Registry
import RecipeDiag.Statistics.Basic

/-! # The reconciler's state

The editor's side is a `Workspace`: the open documents and the findings reported so far. The
reconciler adds its registry, its channels, its configuration and statistics, and keeps a record of
everything it published and of every question it asked. -/

namespace RecipeDiag

/-- The open documents and the findings about generated documents. -/
structure Workspace where
  openDocuments : Table Uri String
  findings : Table Uri (List Finding)

namespace Workspace

def empty : Workspace := ⟨.empty, .empty⟩

instance : Inhabited Workspace := ⟨empty⟩

/-- The findings about a document. -/
def findingsOf (w : Workspace) (u : Uri) : List Finding := (w.findings.get? u).getD []

/-- The documents that have findings, in ascending order. -/
def reported (w : Workspace) : List Uri :=
  Uri.sort (w.findings.keys.filter fun u => !(w.findingsOf u).isEmpty)

end Workspace

/-- A set of diagnostics that replaced all others shown for a recipe. -/
structure Publication where
  recipe : Uri
  diagnostics : List Diagnostic
  deriving DecidableEq, Repr

structure Reconciler where
  workspace : Workspace
  registry : Registry
  channels : Channels
  configuration : Configuration
  statistics : Statistics
  /-- Everything published, oldest first. -/
  published : List Publication
  /-- Every question asked and the recipe it was about, oldest first. -/
  asked : List (Uri × Question)

/-- An order in which documents are listed. -/
structure Arrangement where
  order : List Uri → List Uri
  /-- None is left out or listed again. -/
  perm : ∀ us, (order us).Perm us

/-- Documents are listed in ascending order. -/
def Arrangement.ascending : Arrangement := ⟨id, .refl⟩

/-- The machine that the reconciler runs on. -/
structure Host where
  files : FileReader
  /-- The order in which the documents with findings are listed. -/
  arrangement : Arrangement
  /-- How many nanoseconds the update of a generated document takes. -/
  elapsed : Uri → Nat

/-- A machine of which only the files matter. -/
def Host.ofFiles (files : FileReader) : Host := ⟨files, .ascending, fun _ => 0⟩

/-- What the reconciler cannot know by itself: the machine and the tooling for recipes. -/
structure Surroundings extends Host where
  service : LanguageService

namespace Surroundings

/-- The documents that have findings, as they are listed. -/
def reported (s : Surroundings) (w : Workspace) : List Uri := s.arrangement.order w.reported

end Surroundings

namespace Reconciler

/-- Nothing is known yet and nothing shown. -/
def start (w : Workspace) (g : Registry) : Reconciler :=
  ⟨w, g, .empty, .default, .empty, [], []⟩

instance : Inhabited Reconciler := ⟨start .empty .empty⟩

/-- Adds one to a counter. -/
def count (r : Reconciler) (name : String) : Reconciler :=
  { r with statistics := r.statistics.increment name 1 }

/-- Lays settings over the configuration. -/
def configure (r : Reconciler) (settings : Json) : Reconciler :=
  { r with configuration := r.configuration.apply settings }

/-- What both channels hold for a recipe. -/
def holding (r : Reconciler) (recipe : Uri) : Publication := ⟨recipe, r.channels.merged recipe⟩

/-- Shows a set of diagnostics for a recipe. -/
def publish (r : Reconciler) (p : Publication) : Reconciler :=
  { r with published := r.published ++ [p] }

/-- The last set shown for a recipe. -/
def lastPublished? (r : Reconciler) (recipe : Uri) : Option (List Diagnostic) :=
  (r.published.reverse.find? fun p => p.recipe = recipe).map Publication.diagnostics

end Reconciler
end RecipeDiag
