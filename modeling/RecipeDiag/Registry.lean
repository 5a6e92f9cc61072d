import RecipeDiag.FileTree
import RecipeDiag.Language
import RecipeDiag.Table
import RecipeDiag.Text.Origin
import RecipeDiag.Uri.File

/-! # Generated documents

The registry knows the documents that were generated for recipes, at most one for each recipe and
language. It answers both ways: which document a recipe has in a language, and which recipe a
generated document belongs to. -/

namespace RecipeDiag

/-- A document generated for a recipe, with its text if the text is held in memory. -/
structure GeneratedDocument where
  recipe : Uri
  language : Language
  uri : Uri
  origins : OriginTable
  content : Option String
  deriving DecidableEq, Repr

structure Registry where
  /-- The document of a recipe in a language. -/
  documents : Table (Uri × Language) GeneratedDocument
  /-- The recipe of a generated document. -/
  recipes : Table Uri Uri
  deriving DecidableEq

namespace Registry

def empty : Registry := ⟨.empty, .empty⟩

instance : Inhabited Registry := ⟨empty⟩

/-- The document of a recipe in a language. -/
def document? (r : Registry) (recipe : Uri) (l : Language) : Option GeneratedDocument :=
  r.documents.get? (recipe, l)

/-- The recipe that a generated document belongs to. -/
def recipe? (r : Registry) (generated : Uri) : Option Uri := r.recipes.get? generated

/-- Adds a document in place of the one that its recipe had in its language. A document that is
replaced under another name is forgotten. -/
def register (r : Registry) (d : GeneratedDocument) : Registry :=
  let recipes := match r.document? d.recipe d.language with
    | some old => if old.uri = d.uri then r.recipes else r.recipes.erase old.uri
    | none => r.recipes
  { documents := r.documents.insert (d.recipe, d.language) d
    recipes := recipes.insert d.uri d.recipe }

/-- Forgets the document of a recipe in a language. -/
def removeDocument (r : Registry) (recipe : Uri) (l : Language) : Registry :=
  match r.document? recipe l with
  | some d => ⟨r.documents.erase (recipe, l), r.recipes.erase d.uri⟩
  | none => r

/-- Forgets every document of a recipe. -/
def remove (r : Registry) (recipe : Uri) : Registry :=
  Language.all.foldl (fun r l => r.removeDocument recipe l) r

/-- The text held for a generated document, whose language its extension tells. -/
def content? (r : Registry) (generated : Uri) : Option String := do
  let recipe ← r.recipe? generated
  let l ← Language.ofUri? generated
  let d ← r.document? recipe l
  d.content

/-- The text of a generated document: the one in memory, or else that of the local file it names. -/
def read (r : Registry) (files : FileReader) (generated : Uri) : Except Fault String :=
  match r.content? generated with
  | some text => .ok text
  | none =>
    match generated.filePath? with
    | none => .error (.notAFile generated)
    | some path => (files path).mapError (.unreadable generated)

/-- The registry of a list of documents, registered in order. -/
def ofList (ds : List GeneratedDocument) : Registry := ds.foldl register empty

end Registry
end RecipeDiag
