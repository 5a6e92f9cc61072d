import RecipeDiag.Reconciler.Basic

/-! # What the editor reports

The editor opens, changes and closes recipes, registers the documents generated for them, and reports
findings about these. An `Edit` is one such report; none of them shows anything by itself. -/

namespace RecipeDiag

inductive Edit where
  /-- A recipe is open with this text. -/
  | setText (recipe : Uri) (text : String)
  | close (recipe : Uri)
  | register (document : GeneratedDocument)
  /-- The generated documents of a recipe are gone. -/
  | removeDocuments (recipe : Uri)
  /-- These are all findings about a generated document. -/
  | setFindings (generated : Uri) (findings : List Finding)
  deriving DecidableEq, Repr

namespace Workspace

/-- Replaces the text of a recipe, which is open from then on. -/
def setText (w : Workspace) (recipe : Uri) (text : String) : Workspace :=
  { w with openDocuments := w.openDocuments.insert recipe text }

def close (w : Workspace) (recipe : Uri) : Workspace :=
  { w with openDocuments := w.openDocuments.erase recipe }

/-- Replaces the findings about a document; a document without findings has no entry. -/
def setFindings (w : Workspace) (generated : Uri) (fs : List Finding) : Workspace :=
  { w with
    findings := if fs.isEmpty then w.findings.erase generated else w.findings.insert generated fs }

end Workspace

/-- Takes over what the editor reports. -/
def Reconciler.edit (r : Reconciler) : Edit → Reconciler
  | .setText recipe text => { r with workspace := r.workspace.setText recipe text }
  | .close recipe => { r with workspace := r.workspace.close recipe }
  | .register d => { r with registry := r.registry.register d }
  | .removeDocuments recipe => { r with registry := r.registry.remove recipe }
  | .setFindings generated fs => { r with workspace := r.workspace.setFindings generated fs }

end RecipeDiag
