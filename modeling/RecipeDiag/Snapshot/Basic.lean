import RecipeDiag.Json.Reader
import RecipeDiag.Reconciler.Basic
import RecipeDiag.Wire.Diagnostic
import RecipeDiag.Wire.Document

/-! # Workspace snapshots

A snapshot holds all that a reconciliation needs: open recipes, generated documents, findings, and
what the tooling would answer about definitions and languages. -/

namespace RecipeDiag

/-- A symbol that is found from every position of a range. -/
structure SymbolDefinition where
  uri : Uri
  range : Range
  target : Location
  deriving DecidableEq, Repr

/-- A part of a recipe in an embedded language. -/
structure Region where
  uri : Uri
  language : Language
  range : Range
  deriving DecidableEq, Repr

structure Snapshot where
  openDocuments : Table Uri String
  documents : List GeneratedDocument
  findings : Table Uri (List Finding)
  definitions : List SymbolDefinition
  regions : List Region

namespace Snapshot

/-! ### Reading -/

def definitionOfJson? (j : Json) : Option SymbolDefinition := do
  match ← j.record? ["uri", "range", "target"] with
  | [some u, some r, some t] => return ⟨← Uri.ofJson? u, ← Range.ofJson? r, ← Location.ofJson? t⟩
  | _ => none

def regionOfJson? (j : Json) : Option Region := do
  match ← j.record? ["uri", "kind", "range"] with
  | [some u, some l, some r] => return ⟨← Uri.ofJson? u, ← Language.ofJson? l, ← Range.ofJson? r⟩
  | _ => none

/-- Reads a table whose keys are identifiers. -/
def tableOfJson? {β : Type} (value : Json → Option β) (j : Json) : Option (Table Uri β) :=
  (j.map? Uri.parse? value).map Table.ofList

/-- Reads a snapshot; every part may be missing. -/
def ofJson? (j : Json) : Option Snapshot := do
  match ← j.record? ["openDocuments", "embeddedDocuments", "diagnostics", "definitions", "regions"] with
  | [opens, documents, findings, definitions, regions] =>
    return {
      openDocuments := ← Json.orDefault? .empty (tableOfJson? Json.string?) opens
      documents := ← Json.orDefault? [] (Json.list? GeneratedDocument.ofJsonWithText?) documents
      findings := ← Json.orDefault? .empty (tableOfJson? (Json.list? Finding.ofJson?)) findings
      definitions := ← Json.orDefault? [] (Json.list? definitionOfJson?) definitions
      regions := ← Json.orDefault? [] (Json.list? regionOfJson?) regions }
  | _ => none

/-- Reads a snapshot from its text. -/
def ofText? (text : String) : Option Snapshot := (Json.read? text.toList).bind ofJson?

/-! ### Running -/

/-- The tooling that the snapshot stands for; it never fails. -/
def service (s : Snapshot) : LanguageService where
  languageAt u p :=
    .ok ((s.regions.find? fun r => r.uri = u ∧ r.range.Contains p).map Region.language)
  definitions u p :=
    .ok ((s.definitions.filter fun d => d.uri = u ∧ d.range.Contains p).map SymbolDefinition.target)

/-- A reconciler that knows the snapshot's documents and findings. -/
def reconciler (s : Snapshot) : Reconciler :=
  .start ⟨s.openDocuments, s.findings⟩ (.ofList s.documents)

/-- The snapshot's tooling on a machine. -/
def surroundings (s : Snapshot) (host : Host) : Surroundings := ⟨host, s.service⟩

end Snapshot
end RecipeDiag
