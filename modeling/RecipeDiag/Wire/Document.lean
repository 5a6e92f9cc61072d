import RecipeDiag.Registry
import RecipeDiag.Wire.Basic

/-! # Generated documents as JSON -/

namespace RecipeDiag.GeneratedDocument

/-- Reads a document with a reader for its content. -/
def ofJsonWith? (content : Option Json → Option (Option String)) (j : Json) :
    Option GeneratedDocument := do
  match ← j.record? ["originalUri", "kind", "uri", "characterIndexes", "content"] with
  | [some recipe, some language, some uri, some origins, text] =>
    return {
      recipe := ← Uri.ofJson? recipe
      language := ← Language.ofJson? language
      uri := ← Uri.ofJson? uri
      origins := ← OriginTable.ofJson? origins
      content := ← content text }
  | _ => none

/-- Reads a document that may come without its text. -/
def ofJson? : Json → Option GeneratedDocument := ofJsonWith? (Json.optional? Json.string?)

/-- Reads a document that has to come with its text. -/
def ofJsonWithText? : Json → Option GeneratedDocument :=
  ofJsonWith? fun j => j.bind fun j => j.string?.map some

end RecipeDiag.GeneratedDocument
