import RecipeDiag.Server.Capability
import RecipeDiag.Wire.Diagnostic
import RecipeDiag.Wire.Document

/-! # Parameters of requests and notifications -/

namespace RecipeDiag

namespace Params

/-! ### Documents -/

/-- The identifier of a document. -/
def document? (j : Json) : Option Uri := do
  match ← j.record? ["uri"] with
  | [some u] => Uri.ofJson? u
  | _ => none

/-- A document that was opened, with its text. -/
def opened? (j : Json) : Option (Uri × String) := do
  match ← j.record? ["textDocument"] with
  | [some item] =>
    match ← item.record? ["uri", "languageId", "version", "text"] with
    | [some u, some languageId, some version, some text] =>
      let _ ← languageId.string?
      let _ ← version.i32?
      return (← Uri.ofJson? u, ← text.string?)
    | _ => none
  | _ => none

/-- The text that a change leaves. -/
def change? (j : Json) : Option String := do
  match ← j.record? ["range", "rangeLength", "text"] with
  | [range, length, some text] =>
    let _ ← Json.optional? Range.ofJson? range
    let _ ← Json.optional? Json.u32? length
    text.string?
  | _ => none

/-- A document that was changed, with the texts it went through. -/
def changed? (j : Json) : Option (Uri × List String) := do
  match ← j.record? ["textDocument", "contentChanges"] with
  | [some document, some changes] =>
    match ← document.record? ["uri", "version"] with
    | [some u, some version] =>
      let _ ← version.i32?
      return (← Uri.ofJson? u, ← changes.list? change?)
    | _ => none
  | _ => none

/-- A document that was closed. -/
def closed? (j : Json) : Option Uri := do
  match ← j.record? ["textDocument"] with
  | [some document] => document? document
  | _ => none

/-! ### Generated documents -/

/-- The recipe whose generated documents go away. -/
def removed? (j : Json) : Option Uri := do
  match ← j.record? ["originalUri"] with
  | [some u] => Uri.ofJson? u
  | _ => none

/-- The findings about a generated document. -/
def reported? (j : Json) : Option (Uri × List Finding) := do
  match ← j.record? ["uri", "diagnostics"] with
  | [some u, some findings] => return (← Uri.ofJson? u, ← findings.list? Finding.ofJson?)
  | _ => none

/-! ### Session -/

def settings? (j : Json) : Option Json := do
  match ← j.record? ["settings"] with
  | [some s] => some s
  | _ => none

/-- A number or text that names something in progress. -/
def token? : Json → Option CodeValue := CodeValue.ofJson?

/-- A command and its arguments. -/
def command? (j : Json) : Option (String × List Json) := do
  match ← j.objectRecord? ["command", "arguments", "workDoneToken"] with
  | [some name, arguments, token] =>
    let _ ← Json.optional? token? token
    return (← name.string?, ← Json.orDefault? [] (Json.list? some) arguments)
  | _ => none

/-- The fields of the parameters that a session begins with. -/
def initialization : List RecordField := [
  .optional "processId" .u32,
  .optional "rootPath" .string,
  .defaulted "rootUri" (.nullable .uri),
  .optional "initializationOptions" .any,
  .required "capabilities" Capability.all,
  .defaulted "trace" (.nullable (.names ["off", "messages", "verbose"])),
  .optional "workspaceFolders" (.list (.record [.required "uri" .uri, .required "name" .string])),
  .optional "clientInfo" (.record [.required "name" .string, .optional "version" .string]),
  .optional "locale" .string]

/-- The settings that a client starts the server with, if any. -/
def initialization? (j : Json) : Option (Option Json) :=
  if (Schema.record initialization).accepts j then
    match j.field? (initialization.map RecordField.name) "initializationOptions" with
    | some .null => some none
    | options => some options
  else none

/-- Whether a value is a record without fields. -/
def nothing? (j : Json) : Option Unit := (j.record? []).map fun _ => ()

end Params
end RecipeDiag
