import RecipeDiag.Wire.Schema

/-! # Standard requests

The requests of the language server protocol that the server has no answer to. It knows the schemas of
their parameters, for a request with parameters that are not proper is refused for that. -/

namespace RecipeDiag.StandardRequest

open Schema RecordField

/-! ### Common values -/

def position : Schema := .record [.required "line" .u32, .required "character" .u32]

def range : Schema := .record [.required "start" position, .required "end" position]

def location : Schema := .record [.required "uri" .uri, .required "range" range]

def document : Schema := .record [.required "uri" .uri]

/-- The name of something in progress. -/
def token : Schema := .either .i32 .string

def markup : Schema :=
  .record [.required "kind" (.names ["plaintext", "markdown"]), .required "value" .string]

/-- A text, plain or marked up. -/
def richText : Schema := .either .string markup

def command : Schema := .record [
  .required "title" .string, .required "command" .string, .optional "arguments" (.list .any)]

def textEdit : Schema := .record [.required "range" range, .required "newText" .string]

def diagnostic : Schema := .record [
  .required "range" range,
  .optional "severity" .i32,
  .optional "code" (.either .i32 .string),
  .optional "codeDescription" (.record [.required "href" .uri]),
  .optional "source" .string,
  .required "message" .string,
  .optional "relatedInformation" (.list (.record [
    .required "location" location, .required "message" .string])),
  .optional "tags" (.list .i32),
  .optional "data" .any]

/-! ### Parameters -/

/-- Parameters that are an object. -/
def params (fields : List RecordField) : Schema := .openRecord fields .any

def progress : RecordField := .optional "workDoneToken" token

/-- The fields of a request whose progress is reported and whose result may come in parts. -/
def inParts : List RecordField := [progress, .optional "partialResultToken" token]

def inDocument : RecordField := .required "textDocument" document

def atPosition : List RecordField := [inDocument, .required "position" position]

def withRange : RecordField := .required "range" range

/-! ### Symbols -/

/-- An item of a hierarchy. -/
def hierarchyItem (tags : Schema) : Schema := .record [
  .required "name" .string,
  .required "kind" .i32,
  .optional "tags" tags,
  .optional "detail" .string,
  .required "uri" .uri,
  .required "range" range,
  .required "selectionRange" range,
  .optional "data" .any]

def callParams : Schema := params (.required "item" (hierarchyItem (.list .i32)) :: inParts)

def typeParams : Schema := params (.required "item" (hierarchyItem .i32) :: inParts)

def workspaceSymbol : Schema := .record [
  .required "name" .string,
  .required "kind" .i32,
  .optional "tags" (.list .i32),
  .optional "containerName" .string,
  .required "location" (.either location document),
  .optional "data" .any]

/-! ### Completion and signatures -/

def completionContext : Schema :=
  .record [.required "triggerKind" .i32, .optional "triggerCharacter" .string]

def completionItem : Schema := .record [
  .required "label" .string,
  .optional "labelDetails" (.record [.optional "detail" .string, .optional "description" .string]),
  .optional "kind" .i32,
  .optional "detail" .string,
  .optional "documentation" richText,
  .optional "deprecated" .bool,
  .optional "preselect" .bool,
  .optional "sortText" .string,
  .optional "filterText" .string,
  .optional "insertText" .string,
  .optional "insertTextFormat" .i32,
  .optional "insertTextMode" .i32,
  .optional "textEdit" (.either textEdit (.record [
    .required "newText" .string, .required "insert" range, .required "replace" range])),
  .optional "additionalTextEdits" (.list textEdit),
  .optional "command" command,
  .optional "commitCharacters" (.list .string),
  .optional "data" .any,
  .optional "tags" (.list .i32)]

def signature : Schema := .record [
  .required "label" .string,
  .optional "documentation" richText,
  .optional "parameters" (.list (.record [
    .required "label" (.either .string (.tuple [.u32, .u32])), .optional "documentation" richText])),
  .optional "activeParameter" .u32]

def signatureContext : Schema := .record [
  .required "triggerKind" .i32,
  .optional "triggerCharacter" .string,
  .required "isRetrigger" .bool,
  .optional "activeSignatureHelp" (.record [
    .required "signatures" (.list signature),
    .optional "activeSignature" .u32,
    .optional "activeParameter" .u32])]

/-! ### Edits and code actions -/

def annotatedEdit : Schema := params
  [.required "range" range, .required "newText" .string, .required "annotationId" .string]

def documentEdit : Schema := .record [
  .required "textDocument" (.record [.required "uri" .uri, .optional "version" .i32]),
  .required "edits" (.list (.either textEdit annotatedEdit))]

/-- An operation on files. -/
def fileOperation : Schema :=
  let options := fun ns => .optional "options" (.record (flags ns))
  let marked := .optional "annotationId" .string
  .either
    (.ofKind "kind" "create" 0
      [.required "uri" .uri, options ["overwrite", "ignoreIfExists"], marked])
    (.either
      (.ofKind "kind" "rename" 1 [.required "oldUri" .uri, .required "newUri" .uri,
        options ["overwrite", "ignoreIfExists"], marked])
      (.ofKind "kind" "delete" 2 [.required "uri" .uri, .optional "options" (.record
        (flags ["recursive", "ignoreIfNotExists"] ++ [marked]))]))

def workspaceEdit : Schema := .record [
  .defaulted "changes" (.nullable (.map .uri (.list textEdit))),
  .optional "documentChanges"
    (.either (.list documentEdit) (.list (.either fileOperation documentEdit))),
  .optional "changeAnnotations" (.map .string (.record [
    .required "label" .string,
    .optional "needsConfirmation" .bool,
    .optional "description" .string]))]

def codeAction : Schema := .record [
  .required "title" .string,
  .optional "kind" .string,
  .optional "diagnostics" (.list diagnostic),
  .optional "edit" workspaceEdit,
  .optional "command" command,
  .optional "isPreferred" .bool,
  .optional "disabled" (.record [.required "reason" .string]),
  .optional "data" .any]

def codeActionContext : Schema := .record [
  .required "diagnostics" (.list diagnostic),
  .optional "only" (.list .string),
  .optional "triggerKind" .i32]

/-! ### Hints, links, colors and formatting -/

def inlayHint : Schema := .record [
  .required "position" position,
  .required "label" (.either .string (.list (.record [
    .required "value" .string,
    .optional "tooltip" richText,
    .optional "location" location,
    .optional "command" command]))),
  .optional "kind" .i32,
  .optional "textEdits" (.list textEdit),
  .optional "tooltip" richText,
  .optional "paddingLeft" .bool,
  .optional "paddingRight" .bool,
  .optional "data" .any]

def documentLink : Schema := .record [
  withRange, .optional "target" .uri, .optional "tooltip" .string, .optional "data" .any]

def codeLens : Schema := .record [withRange, .optional "command" command, .optional "data" .any]

def color : Schema :=
  .record (["red", "green", "blue", "alpha"].map fun n => .required n .number)

/-- How to format, with settings of any name. -/
def formatting : RecordField := .required "options" (.openRecord
  ([.required "tabSize" .u32, .required "insertSpaces" .bool] ++
    flags ["trimTrailingWhitespace", "insertFinalNewline", "trimFinalNewlines"])
  (.either .bool (.either .i32 .string)))

def files (names : List String) : Schema :=
  .record [.required "files" (.list (.record (names.map fun n => .required n .string)))]

/-! ### All requests -/

/-- Requests about a document. -/
def aboutDocument : List String := [
  "textDocument/documentLink", "textDocument/codeLens", "textDocument/foldingRange",
  "textDocument/documentSymbol", "textDocument/semanticTokens/full", "textDocument/documentColor"]

/-- Requests about a position whose results come in parts. -/
def aboutPosition : List String := [
  "textDocument/declaration", "textDocument/definition", "textDocument/typeDefinition",
  "textDocument/implementation", "textDocument/documentHighlight", "textDocument/moniker"]

/-- Requests about a position with one result. -/
def aboutPositionAtOnce : List String := [
  "textDocument/hover", "textDocument/prepareCallHierarchy", "textDocument/prepareTypeHierarchy",
  "textDocument/linkedEditingRange"]

/-- Requests that take back an item to fill it in. -/
def aboutItem : List (String × Schema) := [
  ("documentLink/resolve", documentLink),
  ("codeLens/resolve", codeLens),
  ("completionItem/resolve", completionItem),
  ("inlayHint/resolve", inlayHint),
  ("codeAction/resolve", codeAction),
  ("workspaceSymbol/resolve", workspaceSymbol)]

/-- Requests with parameters of their own. -/
def aboutMore : List (String × Schema) := [
  ("textDocument/willSaveWaitUntil", .record [inDocument, .required "reason" .i32]),
  ("textDocument/prepareRename", .record atPosition),
  ("textDocument/references",
    params (.required "context" (.record [.required "includeDeclaration" .bool]) ::
      atPosition ++ inParts)),
  ("callHierarchy/incomingCalls", callParams),
  ("callHierarchy/outgoingCalls", callParams),
  ("typeHierarchy/supertypes", typeParams),
  ("typeHierarchy/subtypes", typeParams),
  ("textDocument/completion",
    params (.optional "context" completionContext :: atPosition ++ inParts)),
  ("textDocument/signatureHelp",
    params (.optional "context" signatureContext :: progress :: atPosition)),
  ("textDocument/selectionRange",
    params (inDocument :: .required "positions" (.list position) :: inParts)),
  ("textDocument/semanticTokens/full/delta",
    params (inDocument :: .required "previousResultId" .string :: inParts)),
  ("textDocument/semanticTokens/range", params (inDocument :: withRange :: inParts)),
  ("textDocument/inlayHint", params [inDocument, withRange, progress]),
  ("textDocument/inlineValue", params [inDocument, withRange, progress,
    .required "context" (.record [.required "frameId" .i32, .required "stoppedLocation" range])]),
  ("textDocument/codeAction",
    params (inDocument :: withRange :: .required "context" codeActionContext :: inParts)),
  ("textDocument/colorPresentation",
    params (inDocument :: withRange :: .required "color" color :: inParts)),
  ("textDocument/formatting", params [inDocument, formatting, progress]),
  ("textDocument/rangeFormatting", params [inDocument, withRange, formatting, progress]),
  ("textDocument/onTypeFormatting", params (.required "ch" .string :: formatting :: atPosition)),
  ("textDocument/rename", params (.required "newName" .string :: progress :: atPosition)),
  ("workspace/symbol", params (.required "query" .string :: inParts)),
  ("workspace/willCreateFiles", files ["uri"]),
  ("workspace/willRenameFiles", files ["oldUri", "newUri"]),
  ("workspace/willDeleteFiles", files ["uri"])]

/-- The schema of the parameters of a request. -/
def params? (method : String) : Option Schema :=
  if aboutDocument.contains method then some (params (inDocument :: inParts))
  else if aboutPosition.contains method then some (params (atPosition ++ inParts))
  else if aboutPositionAtOnce.contains method then some (params (progress :: atPosition))
  else (aboutItem.lookup method).or (aboutMore.lookup method)

end RecipeDiag.StandardRequest
