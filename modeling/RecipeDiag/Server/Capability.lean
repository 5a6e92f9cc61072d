import RecipeDiag.Wire.Schema

/-! # What clients can do

The schema of the capabilities that a client announces when it begins a session. The server makes no
use of them, but it begins no session with capabilities that are not proper. -/

namespace RecipeDiag.Capability

open Schema RecordField

/-! ### Parts -/

def listed (ns : List String) : Schema := .list (.names ns)

def integers : Schema := .list .i32

def strings : Schema := .list .string

/-- A capability with nothing but flags. -/
def flagged (ns : List String) : Schema := .record (flags ns)

/-- A capability that may be registered later on, with more fields. -/
def registered (fields : List RecordField) : Schema :=
  .record (.optional "dynamicRegistration" .bool :: fields)

/-- The kinds that a client knows. -/
def kinds (kind : Schema) : Schema := .record [.optional "valueSet" (.list kind)]

/-- The tags that a client knows; a truth value in their place is let pass. -/
def tags : RecordField :=
  .defaulted "tagSupport" (.nullable (.either .bool (.record [.required "valueSet" integers])))

/-- The properties that a client can ask for later on. -/
def resolvable : RecordField := .optional "resolveSupport" (.record [.required "properties" strings])

def markup : Schema := listed ["plaintext", "markdown"]

/-! ### Workspace -/

def workspaceEdit : Schema := .record [
  .optional "documentChanges" .bool,
  .optional "resourceOperations" (listed ["create", "rename", "delete"]),
  .optional "failureHandling" (.names ["abort", "transactional", "textOnlyTransactional", "undo"]),
  .optional "normalizesLineEndings" .bool,
  .optional "changeAnnotationSupport" (flagged ["groupsOnLabel"])]

def workspace : Schema := .record [
  .optional "applyEdit" .bool,
  .optional "workspaceEdit" workspaceEdit,
  .optional "didChangeConfiguration" (registered []),
  .optional "didChangeWatchedFiles" (registered (flags ["relativePatternSupport"])),
  .optional "symbol" (registered [.optional "symbolKind" (kinds .i32), tags, resolvable]),
  .optional "executeCommand" (registered []),
  .optional "workspaceFolders" .bool,
  .optional "configuration" .bool,
  .optional "semanticTokens" (flagged ["refreshSupport"]),
  .optional "codeLens" (flagged ["refreshSupport"]),
  .optional "fileOperations" (registered (flags
    ["didCreate", "willCreate", "didRename", "willRename", "didDelete", "willDelete"])),
  .optional "inlineValue" (flagged ["refreshSupport"]),
  .optional "inlayHint" (flagged ["refreshSupport"]),
  .optional "diagnostic" (flagged ["refreshSupport"])]

/-! ### Documents -/

def completionItem : Schema := .record [
  .optional "snippetSupport" .bool,
  .optional "commitCharactersSupport" .bool,
  .optional "documentationFormat" markup,
  .optional "deprecatedSupport" .bool,
  .optional "preselectSupport" .bool,
  tags,
  .optional "insertReplaceSupport" .bool,
  resolvable,
  .optional "insertTextModeSupport" (.record [.required "valueSet" integers]),
  .optional "labelDetailsSupport" .bool]

def completion : Schema := registered [
  .optional "completionItem" completionItem,
  .optional "completionItemKind" (kinds .i32),
  .optional "contextSupport" .bool,
  .optional "insertTextMode" .i32,
  .optional "completionList" (.record [.optional "itemDefaults" strings])]

def signatureHelp : Schema := registered [
  .optional "signatureInformation" (.record [
    .optional "documentationFormat" markup,
    .optional "parameterInformation" (flagged ["labelOffsetSupport"]),
    .optional "activeParameterSupport" .bool]),
  .optional "contextSupport" .bool]

def documentSymbol : Schema := registered [
  .optional "symbolKind" (kinds .i32),
  .optional "hierarchicalDocumentSymbolSupport" .bool,
  tags]

def goto : Schema := registered (flags ["linkSupport"])

def codeAction : Schema := registered [
  .optional "codeActionLiteralSupport" (.record [
    .required "codeActionKind" (.record [.required "valueSet" strings])]),
  .optional "isPreferredSupport" .bool,
  .optional "disabledSupport" .bool,
  .optional "dataSupport" .bool,
  resolvable,
  .optional "honorsChangeAnnotations" .bool]

def rename : Schema := registered [
  .optional "prepareSupport" .bool,
  .optional "prepareSupportDefaultBehavior" .i32,
  .optional "honorsChangeAnnotations" .bool]

def publishDiagnostics : Schema := .record [
  .optional "relatedInformation" .bool,
  tags,
  .optional "versionSupport" .bool,
  .optional "codeDescriptionSupport" .bool,
  .optional "dataSupport" .bool]

def foldingRange : Schema := registered [
  .optional "rangeLimit" .u32,
  .optional "lineFoldingOnly" .bool,
  .optional "foldingRangeKind" (kinds (.names ["comment", "imports", "region"])),
  .optional "foldingRange" (flagged ["collapsedText"])]

def semanticTokens : Schema := registered [
  .required "requests" (.record [
    .optional "range" .bool,
    .optional "full" (.either .bool (.openRecord (flags ["delta"]) .any))]),
  .required "tokenTypes" strings,
  .required "tokenModifiers" strings,
  .required "formats" strings,
  .optional "overlappingTokenSupport" .bool,
  .optional "multilineTokenSupport" .bool,
  .optional "serverCancelSupport" .bool,
  .optional "augmentsSyntaxTokens" .bool]

def textDocument : Schema := .record [
  .optional "synchronization" (registered (flags ["willSave", "willSaveWaitUntil", "didSave"])),
  .optional "completion" completion,
  .optional "hover" (registered [.optional "contentFormat" markup]),
  .optional "signatureHelp" signatureHelp,
  .optional "references" (registered []),
  .optional "documentHighlight" (registered []),
  .optional "documentSymbol" documentSymbol,
  .optional "formatting" (registered []),
  .optional "rangeFormatting" (registered []),
  .optional "onTypeFormatting" (registered []),
  .optional "declaration" goto,
  .optional "definition" goto,
  .optional "typeDefinition" goto,
  .optional "implementation" goto,
  .optional "codeAction" codeAction,
  .optional "codeLens" (registered []),
  .optional "documentLink" (registered (flags ["tooltipSupport"])),
  .optional "colorProvider" (registered []),
  .optional "rename" rename,
  .optional "publishDiagnostics" publishDiagnostics,
  .optional "foldingRange" foldingRange,
  .optional "selectionRange" (registered []),
  .optional "linkedEditingRange" (registered []),
  .optional "callHierarchy" (registered []),
  .optional "semanticTokens" semanticTokens,
  .optional "moniker" (registered []),
  .optional "typeHierarchy" (registered []),
  .optional "inlineValue" (registered []),
  .optional "inlayHint" (registered [resolvable]),
  .optional "diagnostic" (registered (flags ["relatedDocumentSupport"]))]

/-! ### Window and general -/

def window : Schema := .record [
  .optional "workDoneProgress" .bool,
  .optional "showMessage" (.record [
    .optional "messageActionItem" (flagged ["additionalPropertiesSupport"])]),
  .optional "showDocument" (.record [.required "support" .bool])]

def general : Schema := .record [
  .optional "regularExpressions" (.record [.required "engine" .string, .optional "version" .string]),
  .optional "markdown" (.record [
    .required "parser" .string, .optional "version" .string, .optional "allowedTags" strings]),
  .optional "staleRequestSupport" (.record [
    .required "cancel" .bool, .required "retryOnContentModified" strings]),
  .optional "positionEncodings" strings]

/-- The capabilities of a client. -/
def all : Schema := .record [
  .optional "workspace" workspace,
  .optional "textDocument" textDocument,
  .optional "window" window,
  .optional "general" general,
  .optional "experimental" .any]

end RecipeDiag.Capability
