import RecipeDiag.Server.StandardRequest

/-! # Methods

The methods that the server knows by name: those of the language server protocol, and those for the
generated documents of recipes. All but the cancelling of requests are bound to the life of a session. -/

namespace RecipeDiag

inductive Method where
  | beginSession
  | endSession
  | exit
  | initialized
  | didOpen
  | didChange
  | didClose
  | didChangeConfiguration
  | executeCommand
  | embeddedDocument
  | removeEmbeddedDocuments
  | embeddedDiagnostics
  | cancelRequest
  /-- A standard request without an answer. -/
  | unansweredRequest (params : Schema)
  /-- A standard notification that nothing follows from. -/
  | ignoredNotification

namespace Method

/-- The methods that the server acts on. -/
def handled : List (String × Method) := [
  ("initialize", beginSession),
  ("shutdown", endSession),
  ("exit", exit),
  ("initialized", initialized),
  ("textDocument/didOpen", didOpen),
  ("textDocument/didChange", didChange),
  ("textDocument/didClose", didClose),
  ("workspace/didChangeConfiguration", didChangeConfiguration),
  ("workspace/executeCommand", executeCommand),
  ("bitbake/embeddedDocument", embeddedDocument),
  ("bitbake/removeEmbeddedDocuments", removeEmbeddedDocuments),
  ("bitbake/embeddedDiagnostics", embeddedDiagnostics),
  ("$/cancelRequest", cancelRequest)]

/-- Standard notifications that nothing follows from. -/
def ignored : List String := [
  "textDocument/willSave", "textDocument/didSave", "workspace/didChangeWorkspaceFolders",
  "workspace/didCreateFiles", "workspace/didRenameFiles", "workspace/didDeleteFiles",
  "workspace/didChangeWatchedFiles"]

/-- The method of a name. -/
def ofName? (name : String) : Option Method :=
  (handled.lookup name).or
    (if ignored.contains name then some ignoredNotification
    else (StandardRequest.params? name).map unansweredRequest)

/-- Whether a method is never answered. -/
def isNotification : Method → Bool
  | beginSession | endSession | executeCommand | unansweredRequest _ => false
  | _ => true

/-- Whether a method is open outside of a session. -/
def isAlwaysOpen : Method → Bool
  | cancelRequest => true
  | _ => false

end Method
end RecipeDiag
