import RecipeDiag.Server.Commands
import RecipeDiag.Server.Method
import RecipeDiag.Server.Params

/-! # A session with a client

`Server.receive` takes one request or notification. Methods are bound to the life of the session:
before `initialize` and after `shutdown` a request is refused and a notification dropped. A
method that is a notification has no answer, so as a request it is refused; a request sent as a
notification does nothing. After `exit` nothing is taken any more.

`Server.step` takes a message, or a change on the client's side, or lets time pass, and gives what the
client gets to see of it. -/

namespace RecipeDiag

inductive Reply where
  /-- There is nothing to answer. -/
  | silent
  | result (j : Json)
  | refused (code : Int)
  /-- The session is over. -/
  | exited

namespace Reply

def notInitialized : Int := -32002

def invalidRequest : Int := -32600

def methodNotFound : Int := -32601

def invalidParams : Int := -32602

end Reply

/-- A message from the client. -/
structure Message where
  method : String
  params : Option Json
  isRequest : Bool

namespace Server

/-- The refusal of a request; a notification is dropped without a word. -/
def refuse (isRequest : Bool) (code : Int) : Reply := if isRequest then .refused code else .silent

/-! ### Beginning and end -/

/-- The first request of a session. Without proper parameters the session does not begin. -/
def beginSession (s : Server) (m : Message) : Server × Reply :=
  match s.lifecycle with
  | .uninitialized =>
    if m.isRequest then
      match m.params.bind Params.initialization? with
      | none => (s, .refused Reply.invalidParams)
      | some options =>
        let r := match options with
          | some settings => s.reconciler.configure settings
          | none => s.reconciler
        ({ s with reconciler := r, lifecycle := .initialized }, .result greeting)
    else (s, .silent)
  | _ => (s, refuse m.isRequest Reply.invalidRequest)

/-- What a method meets with unless the session has begun and not ended. -/
def closedReply (s : Server) (m : Message) : Reply :=
  refuse m.isRequest
    (if s.lifecycle = .uninitialized then Reply.notInitialized else Reply.invalidRequest)

/-- Ends the session but for `exit`. The request has no parameters. -/
def endSession (s : Server) (m : Message) : Server × Reply :=
  if s.lifecycle = .initialized then
    ({ s with lifecycle := .shutDown },
      if m.isRequest then
        if m.params.isSome then .refused Reply.invalidParams else .result .null
      else .silent)
  else (s, s.closedReply m)

/-! ### Notifications -/

/-- Greets the user. -/
def greet (s : Server) : Server :=
  let c := s.reconciler.configuration
  s.log .info ("BitBake diagnostics ready: enabled=" ++ toString c.enabled ++
    " importLineThreshold=" ++ toString c.importLineThreshold.toNat)

/-- Acts on a notification with the given parameters, none if they are not as they should be. -/
def notified? (s : Server) (host : Host) (method : Method) (params : Json) : Option Server :=
  match method with
  | .initialized => (Params.nothing? params).map fun () => s.greet
  | .didOpen => (Params.opened? params).map fun (u, text) => s.openDocument u text
  | .didChange => (Params.changed? params).map fun (u, texts) => s.changeDocument u texts
  | .didClose => (Params.closed? params).map fun u => s.edit (.close u)
  | .didChangeConfiguration => (Params.settings? params).map (s.configure host)
  | .embeddedDocument => (GeneratedDocument.ofJson? params).map fun d => s.edit (.register d)
  | .removeEmbeddedDocuments => (Params.removed? params).map fun u => s.edit (.removeDocuments u)
  | .embeddedDiagnostics => (Params.reported? params).map fun (u, fs) => s.reportFindings u fs
  | _ => none

def notify (s : Server) (host : Host) (method : Method) (m : Message) : Server × Reply :=
  if m.isRequest then (s, .refused Reply.invalidRequest)
  else ((m.params.bind (s.notified? host method)).getD s, .silent)

/-! ### Requests -/

def respond (s : Server) (host : Host) (method : Method) (m : Message) : Server × Reply :=
  if !m.isRequest then (s, .silent)
  else match method with
    | .executeCommand =>
      match m.params.bind Params.command? with
      | some (name, arguments) =>
        let (s, result) := s.execute host name arguments
        (s, .result result)
      | none => (s, .refused Reply.invalidParams)
    | .unansweredRequest params =>
      (s, .refused (if m.params.any params.accepts then Reply.methodNotFound else Reply.invalidParams))
    | _ => (s, .refused Reply.methodNotFound)

/-! ### All messages -/

/-- Acts on a message whose method is known. -/
def handle (s : Server) (host : Host) (method : Method) (m : Message) : Server × Reply :=
  match method with
  | .beginSession => s.beginSession m
  | .endSession => s.endSession m
  | .exit => ({ s with lifecycle := .exited }, .silent)
  | method =>
    if method.isAlwaysOpen || s.lifecycle = .initialized then
      if method.isNotification then s.notify host method m else s.respond host method m
    else (s, s.closedReply m)

/-- Takes a message. An unknown method is refused unless its name marks it as optional. -/
def receive (s : Server) (host : Host) (m : Message) : Server × Reply :=
  if s.lifecycle = .exited then (s, .exited)
  else match Method.ofName? m.method with
    | some method => s.handle host method m
    | none =>
      (s, if "$/".toList.isPrefixOf m.method.toList then .silent
        else refuse m.isRequest Reply.methodNotFound)

/-! ### Steps -/

/-- What happens in one step. -/
inductive Event where
  | message (m : Message)
  /-- The client will answer differently. -/
  | client (c : Client)
  /-- Time passes. -/
  | advance (milliseconds : Nat)

/-- What the client gets to see of a step. -/
structure Output where
  reply : Reply
  notices : List Notice
  published : List Publication
  asked : List (Uri × Question)

/-- What a server has to show since it stood as `old`. As long as it is not connected it neither
publishes nor asks, and once it has exited nothing leaves it. -/
def shownSince (s old : Server) (reply : Reply) : Output where
  reply := reply
  notices := if s.lifecycle = .exited then [] else s.notices.drop old.notices.length
  published :=
    if s.lifecycle.isConnected then s.reconciler.published.drop old.reconciler.published.length else []
  asked :=
    if s.lifecycle.isConnected then s.reconciler.asked.drop old.reconciler.asked.length else []

/-- Goes through an event. -/
def step (s : Server) (host : Host) (e : Event) : Server × Output :=
  let (s', reply) : Server × Reply := match e with
    | .message m => s.receive host m
    | .client c => ({ s with client := c }, .silent)
    | .advance milliseconds => (s.elapse host milliseconds, .silent)
  (s', s'.shownSince s reply)

end Server
end RecipeDiag
