import RecipeDiag.Reconciler.Course
import RecipeDiag.Reconciler.Edit
import RecipeDiag.Reconciler.Review
import RecipeDiag.Server.Client
import RecipeDiag.Server.Debounce

/-! # The server

The server keeps the editor's documents and findings up to date, runs the reconciler when something
changed, and tells the client. Updates after new findings are put off until no more have come for a
while. Time is a number of milliseconds that `Server.elapse` moves on. -/

namespace RecipeDiag

/-- Where a session stands. -/
inductive Lifecycle where
  | uninitialized
  | initialized
  | shutDown
  | exited
  deriving DecidableEq, Repr

/-- Whether the client can be asked and told about recipes. -/
def Lifecycle.isConnected : Lifecycle → Bool
  | initialized | shutDown => true
  | uninitialized | exited => false

inductive NoticeLevel where
  | warning
  | info
  deriving DecidableEq, Repr

/-- A message to the user, in the log or on the screen. -/
structure Notice where
  onScreen : Bool
  level : NoticeLevel
  text : String
  deriving DecidableEq, Repr

structure Server where
  lifecycle : Lifecycle
  reconciler : Reconciler
  debounce : Debounce
  /-- The time in milliseconds. -/
  clock : Nat
  client : Client
  /-- Every message to the user, oldest first. -/
  notices : List Notice

namespace Server

def start : Server := ⟨.uninitialized, .start .empty .empty, .empty, 0, .silent, []⟩

instance : Inhabited Server := ⟨start⟩

/-- How long an update is put off. -/
def debounceDelay : Nat := 150

/-! ### Telling the user -/

def log (s : Server) (level : NoticeLevel) (text : String) : Server :=
  { s with notices := s.notices ++ [⟨false, level, text⟩] }

def display (s : Server) (text : String) : Server :=
  { s with notices := s.notices ++ [⟨true, .info, text⟩] }

/-- Logs what went wrong, if anything. -/
def report (s : Server) : Except Fault Unit → Server
  | .ok () => s
  | .error e => s.log .warning ("BitBake diagnostics: " ++ e.message)

/-! ### Reconciling -/

/-- The machine and the client, as far as it is connected. -/
def surroundings (s : Server) (host : Host) : Surroundings :=
  ⟨host, if s.lifecycle.isConnected then s.client.service else Client.absent⟩

def update (s : Server) (host : Host) (generated : Uri) : Server :=
  let (r, result) := s.reconciler.update (s.surroundings host) generated
  { s with reconciler := r }.report result

def review (s : Server) (host : Host) : Server :=
  let (r, result) := s.reconciler.review (s.surroundings host)
  { s with reconciler := r }.report result

/-- Puts off the update of a generated document. -/
def scheduleUpdate (s : Server) (generated : Uri) : Server :=
  { s with debounce := s.debounce.schedule generated (s.clock + debounceDelay) }

/-- Runs the task of a document at the time it is due. -/
def fire (host : Host) (s : Server) (t : DelayedTask) : Server :=
  let s := { s with debounce := s.debounce.expire t.number, clock := t.due }.update host t.uri
  { s with debounce := ((s.debounce.complete t.number).finish t.id t.uri).close t.number }

/-- Whether the first of two tasks ends before the second, which was started after it. -/
def endsBefore (s : Server) (host : Host) (a b : DelayedTask) : Bool :=
  a.due < b.due || (a.due = b.due &&
    (s.reconciler.course (s.surroundings host) a.uri).endsFirst
      (s.reconciler.course (s.surroundings host) b.uri))

/-- The tasks that come due by a time, in the order in which they end. An update changes nothing that
decides the course of another, so all of it is known beforehand. -/
def agenda (s : Server) (host : Host) (time : Nat) : List DelayedTask :=
  (s.debounce.dueBy time).mergeSort (s.endsBefore host)

/-- Lets time pass and runs the tasks that come due, the earliest first. -/
def elapse (s : Server) (host : Host) (milliseconds : Nat) : Server :=
  let time := s.clock + milliseconds
  { (s.agenda host time).foldl (fire host) s with clock := time }

/-! ### Documents and findings -/

/-- Takes over what the editor reports. -/
def edit (s : Server) (e : Edit) : Server := { s with reconciler := s.reconciler.edit e }

/-- A recipe was opened: the updates that it was closed for are made up for. -/
def openDocument (s : Server) (recipe : Uri) (text : String) : Server :=
  Language.all.foldl (fun s l =>
    match s.reconciler.registry.document? recipe l with
    | some d => s.scheduleUpdate d.uri
    | none => s) (s.edit (.setText recipe text))

/-- A recipe was changed: the last text is the one it has now. -/
def changeDocument (s : Server) (recipe : Uri) (texts : List String) : Server :=
  match texts.getLast? with
  | some text => s.edit (.setText recipe text)
  | none => s

/-- The findings about a document were reported anew. -/
def reportFindings (s : Server) (generated : Uri) (fs : List Finding) : Server :=
  (s.edit (.setFindings generated fs)).scheduleUpdate generated

/-! ### Configuration -/

/-- A configuration as the log shows it. -/
def configurationText (c : Configuration) : String :=
  "Configuration \x7b enabled: " ++ toString c.enabled ++ ", import_line_threshold: " ++
    toString c.importLineThreshold.toNat ++ " \x7d"

/-- Lays settings over the configuration. If that switches diagnostics off, everything shown is taken
back; any other change calls for a review. -/
def configure (s : Server) (host : Host) (settings : Json) : Server :=
  let old := s.reconciler.configuration
  let s := { s with reconciler := s.reconciler.configure settings }
  let new := s.reconciler.configuration
  let s := s.log .info ("BitBake diagnostics configuration: " ++ configurationText new)
  if old.enabled && !new.enabled then { s with reconciler := s.reconciler.clear }
  else if old ≠ new then s.review host
  else s

end Server
end RecipeDiag
