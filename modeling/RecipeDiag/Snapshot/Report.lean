import RecipeDiag.Reconciler.Review
import RecipeDiag.Snapshot.Basic

/-! # The offline report

Each snapshot file gives a block of its own: its recipes in ascending order, below each its
diagnostics. A file that is no snapshot, or whose review fails, gives a complaint and no block. -/

namespace RecipeDiag

/-- Why a snapshot file has no block in the report. -/
inductive Complaint where
  | unreadable (path : String) (cause : FileError)
  | noSnapshot (path : String)
  | failed (path : String) (fault : Fault)
  deriving DecidableEq, Repr

/-- A complaint in words. The one who reads the file words what is wrong with its JSON. -/
def Complaint.message (jsonWording : String) : Complaint → String
  | unreadable path cause => "could not load snapshot " ++ path ++ ": " ++ cause.message
  | noSnapshot path => "could not load snapshot " ++ path ++ ": " ++ jsonWording
  | failed path fault => path ++ ": " ++ fault.message

namespace Report

/-- The label of a severity. -/
def severityLabel : Option Int32 → String
  | some 1 => "ERROR"
  | some 2 => "WARN"
  | some 3 => "INFO"
  | some 4 => "HINT"
  | _ => "UNKNOWN"

def diagnosticLine (d : Diagnostic) : String :=
  "    " ++ severityLabel d.severity ++ ":" ++ toString d.range.start.line.toNat ++ ":" ++
    toString d.range.start.character.toNat ++ " [" ++ d.source ++ "] - " ++ d.message

def recipeLines (c : Channels) (recipe : Uri) : List String :=
  ("  " ++ recipe.text) :: (c.merged recipe).map diagnosticLine

/-- The block of what the channels hold, in lines. -/
def block (path : String) (c : Channels) : List String :=
  ("Diagnostics for " ++ path ++ ":") ::
    (match c.recipes with
    | [] => ["  (no diagnostics)"]
    | us => us.flatMap (recipeLines c)) ++ [""]

/-- Loads a snapshot from the text of its file. -/
def load (path : String) : Except FileError String → Except Complaint Snapshot
  | .error e => .error (.unreadable path e)
  | .ok text =>
    match Snapshot.ofText? text with
    | some s => .ok s
    | none => .error (.noSnapshot path)

/-- The block of one snapshot file. -/
def ofFile (host : Host) (path : String) (content : Except FileError String) :
    Except Complaint (List String) := do
  let s ← load path content
  let (r, result) := s.reconciler.review (s.surroundings host)
  match result with
  | .ok () => return block path r.channels
  | .error e => throw (.failed path e)

/-- The blocks and complaints of several files, each in the order of the files. -/
def ofFiles (host : Host) (contents : List (String × Except FileError String)) :
    List String × List Complaint :=
  let results := contents.map fun c => ofFile host c.1 c.2
  (results.flatMap fun
    | .ok lines => lines
    | .error _ => [],
   results.filterMap fun
    | .ok _ => none
    | .error c => some c)

end Report
end RecipeDiag
