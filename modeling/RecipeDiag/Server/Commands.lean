import RecipeDiag.Server.Basic
import RecipeDiag.Statistics.Report

/-! # Commands

What the user can have the server do. A command that is not known, or lacks its argument, does
nothing. -/

namespace RecipeDiag

inductive Command where
  | version
  | review
  | setDiagnostics
  | enableStatistics
  | reportStatistics
  deriving DecidableEq, Repr

namespace Command

def name : Command → String
  | version => "version"
  | review => "bitbake.reviewDiagnostics"
  | setDiagnostics => "bitbake.setDiagnostics"
  | enableStatistics => "bitbake.diagnostics.enableStats"
  | reportStatistics => "bitbake.diagnostics.getStatsReport"

/-- The commands that a client is told of. -/
def announced : List Command := [review, setDiagnostics, enableStatistics, reportStatistics]

def ofName? (s : String) : Option Command := (version :: announced).find? fun c => c.name = s

end Command

namespace Server

def programName : String := "bitbake-diagnostics"

def programVersion : String := "0.4.0"

/-- The first of the arguments, if it is a truth value. -/
def firstFlag? : List Json → Option Bool
  | .bool b :: _ => some b
  | _ => none

/-- Switches the collection of statistics. -/
def enableStatistics (s : Server) (enabled : Bool) : Server :=
  let s := { s with
    reconciler := { s.reconciler with statistics := s.reconciler.statistics.setEnabled enabled } }
  s.display (if enabled then "BitBake diagnostics statistics enabled."
    else "BitBake diagnostics statistics disabled.")

/-- Executes a command; the result is null for all but a report. -/
def execute (s : Server) (host : Host) (name : String) (arguments : List Json) : Server × Json :=
  match Command.ofName? name with
  | none => (s, .null)
  | some .version => (s.display ("BitBake diagnostics version: " ++ programVersion), .null)
  | some .review => (s.review host, .null)
  | some .setDiagnostics =>
    match firstFlag? arguments with
    | some b => (s.configure host (.object [("enableDiagnostics", .bool b)]), .null)
    | none => (s, .null)
  | some .enableStatistics =>
    match firstFlag? arguments with
    | some b => (s.enableStatistics b, .null)
    | none => (s, .null)
  | some .reportStatistics =>
    let report := s.reconciler.statistics.report
    (s.log .info report, .string report)

/-- What a client is told about the server. -/
def greeting : Json := .object [
  ("capabilities", .object [
    ("textDocumentSync", .integer 1),
    ("executeCommandProvider", .object [
      ("commands", .array (Command.announced.map fun c => .string c.name))])]),
  ("serverInfo", .object [("name", .string programName), ("version", .string programVersion)])]

end Server
end RecipeDiag
