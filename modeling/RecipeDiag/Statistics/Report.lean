import RecipeDiag.Binary64.Basic
import RecipeDiag.Statistics.Basic

/-! # The statistics report

`Summary.ofDurations?` sums up the durations of one operation; the report lists the summaries and the
counters by name. Its figures depend on which durations were recorded, not on their order. -/

namespace RecipeDiag

/-- The durations of an operation in short, in nanoseconds. -/
structure Summary where
  calls : Nat
  total : Nat
  average : Nat
  least : Nat
  greatest : Nat
  median : Nat
  percentile95 : Nat
  deriving DecidableEq, Repr

namespace Summary

/-- The place of the 95th percentile among so many durations. -/
def percentileIndex (count : Nat) : Nat :=
  ((Binary64.nearest count 1).mul (Binary64.nearest 95 100)).floor

def sum (durations : List Nat) : Nat := durations.foldl (· + ·) 0

/-- A total shared out evenly, none if there is nobody to share with. The count is a word. -/
def mean? (total : Nat) (count : UInt32) : Option Nat :=
  if count = 0 then none else some (total / count.toNat)

/-- The summary of durations, none if there are none. -/
def ofDurations? (durations : List Nat) : Option Summary := do
  let sorted := durations.mergeSort (· ≤ ·)
  let count := sorted.length
  return {
    calls := count
    total := sum sorted
    average := ← mean? (sum sorted) (UInt32.ofNat count)
    least := ← sorted.head?
    greatest := ← sorted.getLast?
    median := ← sorted[count / 2]?
    percentile95 := ← sorted[percentileIndex count]? }

def nanosPerSecond : Nat := 1000000000

/-- A duration in milliseconds: its seconds and the fraction of one are added and scaled in binary
floating point. -/
def milliseconds (nanos : Nat) : String :=
  let whole := Binary64.nearest (nanos / nanosPerSecond) 1
  let fraction := Binary64.nearest (nanos % nanosPerSecond) nanosPerSecond
  ((whole.add fraction).mul (Binary64.nearest 1000 1)).twoDecimals ++ "ms"

def lines (operation : String) (s : Summary) : List String := [
  "",
  "  " ++ operation ++ ":",
  "    Calls:    " ++ toString s.calls,
  "    Total:    " ++ milliseconds s.total,
  "    Avg:      " ++ milliseconds s.average,
  "    Min:      " ++ milliseconds s.least,
  "    Max:      " ++ milliseconds s.greatest,
  "    P50:      " ++ milliseconds s.median,
  "    P95:      " ++ milliseconds s.percentile95]

end Summary

namespace Statistics

/-- A line of one character. -/
def rule (c : Char) : String := String.ofList (List.replicate 80 c)

def sortedKeys {β : Type} (t : Table String β) : List String :=
  t.keys.mergeSort fun a b => decide (a ≤ b)

def timingLines (s : Statistics) : List String :=
  match sortedKeys s.timings with
  | [] => ["  No timing data collected"]
  | names => names.flatMap fun n =>
    match Summary.ofDurations? (s.durations n) with
    | some summary => summary.lines n
    | none => []

def counterLines (s : Statistics) : List String :=
  match sortedKeys s.counters with
  | [] => ["  No counter data collected"]
  | names => names.map fun n => "  " ++ n ++ ": " ++ toString (s.counter n)

def reportLines (s : Statistics) : List String :=
  [rule '=', "BitBake Diagnostics Reconciler Report", rule '=', ""] ++
    ["TIMINGS", rule '-'] ++ s.timingLines ++
    ["", "", "COUNTERS", rule '-'] ++ s.counterLines ++
    ["", rule '=']

/-- The report, every line ended by a line feed. -/
def report (s : Statistics) : String := String.join (s.reportLines.map (· ++ "\n"))

end Statistics
end RecipeDiag
