import RecipeDiag.Table

/-! # Statistics

Counters and timings of the reconciliation. Nothing is collected until collection is switched on;
switching it on starts from nothing, switching it off keeps what was collected. Counters are 64-bit
words, durations are in nanoseconds. -/

namespace RecipeDiag

structure Statistics where
  enabled : Bool
  /-- The durations recorded for each operation, in order. -/
  timings : Table String (List Nat)
  counters : Table String UInt64

namespace Statistics

def empty : Statistics := ⟨false, .empty, .empty⟩

instance : Inhabited Statistics := ⟨empty⟩

/-- Forgets everything that was collected. -/
def reset (s : Statistics) : Statistics := { s with timings := .empty, counters := .empty }

def setEnabled (s : Statistics) (enabled : Bool) : Statistics :=
  if enabled then { s.reset with enabled := true } else { s with enabled := false }

/-- The durations of an operation. -/
def durations (s : Statistics) (operation : String) : List Nat := (s.timings.get? operation).getD []

def record (s : Statistics) (operation : String) (nanos : Nat) : Statistics :=
  if s.enabled then
    { s with timings := s.timings.insert operation (s.durations operation ++ [nanos]) }
  else s

/-- The value of a counter, zero if it was never touched. -/
def counter (s : Statistics) (name : String) : UInt64 := (s.counters.get? name).getD 0

def increment (s : Statistics) (name : String) (amount : UInt64) : Statistics :=
  if s.enabled then { s with counters := s.counters.insert name (s.counter name + amount) } else s

/-! ### What is collected after each operation -/

section
variable {s : Statistics} {name name' operation operation' : String} {amount : UInt64} {nanos : Nat}

theorem enabled_increment : (s.increment name amount).enabled = s.enabled := by
  unfold increment
  split <;> rfl

theorem counter_increment (h : s.enabled) : (s.increment name amount).counter name' =
    if name' = name then s.counter name + amount else s.counter name' := by
  simp only [increment, h, if_true, counter, Table.get?_insert]
  split <;> rfl

theorem durations_increment : (s.increment name amount).durations operation = s.durations operation := by
  unfold increment
  split <;> rfl

theorem enabled_record : (s.record operation nanos).enabled = s.enabled := by
  unfold record
  split <;> rfl

theorem counter_record : (s.record operation nanos).counter name = s.counter name := by
  unfold record
  split <;> rfl

theorem durations_record (h : s.enabled) : (s.record operation nanos).durations operation' =
    if operation' = operation then s.durations operation ++ [nanos] else s.durations operation' := by
  simp only [record, h, if_true, durations, Table.get?_insert]
  split <;> rfl

theorem counter_setEnabled_true : (s.setEnabled true).counter name = 0 := rfl

theorem durations_setEnabled_true : (s.setEnabled true).durations operation = [] := rfl

end

/-! ### What the reconciliation counts -/

def published : String := "diagnostics.published"

def droppedSource : String := "diagnostics.dropped.unrecognized_source"

def droppedUnmapped : String := "diagnostics.dropped.unmapped"

def droppedLanguage : String := "diagnostics.dropped.language_mismatch"

def messagesReworded : String := "diagnostics.messages_rewritten"

/-- The operation that an update is timed as. -/
def updateOperation : String := "reconcile.update"

end Statistics
end RecipeDiag
