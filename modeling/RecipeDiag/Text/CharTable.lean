import RecipeDiag.Text.Hex
import RecipeDiag.Text.Split

/-! # Tables of characters

A `CharTable` gives values to characters, run by run. It is written down as text, one entry for each
run in ascending order: the first code point in hexadecimal digits, behind a hyphen the last one
unless it is the first, and behind a colon the value. A `CharSet` is a table without values. -/

namespace RecipeDiag.Text

/-- The code points from `first` to `last` and what they have in common. -/
structure Run (α : Type) where
  first : Nat
  last : Nat
  value : α

/-- Runs in ascending order, none of which overlap. -/
structure CharTable (α : Type) where
  runs : Array (Run α)

namespace CharTable

/-- The run that holds `n` among those from place `low` up to place `high`. -/
def search {α : Type} (runs : Array (Run α)) (n low high : Nat) : Option (Run α) :=
  if _h : low < high then
    let middle := (low + high) / 2
    match runs[middle]? with
    | some r =>
      if n < r.first then search runs n low middle
      else if r.last < n then search runs n (middle + 1) high
      else some r
    | none => none
  else none
  termination_by high - low

/-- The run that holds a character. -/
def find? {α : Type} (t : CharTable α) (c : Char) : Option (Run α) :=
  search t.runs c.toNat 0 t.runs.size

/-- The value of a character. -/
def get? {α : Type} (t : CharTable α) (c : Char) : Option α := (t.find? c).map Run.value

/-- Reads one entry. -/
def run? {α : Type} (value? : List Char → Option α) (entry : List Char) : Option (Run α) := do
  let (range, value) := cutAt (· == ':') entry
  let (first, last) := cutAt (· == '-') range
  let first ← numberInBase? 16 first
  let last ← if last.isEmpty then some first else numberInBase? 16 (last.drop 1)
  return ⟨first, last, ← value? (value.drop 1)⟩

/-- Reads a table; entries stand between spaces and line ends. -/
def ofText {α : Type} (value? : List Char → Option α) (text : String) : CharTable α :=
  ⟨((words Char.isWhitespace text.toList).filterMap (run? value?)).toArray⟩

end CharTable

abbrev CharSet := CharTable Unit

namespace CharSet

def contains (s : CharSet) (c : Char) : Bool := (s.find? c).isSome

def ofText (text : String) : CharSet := CharTable.ofText (fun _ => some ()) text

end CharSet

/-- A table that spells characters out. The value of a run has the spelling of each of its characters,
with commas between them, and plus signs between the code points of one. -/
structure Spellings where
  table : CharTable (Array (List Char))

namespace Spellings

def chars? (cs : List Char) : Option (List Char) :=
  (pieces (· == '+') cs).mapM fun p => (numberInBase? 16 p).map Char.ofNat

def ofText (text : String) : Spellings :=
  ⟨.ofText (fun cs => ((pieces (· == ',') cs).mapM chars?).map List.toArray) text⟩

/-- How a character is spelled out. -/
def get? (s : Spellings) (c : Char) : Option (List Char) := do
  let r ← s.table.find? c
  r.value[c.toNat - r.first]?

/-- All characters of the table and how they are spelled out. -/
def toList (s : Spellings) : List (Char × List Char) :=
  s.table.runs.toList.flatMap fun r =>
    r.value.toList.zipIdx.map fun (cs, i) => (Char.ofNat (r.first + i), cs)

end Spellings
end RecipeDiag.Text
