import RecipeDiag.Diagnostic.Basic
import RecipeDiag.Text.Digit

/-! # Imports that BitBake makes

A generated Python document starts with the imports that BitBake makes for every recipe. A warning
that cites a line of them names a line the recipe does not have, so its citation gives way to a note.
-/

namespace RecipeDiag.ImportNote

/-- A kind of warning that cites a line: its checker and code, and what stands around the number of
the line at the end of its message. -/
structure Warning where
  checker : Checker
  code : String
  opening : String
  closing : String

def warnings : List Warning := [
  ⟨.flake8, "F811", " from line ", ""⟩,
  ⟨.pylint, "W0404", " (imported line ", ")"⟩,
  ⟨.pylint, "W0621", " (line ", ")"⟩]

/-- What takes the place of a citation. -/
def note : String := " (imported by BitBake)"

/-- A message cut into what it says and the digits of the line it cites. -/
structure Citation where
  statement : List Char
  digits : List Char

/-- Finds the citation at the end of a message. The statement is not empty and on one line. -/
def Warning.citation? (w : Warning) (message : List Char) : Option Citation := do
  let body ← Text.dropSuffix? w.closing.toList message
  let digits := (body.reverse.takeWhile Text.isDecimalDigit).reverse
  let front := (body.reverse.dropWhile Text.isDecimalDigit).reverse
  guard (!digits.isEmpty)
  let statement ← Text.dropSuffix? w.opening.toList front
  guard (!statement.isEmpty && !statement.contains '\n')
  return ⟨statement, digits⟩

/-- The greatest line number there is. -/
def greatestLine : UInt32 := 0xFFFFFFFF

/-- The number of a line; one that is not written in ASCII or does not fit a word is the greatest. -/
def lineNumber (digits : List Char) : UInt32 :=
  if digits.all Char.isDigit then
    let n := digits.foldl (fun n d => 10 * n + (d.toNat - '0'.toNat)) 0
    if n < UInt32.size then UInt32.ofNat n else greatestLine
  else greatestLine

/-- The message to show for a finding: with the note if it cites a line up to the threshold. -/
def message (f : Finding) (threshold : UInt32) : String :=
  match warnings.find? fun w => f.isReport w.checker.name w.code with
  | none => f.message
  | some w =>
    match w.citation? f.message.toList with
    | none => f.message
    | some c =>
      if lineNumber c.digits ≤ threshold then String.ofList c.statement ++ note else f.message

end RecipeDiag.ImportNote
