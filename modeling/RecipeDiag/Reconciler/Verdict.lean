import RecipeDiag.ImportNote
import RecipeDiag.Rule.Basic
import RecipeDiag.Statistics.Basic
import RecipeDiag.Text.Origin

/-! # Judging a finding

`Assignment.judge` decides what becomes of one finding about a generated document: it is dropped for
one of four reasons, or kept as a diagnostic of the recipe. -/

namespace RecipeDiag

/-- What all findings about one generated document have in common. -/
structure Assignment where
  recipe : Uri
  language : Language
  recipeText : List Char
  generatedText : List Char
  origins : OriginTable
  importLineThreshold : UInt32

inductive DropReason where
  /-- The finding is not from one of the checkers. -/
  | unrecognizedSource
  /-- Its range has no origin in the recipe. -/
  | unmapped
  /-- The recipe has another language there. -/
  | languageMismatch
  /-- A rule knows it for a false positive. -/
  | ignored (rule : Rule)
  deriving DecidableEq, Repr

def DropReason.counter : DropReason → String
  | unrecognizedSource => Statistics.droppedSource
  | unmapped => Statistics.droppedUnmapped
  | languageMismatch => Statistics.droppedLanguage
  | ignored rule => rule.counter

inductive Verdict where
  | dropped (reason : DropReason)
  /-- The diagnostic to show, and whether its message was reworded. -/
  | kept (diagnostic : Diagnostic) (reworded : Bool)
  deriving DecidableEq, Repr

namespace Verdict

def diagnostic? : Verdict → Option Diagnostic
  | dropped _ => none
  | kept d _ => some d

/-- The counter that a verdict adds to as soon as it is reached. -/
def counter? : Verdict → Option String
  | dropped reason => some reason.counter
  | kept _ reworded => if reworded then some Statistics.messagesReworded else none

end Verdict

namespace Assignment

/-- The diagnostic of a finding with its range on the recipe. -/
def diagnosticOf (a : Assignment) (f : Finding) (r : Range) : Diagnostic where
  range := r
  severity := f.severity
  code := f.code.map Code.value
  link := f.code.bind Code.link
  source := f.sourceText ++ ", " ++ a.language.channelName
  message := ImportNote.message f a.importLineThreshold
  tags := f.tags

/-- Decides what becomes of a finding. -/
def judge (a : Assignment) (f : Finding) : Inquiry Verdict :=
  if !f.isRecognized then return .dropped .unrecognizedSource
  else do
    match ← Inquiry.reckon (a.origins.mapRange a.recipeText a.generatedText f.range) with
    | none => return .dropped .unmapped
    | some range =>
      let language ← Inquiry.languageAt range.start
      if language ≠ some a.language then return .dropped .languageMismatch
      match ← Rule.first ⟨f, range, a.recipeText⟩ with
      | some rule => return .dropped (.ignored rule)
      | none =>
        let d := a.diagnosticOf f range
        return .kept d (d.message ≠ f.message)

end Assignment
end RecipeDiag
