import RecipeDiag.Diagnostic.Basic
import RecipeDiag.Inquiry
import RecipeDiag.Rule.CommonDirectory
import RecipeDiag.Rule.ShellVariable

/-! # False positives

Four rules recognize findings that only the embedding of code into a recipe causes. They are tried in
the order of `Rule.chain` and the first that applies decides. -/

namespace RecipeDiag

/-- A finding with its range on the recipe. -/
structure PlacedFinding where
  finding : Finding
  range : Range
  recipeText : List Char

inductive Rule where
  /-- Codes that only ever report the layout of generated documents. -/
  | alwaysIgnoredCode
  /-- The wrapper that generated documents put around anonymous functions. -/
  | anonymousFunction
  /-- Undefined variables that the recipe or BitBake defines. -/
  | definedVariable
  /-- Unassigned shell variables that the recipe or BitBake assigns. -/
  | assignedShellVariable
  deriving DecidableEq, Repr

namespace Rule

def chain : List Rule :=
  [alwaysIgnoredCode, anonymousFunction, definedVariable, assignedShellVariable]

def name : Rule → String
  | alwaysIgnoredCode => "AlwaysIgnoredCode"
  | anonymousFunction => "AnonymousFunction"
  | definedVariable => "DefinedVariable"
  | assignedShellVariable => "AssignedShellVariable"

/-- The statistics counter of the findings that a rule drops. -/
def counter : Rule → String
  | alwaysIgnoredCode => "diagnostics.ignored.always_ignored_code"
  | anonymousFunction => "diagnostics.ignored.anonymous_function"
  | definedVariable => "diagnostics.ignored.defined_variable"
  | assignedShellVariable => "diagnostics.ignored.assigned_shell_variable"

end Rule

/-! ### What the rules look for -/

/-- Codes about blank lines, line length, spacing, docstrings, the place of imports, and statements
without effect. -/
def alwaysIgnoredCodes : List (Checker × String) := [
  (.flake8, "W391"), (.flake8, "E501"), (.flake8, "E203"), (.flake8, "E211"), (.flake8, "E302"),
  (.flake8, "E303"), (.pylint, "C0114"), (.pylint, "C0116"), (.pylint, "C0305"), (.pylint, "C0415"),
  (.pylint, "W0104"), (.pylint, "W0106")]

def undefinedVariableCodes : List (Checker × String) :=
  [(.flake8, "F821"), (.pylance, "reportUndefinedVariable"), (.pylint, "E0602")]

/-- What is said of the wrapper of an anonymous function. -/
def anonymousMessage : String := "\"__anonymous\" is not accessed"

namespace Finding

def reportsAny (f : Finding) (codes : List (Checker × String)) : Bool :=
  codes.any fun c => f.isReport c.1.name c.2

def isAlwaysIgnored (f : Finding) : Bool := f.reportsAny alwaysIgnoredCodes

def isUndefinedVariable (f : Finding) : Bool := f.reportsAny undefinedVariableCodes

/-- The wrapper is reported without a code; a report with one is meant. -/
def isAnonymousFunction (f : Finding) : Bool :=
  f.comesFrom Checker.pylance.name && f.code.isNone && f.message = anonymousMessage

def isUnassignedVariable (f : Finding) : Bool := f.isReport Checker.shellcheck.name "SC2154"

end Finding

/-! ### The rules -/

namespace Rule

/-- One character into the range, so that the symbol before it is not meant. -/
def insideStart (r : Range) : Reckoned Position := do
  let character ← Reckoned.counterSum r.start.character 1
  return ⟨r.start.line, character⟩

/-- Whether a rule applies. -/
def applies (rule : Rule) (p : PlacedFinding) : Inquiry Bool :=
  match rule with
  | alwaysIgnoredCode => pure p.finding.isAlwaysIgnored
  | anonymousFunction => pure p.finding.isAnonymousFunction
  | definedVariable =>
    if p.finding.isUndefinedVariable then do
      let found ← Inquiry.definitionsAt (insideStart p.range)
      return !found.isEmpty
    else pure false
  | assignedShellVariable =>
    if p.finding.isUnassignedVariable then do
      let found ← Inquiry.definitionsAt (ShellVariable.nameEnd p.recipeText p.range)
      return !found.isEmpty || (ShellVariable.unassignedName? p.finding.message).any isCommonDirectory
    else pure false

/-- The first rule of a list that applies. -/
def firstOf (p : PlacedFinding) : List Rule → Inquiry (Option Rule)
  | [] => pure none
  | rule :: rules => do
    if ← rule.applies p then return some rule
    firstOf p rules

/-- The first rule that applies. -/
def first (p : PlacedFinding) : Inquiry (Option Rule) := firstOf p chain

end Rule
end RecipeDiag
