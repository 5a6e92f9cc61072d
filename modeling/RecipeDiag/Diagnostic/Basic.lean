import RecipeDiag.Diagnostic.Code
import RecipeDiag.Text.Position

/-! # Findings and diagnostics

A `Finding` is what a checker reports about a generated document. A `Diagnostic` is what is shown for
a recipe. -/

namespace RecipeDiag

/-- The checkers whose findings are reconciled. -/
inductive Checker where
  | flake8
  | pylance
  | pylint
  | shellcheck
  deriving DecidableEq, Repr

namespace Checker

def all : List Checker := [flake8, pylance, pylint, shellcheck]

def name : Checker → String
  | flake8 => "Flake8"
  | pylance => "Pylance"
  | pylint => "Pylint"
  | shellcheck => "shellcheck"

end Checker

/-- A checker's report about a generated document. -/
structure Finding where
  range : Range
  severity : Option Int32
  code : Option Code
  source : Option String
  message : String
  tags : Option (List Int32)
  deriving DecidableEq, Repr

/-- A diagnostic shown for a recipe. -/
structure Diagnostic where
  range : Range
  severity : Option Int32
  code : Option CodeValue
  link : Option Uri
  source : String
  message : String
  tags : Option (List Int32)
  deriving DecidableEq, Repr

namespace Finding

/-- The source, empty if there is none. -/
def sourceText (f : Finding) : String := f.source.getD ""

/-- Whether the source names a tool. -/
def comesFrom (f : Finding) (tool : String) : Bool :=
  Text.occursIn tool.toList f.sourceText.toList

/-- Whether the source names a tool and the code is its identifier. -/
def isReport (f : Finding) (tool id : String) : Bool :=
  f.comesFrom tool && (f.code.any fun c => c.isNamed id)

/-- Whether the source names one of the checkers. -/
def isRecognized (f : Finding) : Bool := Checker.all.any fun c => f.comesFrom c.name

end Finding
end RecipeDiag
