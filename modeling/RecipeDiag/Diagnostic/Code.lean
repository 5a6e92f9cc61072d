import RecipeDiag.Text.Search
import RecipeDiag.Uri.Basic

/-! # Diagnostic codes

A checker names the kind of a finding by a number or a text, alone or together with a link to its
documentation. Codes are matched against plain identifiers; some checkers put a colon and a symbolic
name behind the identifier. -/

namespace RecipeDiag

inductive CodeValue where
  | number (n : Int32)
  | text (s : String)
  deriving DecidableEq, Repr

inductive Code where
  | plain (value : CodeValue)
  | linked (value : CodeValue) (target : Option Uri)
  deriving DecidableEq, Repr

/-- The value as text. -/
def CodeValue.asText : CodeValue → String
  | number n => toString n.toInt
  | text s => s

namespace Code

def value : Code → CodeValue
  | plain v => v
  | linked v _ => v

/-- The documentation that the code links to. -/
def link : Code → Option Uri
  | plain _ => none
  | linked _ target => target

/-- The text of the code, however it is written. -/
def asText (c : Code) : String := c.value.asText

/-- Whether the code is the identifier, possibly with a symbolic name behind a colon. -/
def isNamed (c : Code) (id : String) : Bool :=
  match Text.dropPrefix? id.toList c.asText.toList with
  | some rest => rest.isEmpty || rest.head? = some ':'
  | none => false

end Code
end RecipeDiag
