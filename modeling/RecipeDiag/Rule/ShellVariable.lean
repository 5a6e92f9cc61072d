import RecipeDiag.Text.Blank
import RecipeDiag.Text.Position
import RecipeDiag.Text.Search

/-! # Shell variables that are used but not assigned

A report of an unassigned variable covers the variable's use, possibly with the braces around it, and
names the variable in its message. `nameEnd` finds the end of the name in the recipe, which is where
the tooling can be asked about it; `unassignedName?` reads the name from the message. -/

namespace RecipeDiag.ShellVariable

/-- Whether a character can be part of a name. -/
def isNameChar (c : Char) : Bool := c.isAlphanum || c == '_'

/-- A text up to the end of its first name, none if it holds no name. -/
def uptoName? (t : List Char) : Option (List Char) :=
  let rest := t.dropWhile (!isNameChar ·)
  if rest.isEmpty then none
  else some (t.takeWhile (!isNameChar ·) ++ rest.takeWhile isNameChar)

/-- The end of the first name in a range of a recipe. It is the range's own end if the range holds no
name or starts with one. -/
def nameEnd (recipe : List Char) (r : Range) : Reckoned Position :=
  let t := Text.slice recipe r
  match t, uptoName? t with
  | c :: _, some upto =>
    if isNameChar c then return r.stop else Text.advance recipe r.start (UInt64.ofNat (Text.size upto))
  | _, _ => return r.stop

/-- What a message says behind the name of an unassigned variable. -/
def unassignedClause : String := " is referenced but not assigned."

/-- The variable that a message calls unassigned: all that stands before the clause, without blanks. -/
def unassignedName? (message : String) : Option String := do
  let name ← Text.dropSuffix? unassignedClause.toList message.toList
  guard (!name.isEmpty && !name.any Text.isBlank)
  return String.ofList name

end RecipeDiag.ShellVariable
