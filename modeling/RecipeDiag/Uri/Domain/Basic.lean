import RecipeDiag.Uri.Domain.Label

/-! # Domain names

`Domain.ofChars?` brings a domain name into its one form in ASCII: each character is written as the
mapping says, the text is composed, and labels outside ASCII are written as codes. Labels may be
empty. -/

namespace RecipeDiag.Domain

open Text

/-- The settled characters of a name. -/
def settled? (cs : List Char) : Option (List Char) :=
  if cs.all isAscii then some (cs.map Char.toLower)
  else ((cs.mapM spelling?).map List.flatten).map composed

/-- The name in ASCII. -/
def ofChars? (cs : List Char) : Option (List Char) := do
  let cs ← settled? cs
  guard (!cs.any isForbidden)
  let labels ← (pieces (· == '.') cs).mapM Label.ofChars?
  guard (labels.all Label.isProper)
  guard (!labels.any Label.hasRightToLeft || labels.all Label.hasDirection)
  return ((labels.map Label.written).intersperse ['.']).flatten

end RecipeDiag.Domain
