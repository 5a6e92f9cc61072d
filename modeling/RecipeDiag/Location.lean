import RecipeDiag.Text.Position
import RecipeDiag.Uri.Basic

/-! # Locations -/

namespace RecipeDiag

/-- A range of a document. -/
structure Location where
  uri : Uri
  range : Range
  deriving DecidableEq, Repr

end RecipeDiag
