/-! # Taking a text apart -/

namespace RecipeDiag.Text

/-- The pieces between the separators. -/
def pieces (isSeparator : Char → Bool) : List Char → List (List Char)
  | [] => [[]]
  | c :: cs =>
    if isSeparator c then [] :: pieces isSeparator cs
    else match pieces isSeparator cs with
      | p :: ps => (c :: p) :: ps
      | [] => [[c]]

/-- The pieces that are not empty. -/
def words (isSeparator : Char → Bool) (cs : List Char) : List (List Char) :=
  (pieces isSeparator cs).filter (!·.isEmpty)

/-- Splits at the first character of a class, which stays with the second part. -/
def cutAt (isEnd : Char → Bool) (cs : List Char) : List Char × List Char :=
  (cs.takeWhile (!isEnd ·), cs.dropWhile (!isEnd ·))

end RecipeDiag.Text
