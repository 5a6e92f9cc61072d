import RecipeDiag.Text.Position

/-! # Where generated text comes from

A generated document is assembled from pieces of a recipe and from synthetic characters. Its origin
table gives, for each UTF-16 unit, the unit of the recipe that it was copied from. `mapRange` carries
a range of the generated document back onto the recipe. -/

namespace RecipeDiag

/-- For each unit of a generated document its offset in the recipe, none for a synthetic unit. -/
structure OriginTable where
  entries : List (Option UInt64)
  deriving DecidableEq, Repr, Inhabited

namespace OriginTable

/-- The recipe offset of a generated offset; behind the table's end there is none. -/
def get? (t : OriginTable) (offset : Nat) : Option UInt64 := t.entries[offset]?.join

/-- The recipe range of a generated range. An empty range maps to an empty one at its start; of any
other the last covered unit is mapped, since the end itself is not part of the range. -/
def mapRange (t : OriginTable) (recipe generated : List Char) (r : Range) : Reckoned (Option Range) :=
  match t.get? (Text.offsetAt generated r.start) with
  | none => return none
  | some first => do
    let start ← Text.countPosition recipe first.toNat
    let stopOffset := Text.offsetAt generated r.stop
    if stopOffset ≤ Text.offsetAt generated r.start then
      return some ⟨start, start⟩
    else match t.get? (stopOffset - 1) with
    | none => return none
    | some last => do
      let next ← Reckoned.offsetSum last 1
      let stop ← Text.countPosition recipe next.toNat
      return some ⟨start, stop⟩

end OriginTable
end RecipeDiag
