import RecipeDiag.Binary64.Basic

/-! # Shortest decimals

Of the decimal numbers that round to a binary one, `shortest` has the fewest digits and, among those
with as few, is the nearest; a tie goes to the even digit. On a grid of powers of ten only the two
neighbours of the number have to be looked at. -/

namespace RecipeDiag

/-- The number `digits * 10 ^ exponent`. -/
structure Decimal where
  digits : Nat
  exponent : Int
  deriving DecidableEq, Repr

namespace Decimal

/-- The number of digits. -/
def length (d : Decimal) : Nat := (Nat.toDigits 10 d.digits).length

/-- The same number without zeros at the end of its digits. -/
def trim (digits : Nat) (exponent : Int) : Decimal :=
  if h : digits ≠ 0 ∧ digits % 10 = 0 then trim (digits / 10) (exponent + 1) else ⟨digits, exponent⟩
  termination_by digits
  decreasing_by omega

end Decimal

namespace Binary64

/-- A quotient divided by a power of ten. -/
def scaledTen (num den : Nat) (p : Int) : Nat × Nat :=
  if 0 ≤ p then (num, den * Nat.pow 10 p.toNat) else (num * Nat.pow 10 (-p).toNat, den)

/-- The power of ten of the first digit of a number that is not zero. -/
def leadingPlace (x : Binary64) : Int :=
  let (a, b) := x.ratio
  if b ≤ a then (Nat.toDigits 10 (a / b)).length - 1 else -(Nat.toDigits 10 ((b - 1) / a)).length

/-- The distance, in quarters of the last place, from a number to the least that rounds to it. -/
def reachBelow (x : Binary64) : Nat :=
  if x.mantissa = leastNormal && x.exponent ≠ minExponent then 1 else 2

/-- The nearest multiple of `10 ^ p` that rounds to a number, without the power. -/
def onGrid? (x : Binary64) (p : Int) : Option Nat :=
  let (num, den) := scaled 1 1 (2 - x.exponent)
  let (num, den) := scaledTen num den p
  let value := 4 * x.mantissa * num
  let low := (4 * x.mantissa - x.reachBelow) * num
  let high := (4 * x.mantissa + 2) * num
  let rounds := fun n : Nat =>
    if x.mantissa % 2 = 0 then low ≤ n * den && n * den ≤ high else low < n * den && n * den < high
  let down := value / den
  let first := roundDiv value den
  let second := if first = down then down + 1 else down
  if rounds first then some first else if rounds second then some second else none

/-- The shortest decimal of a number that is not zero. Seventeen digits are always enough. -/
def shortest (x : Binary64) : Decimal :=
  let place := x.leadingPlace
  match (List.range 17).findSome? fun n : Nat =>
      (x.onGrid? (place - n)).map fun d => (d, place - (n : Int)) with
  | some (d, p) => .trim d p
  | none => ⟨0, 0⟩

end Binary64
end RecipeDiag
