/-! # Binary floating point

Non-negative numbers with at most 53 significant bits, none of them below the place of `minExponent`.
Every operation is the exact one followed by `nearest`, which rounds a quotient to the nearest such
number and a tie to the even mantissa. All arithmetic is on natural numbers. Exponents are not bounded
above; `isInfinite` tells the numbers that are beyond the format. -/

namespace RecipeDiag

/-- The number `mantissa * 2 ^ exponent`. -/
structure Binary64 where
  mantissa : Nat
  exponent : Int
  deriving DecidableEq, Repr

namespace Binary64

def zero : Binary64 := ⟨0, 0⟩

/-- The exponent of the least numbers. -/
def minExponent : Int := -1074

/-- The power of two that the numbers of the format stay below. -/
def limitExponent : Nat := 1024

/-- A quotient rounded to the nearest natural number, a tie to the even one. -/
def roundDiv (num den : Nat) : Nat :=
  let q := num / den
  let r := num % den
  if 2 * r < den then q else if den < 2 * r then q + 1 else q + q % 2

/-- A quotient divided by a power of two. -/
def scaled (num den : Nat) (e : Int) : Nat × Nat :=
  if 0 ≤ e then (num, den * Nat.pow 2 e.toNat) else (num * Nat.pow 2 (-e).toNat, den)

/-- The least mantissa of 53 bits. -/
def leastNormal : Nat := 0x10000000000000

/-- The exponent that leaves a quotient 53 significant bits, as far as it may go. -/
def exponentOf (num den : Nat) : Int :=
  let e : Int := num.log2 - den.log2 - 52
  let (n, d) := scaled num den e
  max minExponent (if n < leastNormal * d then e - 1 else e)

/-- A quotient rounded to 53 significant bits. -/
def nearest (num den : Nat) : Binary64 :=
  if num = 0 then zero
  else
    let e := exponentOf num den
    let (n, d) := scaled num den e
    let m := roundDiv n d
    if m = 0 then zero else if m = 2 * leastNormal then ⟨leastNormal, e + 1⟩ else ⟨m, e⟩

/-- The number as a quotient. -/
def ratio (x : Binary64) : Nat × Nat := scaled x.mantissa 1 (-x.exponent)

def add (x y : Binary64) : Binary64 :=
  let (a, b) := x.ratio
  let (c, d) := y.ratio
  nearest (a * d + c * b) (b * d)

def mul (x y : Binary64) : Binary64 :=
  let (a, b) := x.ratio
  let (c, d) := y.ratio
  nearest (a * c) (b * d)

/-- The quotient of two numbers, of which the second is not zero. -/
def div (x y : Binary64) : Binary64 :=
  let (a, b) := x.ratio
  let (c, d) := y.ratio
  nearest (a * d) (b * c)

/-- The whole part. -/
def floor (x : Binary64) : Nat := let (a, b) := x.ratio; a / b

/-- Whether a number is beyond the format. -/
def isInfinite (x : Binary64) : Bool :=
  x.mantissa ≠ 0 && decide ((limitExponent : Int) ≤ x.mantissa.log2 + x.exponent)

/-- The number with two decimals, rounded to the nearest, a tie to the even digit. -/
def twoDecimals (x : Binary64) : String :=
  let (a, b) := x.ratio
  let n := roundDiv (100 * a) b
  toString (n / 100) ++ "." ++ toString (n / 10 % 10) ++ toString (n % 10)

end Binary64
end RecipeDiag
