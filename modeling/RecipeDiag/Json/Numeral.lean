import RecipeDiag.Binary64.Shortest
import RecipeDiag.Json.Basic

/-! # JSON numerals

`Numeral.ofChars?` reads the grammar of numerals, `Numeral.toJson` gives the value. A numeral without
fraction and exponent is an integer if it fits 64 bits, signed or unsigned; minus zero is not an
integer. All others are floats, which have to be finite: as many digits as fit 64 bits are taken, and
then multiplied or divided by a power of ten. -/

namespace RecipeDiag.Json

/-- A numeral taken apart: its sign, its digits before and after the point, its exponent. -/
structure Numeral where
  negative : Bool
  whole : List Char
  fraction : Option (List Char)
  exponent : Option (Bool × List Char)

namespace Numeral

/-- The number a run of decimal digits denotes. -/
def digitsValue (ds : List Char) : Nat := ds.foldl (fun n d => 10 * n + (d.toNat - '0'.toNat)) 0

/-- A run of digits that is not empty. -/
def digits? (cs : List Char) : Option (List Char) :=
  if cs.isEmpty || !cs.all Char.isDigit then none else some cs

/-- The exponent of a numeral, without the letter before it. -/
def exponent? : List Char → Option (Bool × List Char)
  | '-' :: cs => (digits? cs).map (true, ·)
  | '+' :: cs => (digits? cs).map (false, ·)
  | cs => (digits? cs).map (false, ·)

/-- Reads a numeral: no leading zero, at least one digit in each part. -/
def ofChars? (cs : List Char) : Option Numeral := do
  let (negative, cs) := match cs with
    | '-' :: rest => (true, rest)
    | _ => (false, cs)
  let isExponentMark := fun c => c == 'e' || c == 'E'
  let mantissa := cs.takeWhile (!isExponentMark ·)
  let exponent ← match cs.dropWhile (!isExponentMark ·) with
    | [] => pure none
    | _ :: rest => (exponent? rest).map some
  let whole ← digits? (mantissa.takeWhile (· != '.'))
  guard (whole.length = 1 || whole.head? != some '0')
  let fraction ← match mantissa.dropWhile (· != '.') with
    | [] => pure none
    | _ :: rest => (digits? rest).map some
  return { negative, whole, fraction, exponent }

/-! ### Integers -/

/-- The integer of a numeral that is written as one and fits. -/
def integer? (n : Numeral) : Option Int :=
  if n.fraction.isSome || n.exponent.isSome then none
  else
    let m := digitsValue n.whole
    if n.negative then if 0 < m && 2 * m ≤ UInt64.size then some (-m) else none
    else if m < UInt64.size then some m else none

/-! ### Floats -/

/-- Takes digits behind those that denote `n` as long as the number fits 64 bits; gives the number and
the digits that are left. -/
def takeDigits : Nat → List Char → Nat × List Char
  | n, [] => (n, [])
  | n, d :: ds =>
    let m := 10 * n + (d.toNat - '0'.toNat)
    if m < UInt64.size then takeDigits m ds else (n, d :: ds)

/-- The digits of a numeral as far as they are taken. Digits before the point that are left only count,
those behind it are as good as not there. -/
def significant (n : Numeral) : Decimal :=
  let fraction := n.fraction.getD []
  let (m, wholeLeft) := takeDigits 0 n.whole
  let (m, fractionLeft) := takeDigits m fraction
  ⟨m, wholeLeft.length - (fraction.length - fractionLeft.length : Nat)⟩

/-- The exponent as it is written. -/
def shift (n : Numeral) : Int :=
  match n.exponent with
  | none => 0
  | some (true, ds) => -digitsValue ds
  | some (false, ds) => digitsValue ds

/-- The greatest power of ten that is a float. -/
def maxPower : Nat := 308

/-- The float nearest to a power of ten. -/
def power (k : Nat) : Binary64 := .nearest (Nat.pow 10 k) 1

/-- A float times a power of ten, none if that is infinite. What is too small for one division is
divided several times. -/
def scale? (x : Binary64) (e : Int) : Option Binary64 :=
  if 0 ≤ e then
    if x = .zero then some .zero
    else if (maxPower : Int) < e then none
    else
      let y := x.mul (power e.toNat)
      if y.isInfinite then none else some y
  else if -(maxPower : Int) ≤ e then some (x.div (power (-e).toNat))
  else if x = .zero then some .zero
  else scale? (x.div (power maxPower)) (e + maxPower)
  termination_by (-e).toNat
  decreasing_by simp only [maxPower] at *; omega

/-- The float of a numeral without its sign. -/
def magnitude? (n : Numeral) : Option Binary64 :=
  let d := n.significant
  scale? (.nearest d.digits 1) (d.exponent + n.shift)

/-- The value of a numeral. -/
def toJson (n : Numeral) : Json :=
  match n.integer? with
  | some i => .integer i
  | none => (n.magnitude?).elim .unreadable (.float n.negative)

end Numeral

/-! ### The text of floats -/

/-- The shortest decimal of a float: positional if the point falls among the first sixteen digits or
into the first four zeros before them, else with an exponent. -/
def magnitudeText (x : Binary64) : String :=
  if x.mantissa = 0 then "0.0"
  else
    let d := x.shortest
    let digits := Nat.toDigits 10 d.digits
    let zeros := fun n : Int => List.replicate n.toNat '0'
    let point : Int := digits.length + d.exponent
    if 0 ≤ d.exponent && point ≤ 16 then String.ofList (digits ++ zeros d.exponent) ++ ".0"
    else if 0 < point && point ≤ 16 then
      String.ofList (digits.take point.toNat ++ '.' :: digits.drop point.toNat)
    else if -5 < point && point ≤ 0 then String.ofList ('0' :: '.' :: zeros (-point) ++ digits)
    else
      let mantissa := digits.take 1 ++ (if digits.length = 1 then [] else '.' :: digits.drop 1)
      String.ofList mantissa ++ "e" ++ (if 0 < point then "+" else "") ++ toString (point - 1)

def floatText (negative : Bool) (x : Binary64) : String :=
  (if negative then "-" else "") ++ magnitudeText x

end RecipeDiag.Json
