import RecipeDiag.Text.Split

/-! # Punycode

A label outside ASCII is written in Punycode: its ASCII characters first, then the places and values of
the others as numbers in base 36 whose digits depend on an adaptive bias. `encode` writes a label and
`decode?` reads one. -/

namespace RecipeDiag.Punycode

def digit (n : Nat) : Char := "abcdefghijklmnopqrstuvwxyz0123456789".toList.getD n 'a'

/-- The least value of a digit that does not end its number. -/
def threshold (place bias : Nat) : Nat :=
  if place ≤ bias then 1 else if bias + 26 ≤ place then 26 else place - bias

theorem threshold_bounds (place bias : Nat) :
    1 ≤ threshold place bias ∧ threshold place bias ≤ 26 := by
  unfold threshold; split
  · omega
  · split <;> omega

/-- A number in the base with the thresholds of `bias`, its least digit first. -/
def encodeNumber (n place bias : Nat) : List Char :=
  let t := threshold place bias
  if h : n < t then [digit n]
  else digit (t + (n - t) % (36 - t)) :: encodeNumber ((n - t) / (36 - t)) (place + 36) bias
  termination_by n
  decreasing_by
    have := threshold_bounds place bias
    exact Nat.lt_of_le_of_lt (Nat.div_le_self _ _) (by omega)

/-- Scales a distance down until it is below the limit; gives the steps taken and what is left. -/
def scale (delta steps : Nat) : Nat × Nat :=
  if h : 455 < delta then scale (delta / 35) (steps + 36) else (steps, delta)
  termination_by delta
  decreasing_by omega

/-- The bias after a number for the distance `delta` with `count` characters placed. -/
def adapt (delta count : Nat) (first : Bool) : Nat :=
  let d := if first then delta / 700 else delta / 2
  let (steps, d) := scale (d + d / count) 0
  steps + 36 * d / (d + 38)

/-- Where the encoding of a label stands: the value and place reached, the bias, how many characters
are placed, and the digits so far. -/
structure State where
  delta : Nat
  bias : Nat
  placed : Nat
  out : List Char

/-- Places each character of value `n` and counts the characters of smaller value in between. -/
def placeAll (basic n : Nat) (s : State) (label : List Char) : State :=
  label.foldl (fun s c =>
    if c.toNat < n then { s with delta := s.delta + 1 }
    else if c.toNat = n then
      { delta := 0
        bias := adapt s.delta (s.placed + 1) (s.placed = basic)
        placed := s.placed + 1
        out := s.out ++ encodeNumber s.delta 36 s.bias }
    else s) s

/-- The values in ascending order, each once. -/
def ascending (ns : List Nat) : List Nat := (ns.mergeSort (· ≤ ·)).eraseReps

/-- The first value that is not in ASCII. -/
def firstValue : Nat := 0x80

def firstBias : Nat := 72

def firstPlace : Nat := 36

/-! ### Writing -/

/-- A label in ASCII. -/
def encode (label : List Char) : List Char :=
  let basic := label.filter fun c => c.toNat < firstValue
  let values := ascending ((label.map Char.toNat).filter (firstValue ≤ ·))
  let start : State := ⟨0, firstBias, basic.length, if basic.isEmpty then [] else basic ++ ['-']⟩
  let (s, _) := values.foldl (fun (s, next) n =>
    let s := { s with delta := s.delta + (n - next) * (s.placed + 1) }
    let s := placeAll basic.length n s label
    ({ s with delta := s.delta + 1 }, n + 1)) (start, firstValue)
  s.out

/-! ### Reading -/

def digitValue? (c : Char) : Option Nat :=
  if 'a' ≤ c && c ≤ 'z' then some (c.toNat - 'a'.toNat)
  else if c.isDigit then some (c.toNat - '0'.toNat + 26)
  else none

/-- All numbers stay below this. -/
def limit : Nat := UInt32.size

/-- Where the decoding of a label stands: the characters so far, the value and the place of the last
one, the bias, and the number being read with the weight and the place of its next digit. -/
structure Decoding where
  chars : List Char
  value : Nat
  index : Nat
  bias : Nat
  number : Nat
  weight : Nat
  place : Nat

namespace Decoding

def start (basic : List Char) : Decoding := ⟨basic, firstValue, 0, firstBias, 0, 1, firstPlace⟩

/-- Puts in the character that a finished number stands for. -/
def insert? (s : Decoding) (number : Nat) : Option Decoding := do
  let count := s.chars.length + 1
  let value := s.value + (s.index + number) / count
  let index := (s.index + number) % count
  guard value.isValidChar
  return {
    chars := s.chars.insertIdx index (Char.ofNat value)
    value := value
    index := index + 1
    bias := adapt number count (s.index = 0)
    number := 0
    weight := 1
    place := firstPlace }

/-- Takes one digit. -/
def step? (s : Decoding) (c : Char) : Option Decoding := do
  let d ← digitValue? c
  let number := s.number + d * s.weight
  guard (s.index + number < limit)
  let t := threshold s.place s.bias
  if d < t then s.insert? number
  else
    let weight := s.weight * (36 - t)
    guard (weight < limit)
    return { s with number := number, weight := weight, place := s.place + 36 }

end Decoding

/-- The label that ASCII text stands for. -/
def decode? (cs : List Char) : Option (List Char) := do
  let (digits, front) := Text.cutAt (· == '-') cs.reverse
  let (basic, digits) := match front with
    | _ :: c :: front => ((c :: front).reverse, digits.reverse)
    | _ => ([], cs)
  let s ← digits.foldlM Decoding.step? (.start basic)
  guard (s.place = firstPlace)
  return s.chars

end RecipeDiag.Punycode
