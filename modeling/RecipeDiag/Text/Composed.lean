import RecipeDiag.Text.CombiningClass
import RecipeDiag.Text.Decomposition

/-! # Composed text

One text may be spelled in many ways, with marks on their letters or behind them and in one order or
another. `composed` gives the spelling that is normal form C of Unicode: characters are decomposed,
marks are put in the order of their classes, and what can be composed is composed. -/

namespace RecipeDiag.Text

/-! ### Hangul syllables -/

namespace Hangul

def firstSyllable : Nat := 0xAC00

def firstLead : Nat := 0x1100

def leads : Nat := 19

def firstVowel : Nat := 0x1161

def vowels : Nat := 21

/-- One before the first tail. -/
def noTail : Nat := 0x11A7

/-- The tails, and having none. -/
def tails : Nat := 28

/-- The number of a syllable. -/
def syllable? (c : Char) : Option Nat :=
  if firstSyllable ≤ c.toNat && c.toNat < firstSyllable + leads * vowels * tails then
    some (c.toNat - firstSyllable)
  else none

/-- The letters of a syllable. -/
def letters? (c : Char) : Option (List Char) :=
  (syllable? c).map fun s =>
    let untailed := [Char.ofNat (firstLead + s / (vowels * tails)),
      Char.ofNat (firstVowel + s / tails % vowels)]
    if s % tails = 0 then untailed else untailed ++ [Char.ofNat (noTail + s % tails)]

/-- The syllable of a lead and a vowel, or of a syllable without a tail and a tail. -/
def compose? (a b : Char) : Option Char :=
  let lead := a.toNat - firstLead
  let vowel := b.toNat - firstVowel
  let tail := b.toNat - noTail
  if firstLead ≤ a.toNat && lead < leads && firstVowel ≤ b.toNat && vowel < vowels then
    some (Char.ofNat (firstSyllable + (lead * vowels + vowel) * tails))
  else if 0 < tail && tail < tails && (syllable? a).any (· % tails = 0) then
    some (Char.ofNat (a.toNat + tail))
  else none

end Hangul

/-! ### Decomposition -/

/-- The canonical decomposition of a character in at most so many steps. -/
def decomposeIn : Nat → Char → List Char
  | 0, c => [c]
  | n + 1, c =>
    match (Hangul.letters? c).or (decompositions.get? c) with
    | some cs => cs.flatMap (decomposeIn n)
    | none => [c]

/-- No character takes more steps than these. -/
def decompositionSteps : Nat := 4

/-- Puts a character in front of ordered text, behind the marks of lower class. -/
def insertMark (c : Char) : List Char → List Char
  | [] => [c]
  | d :: ds =>
    if 0 < combiningClass d && combiningClass d < combiningClass c then d :: insertMark c ds
    else c :: d :: ds

/-- The decomposition of a text, its marks in order. -/
def decomposed (cs : List Char) : List Char :=
  (cs.flatMap (decomposeIn decompositionSteps)).foldr insertMark []

/-! ### Composition -/

/-- The characters that two characters are composed to. -/
def compositions : List (Char × Char × Char) :=
  decompositions.toList.filterMap fun
    | (c, [a, b]) => if compositionExclusions.contains c then none else some (a, b, c)
    | _ => none

def compose? (a b : Char) : Option Char :=
  (Hangul.compose? a b).or
    ((compositions.find? fun (x, y, _) => x == a && y == b).map fun (_, _, c) => c)

/-- Text that is being composed: what is done, the last character that marks may go on, and the marks
behind it that did not go on it. Lists have the latest first. -/
structure Composing where
  done : List Char
  base : Option Char
  marks : List Char

namespace Composing

def start : Composing := ⟨[], none, []⟩

/-- Takes a character. It goes on the base unless a mark of the same or a higher class is between. -/
def push (s : Composing) (c : Char) : Composing :=
  let isMark := 0 < combiningClass c
  match s.base with
  | none => if isMark then { s with done := c :: s.done } else { s with base := some c }
  | some a =>
    let reaches := s.marks.head?.all fun m => combiningClass m < combiningClass c
    match if reaches then compose? a c else none with
    | some d => { s with base := some d }
    | none =>
      if isMark then { s with marks := c :: s.marks } else ⟨s.marks ++ a :: s.done, some c, []⟩

def chars (s : Composing) : List Char := (s.marks ++ s.base.toList ++ s.done).reverse

end Composing

/-- The composed form of a text. -/
def composed (cs : List Char) : List Char := ((decomposed cs).foldl Composing.push .start).chars

end RecipeDiag.Text
