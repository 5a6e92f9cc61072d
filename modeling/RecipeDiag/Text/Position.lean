import RecipeDiag.Reckoned

/-! # Positions in a text

A text is a list of characters. Offsets count UTF-16 units from its start; a position names a line
and a unit within that line. `offsetAt` and `positionAt` go from one to the other, and both are
clamped to what the text holds. All slicing goes through `takeUnits`, the shortest prefix with a
given number of units, so a cut never falls inside a character. A position counts in 32-bit words;
`countPosition` also tells whether they are enough. -/

namespace RecipeDiag

/-- A line and a UTF-16 unit within it, both counted from zero. -/
structure Position where
  line : UInt32
  character : UInt32
  deriving DecidableEq, Repr, Inhabited

/-- A stretch of text from `start` up to `stop`. -/
structure Range where
  start : Position
  stop : Position
  deriving DecidableEq, Repr, Inhabited

namespace Position

/-- Positions are ordered by line, then by character. -/
instance : LE Position :=
  ⟨fun p q => p.line < q.line ∨ (p.line = q.line ∧ p.character ≤ q.character)⟩

instance : DecidableLE Position := fun p q =>
  inferInstanceAs (Decidable (p.line < q.line ∨ (p.line = q.line ∧ p.character ≤ q.character)))

/-- The first position of every text. -/
def origin : Position := ⟨0, 0⟩

end Position

/-- A range holds every position between its ends, both included. -/
def Range.Contains (r : Range) (p : Position) : Prop := r.start ≤ p ∧ p ≤ r.stop

instance (r : Range) (p : Position) : Decidable (r.Contains p) :=
  inferInstanceAs (Decidable (_ ∧ _))

namespace Text

/-! ### Units -/

/-- The UTF-16 units of a character: one in the basic plane, two outside it. -/
def units (c : Char) : Nat := if c.toNat < 0x10000 then 1 else 2

/-- The UTF-16 units of a text. -/
def size : List Char → Nat
  | [] => 0
  | c :: cs => units c + size cs

/-- The bytes of a text in UTF-8. -/
def byteSize : List Char → Nat
  | [] => 0
  | c :: cs => c.utf8Size + byteSize cs

/-- The shortest prefix that has at least `n` units, or the whole text if it has fewer. -/
def takeUnits : Nat → List Char → List Char
  | 0, _ => []
  | _ + 1, [] => []
  | n + 1, c :: cs => c :: takeUnits (n + 1 - units c) cs

/-! ### Lines -/

/-- The lines of a text, each with the line feed that ends it. -/
def lines : List Char → List (List Char)
  | [] => []
  | c :: cs =>
    if c = '\n' then [c] :: lines cs
    else match lines cs with
      | [] => [[c]]
      | l :: ls => (c :: l) :: ls

/-- Whether a character belongs to the ending of a line. -/
def isLineEnd (c : Char) : Bool := c = '\n' || c = '\r'

/-- A line without the line feeds and carriage returns at its end. -/
def lineContent (l : List Char) : List Char := (l.reverse.dropWhile isLineEnd).reverse

/-! ### Offsets and positions -/

/-- The offset of unit `k` of line `n`: past the end of the line's content it is that end, past the
last line the end of the text. -/
def offsetInLines : List (List Char) → Nat → Nat → Nat
  | [], _, _ => 0
  | l :: _, 0, k => min (size (lineContent l)) k
  | l :: ls, n + 1, k => size l + offsetInLines ls n k

/-- The offset of a position. -/
def offsetAt (text : List Char) (p : Position) : Nat :=
  offsetInLines (lines text) p.line.toNat p.character.toNat

/-- The position behind a character that stands at `p`. -/
def after (p : Position) (c : Char) : Position :=
  if c = '\n' then ⟨p.line + 1, 0⟩ else ⟨p.line, p.character + UInt32.ofNat (units c)⟩

/-- Whether the counters of `p` have room for a character that stands there. -/
def hasRoom (p : Position) (c : Char) : Bool :=
  if c = '\n' then p.line.toNat + 1 < UInt32.size else p.character.toNat + units c < UInt32.size

/-- Whether the counters of `p` have room for each character of a text that stands there. -/
def hasRoomFor (p : Position) : List Char → Bool
  | [] => true
  | c :: cs => hasRoom p c && hasRoomFor (after p c) cs

/-- The position behind the whole of a text. -/
def endPosition (text : List Char) : Position := text.foldl after .origin

/-- The position of an offset; an offset inside a character counts as the one behind it. -/
def positionAt (text : List Char) (offset : Nat) : Position := endPosition (takeUnits offset text)

/-- The position of an offset as it is counted. -/
def countPosition (text : List Char) (offset : Nat) : Reckoned Position :=
  ⟨positionAt text offset, hasRoomFor .origin (takeUnits offset text)⟩

/-! ### Slices -/

/-- The text before a position. -/
def before (text : List Char) (p : Position) : List Char := takeUnits (offsetAt text p) text

/-- The UTF-8 byte index of a position. -/
def byteIndexAt (text : List Char) (p : Position) : Nat := byteSize (before text p)

/-- The text a range covers; nothing if the range ends before it starts. -/
def slice (text : List Char) (r : Range) : List Char :=
  (before text r.stop).drop (before text r.start).length

/-- The position a number of units further on. Offsets are 64-bit words. -/
def advance (text : List Char) (p : Position) (n : UInt64) : Reckoned Position := do
  let offset ← Reckoned.offsetSum (UInt64.ofNat (offsetAt text p)) n
  countPosition text offset.toNat

end Text
end RecipeDiag
