import RecipeDiag.Text.Bidi
import RecipeDiag.Text.CombiningClass
import RecipeDiag.Text.Composed
import RecipeDiag.Text.Joining
import RecipeDiag.Text.Mark
import RecipeDiag.Text.Search
import RecipeDiag.Uri.Domain.Mapping
import RecipeDiag.Uri.Punycode

/-! # Labels of domain names

A label is read from its settled characters or from its ASCII form, which stands behind `xn--`. It must
not start with a mark, its joiners must join something, and in a domain with text that runs from right
to left it must run in one direction. -/

namespace RecipeDiag.Domain

open Text

structure Label where
  chars : List Char
  /-- The label in ASCII. -/
  written : List Char

def isAscii (c : Char) : Bool := c.toNat < 0x80

/-- What no domain name holds in ASCII. -/
def isForbidden (c : Char) : Bool :=
  c.toNat ≤ 0x20 || c.toNat = 0x7F || "#%/:<>?@[\\]^|".toList.contains c

namespace Label

/-- What the ASCII form of a label starts with. -/
def codeMark : List Char := "xn--".toList

/-- No longer code is read. -/
def maxCode : Nat := 2000

/-- No longer label is written as a code. -/
def maxChars : Nat := 1000

/-- Reads the label of a code. The characters of the label have to be written as they would be without
a code. -/
def ofCode? (code : List Char) : Option Label := do
  guard (code.all isAscii && code.getLast?.any (· != '-') && code.length ≤ maxCode)
  let chars ← Punycode.decode? code
  guard (chars.all isSettled && composed chars == chars)
  guard (!chars.any fun c => isForbidden c || c == '.')
  return ⟨chars, codeMark ++ code⟩

/-- Reads a label. -/
def ofChars? (cs : List Char) : Option Label :=
  match dropPrefix? codeMark cs with
  | some code => ofCode? code
  | none =>
    if cs.all isAscii then some ⟨cs, cs⟩
    else if maxChars < cs.length then none
    else some ⟨cs, codeMark ++ Punycode.encode cs⟩

/-! ### Joiners -/

/-- The joiner that keeps letters apart. -/
def nonJoiner : Char := '\u200C'

def joiner : Char := '\u200D'

/-- Whether the first character that joining does not pass over is of a class. -/
def reaches (p : Char → Bool) (cs : List Char) : Bool :=
  (cs.dropWhile joiningTransparent.contains).head?.any p

/-- Whether a joiner has its place between what stands before it, the latest first, and behind it. -/
def joinerFits (c : Char) (before behind : List Char) : Bool :=
  before.head?.any fun p =>
    combiningClass p = viramaClass ||
      (c == nonJoiner && reaches joinsNext before && reaches joinsPrevious behind)

/-- Whether all joiners have their place. -/
def joinersFit (before : List Char) : List Char → Bool
  | [] => true
  | c :: cs =>
    (!(c == nonJoiner || c == joiner) || joinerFits c before cs) && joinersFit (c :: before) cs

/-- Whether a label is proper by itself. -/
def isProper (l : Label) : Bool :=
  l.chars.all isAscii || (!l.chars.head?.any isMark && joinersFit [] l.chars)

/-! ### Direction -/

/-- Whether a character runs from right to left. -/
def isRightToLeft (c : Char) : Bool :=
  !isAscii c && [BidiClass.right, .arabicLetter, .arabicNumber].contains (.ofChar c)

def hasRightToLeft (l : Label) : Bool := l.chars.any isRightToLeft

/-- The classes that text of either direction may hold. -/
def neutralClasses : List BidiClass :=
  [.europeanNumber, .europeanSeparator, .commonSeparator, .europeanTerminator, .otherNeutral,
    .boundaryNeutral, .nonspacingMark]

/-- Whether characters may follow a first one that runs from left to right. -/
def runsRight (classes : List BidiClass) : Bool :=
  classes.all (fun b => b == .left || neutralClasses.contains b) &&
    classes.getLast?.all [.left, .europeanNumber].contains

/-- Whether characters may follow a first one that runs from right to left. -/
def runsLeft (classes : List BidiClass) : Bool :=
  classes.all (fun b => [.right, .arabicLetter, .arabicNumber].contains b || neutralClasses.contains b) &&
    classes.getLast?.all [.right, .arabicLetter, .arabicNumber, .europeanNumber].contains &&
    !(classes.contains .europeanNumber && classes.contains .arabicNumber)

/-- Whether a label runs in one direction. Marks at its end do not count. -/
def hasDirection (l : Label) : Bool :=
  match l.chars.map BidiClass.ofChar with
  | [] => true
  | first :: rest =>
    let rest := (rest.reverse.dropWhile (· == .nonspacingMark)).reverse
    match first with
    | .left => runsRight rest
    | .right | .arabicLetter => runsLeft rest
    | _ => false

end Label
end RecipeDiag.Domain
