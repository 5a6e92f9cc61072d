import RecipeDiag.Text.Hex

/-! # Percent encoding

A byte may stand for itself or be written as a percent sign and two hexadecimal digits. `encode`
writes the characters of a given class that way, byte by byte in UTF-8; `decode` reads every such
triple and leaves a percent sign alone that starts none. -/

namespace RecipeDiag.Percent

def upperHex (n : UInt8) : Char := "0123456789ABCDEF".toList.getD n.toNat '0'

/-- A byte as a percent sign and two digits. -/
def encodeByte (b : UInt8) : List Char := ['%', upperHex (b / 16), upperHex (b % 16)]

/-- Writes the characters of a class percent-encoded and the others as they are. -/
def encode (hidden : Char → Bool) (cs : List Char) : List Char :=
  cs.flatMap fun c => if hidden c then (String.utf8EncodeChar c).flatMap encodeByte else [c]

/-- The bytes that a text stands for. -/
def decode : List Char → List UInt8
  | [] => []
  | '%' :: a :: b :: cs =>
    match Text.hexValue? a, Text.hexValue? b with
    | some x, some y => UInt8.ofNat (16 * x + y) :: decode cs
    | _, _ => '%'.toUInt8 :: decode (a :: b :: cs)
  | c :: cs => String.utf8EncodeChar c ++ decode cs
  termination_by cs => cs.length

/-! ### Classes of characters -/

/-- Control characters and everything outside ASCII. -/
def isControl (c : Char) : Bool := c.toNat < 0x20 || 0x7F ≤ c.toNat

/-- What a fragment hides. -/
def inFragment (c : Char) : Bool := isControl c || " \"<>`".toList.contains c

/-- What a query hides; the schemes of the web hide the apostrophe too. -/
def inQuery (web : Bool) (c : Char) : Bool :=
  isControl c || " \"#<>".toList.contains c || (web && c == '\'')

/-- What a path hides. -/
def inPath (c : Char) : Bool := inFragment c || "#?\x7b\x7d".toList.contains c

/-- What a user name or password hides. -/
def inUserInfo (c : Char) : Bool := inPath c || "/:;=@[\\]^|".toList.contains c

end RecipeDiag.Percent
