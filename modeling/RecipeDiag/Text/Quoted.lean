import RecipeDiag.Text.Hex
import RecipeDiag.Text.Printable

/-! # Quoted text

A text in quotes in which every character can be seen: the quote, the backslash and the common controls
are escaped with a letter, and what is not printable with its code point in braces. -/

namespace RecipeDiag.Text

/-- A character inside quotes. -/
def escaped (c : Char) : String :=
  match c with
  | '\x00' => "\\0"
  | '\t' => "\\t"
  | '\r' => "\\r"
  | '\n' => "\\n"
  | '"' => "\\\""
  | '\\' => "\\\\"
  | c => if isPrintable c then String.singleton c else "\\u\x7b" ++ toHex c.toNat ++ "\x7d"

def quoted (s : String) : String := "\"" ++ String.join (s.toList.map escaped) ++ "\""

end RecipeDiag.Text
