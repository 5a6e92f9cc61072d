import RecipeDiag.Json.Numeral

/-! # Writing JSON

`Json.render` writes a value on one line. In strings the quote, the backslash and the control
characters are escaped; every other character stands for itself. -/

namespace RecipeDiag.Json

def hexDigit (n : Nat) : Char := "0123456789abcdef".toList.getD n '0'

/-- A character inside a string literal. -/
def escapeChar (c : Char) : List Char :=
  match c with
  | '"' => ['\\', '"']
  | '\\' => ['\\', '\\']
  | _ =>
    if c.toNat < 0x20 then ['\\', 'u', '0', '0', hexDigit (c.toNat / 16), hexDigit (c.toNat % 16)]
    else [c]

/-- A text as a string literal. -/
def quote (s : String) : String := String.ofList ('"' :: s.toList.flatMap escapeChar ++ ['"'])

mutual
/-- The text of a value. -/
def render : Json → String
  | null => "null"
  | bool true => "true"
  | bool false => "false"
  | integer n => toString n
  | float negative magnitude => floatText negative magnitude
  | string s => quote s
  | array items => "[" ++ renderItems items ++ "]"
  | object members => "\x7b" ++ renderMembers members ++ "\x7d"
  | unreadable => "null"

def renderItems : List Json → String
  | [] => ""
  | [j] => render j
  | j :: js => render j ++ "," ++ renderItems js

def renderMembers : List (String × Json) → String
  | [] => ""
  | [(n, j)] => quote n ++ ":" ++ render j
  | (n, j) :: ms => quote n ++ ":" ++ render j ++ "," ++ renderMembers ms
end

end RecipeDiag.Json
