import RecipeDiag.Json.Numeral
import RecipeDiag.Text.Hex

/-! # JSON tokens

`Token.scan?` cuts a text into tokens. It runs a machine over the characters: `Scanner.step` takes
one character, and the machine's state says what the character continues. A string with half of a
surrogate pair is a token without a text. -/

namespace RecipeDiag.Json

inductive Token where
  | openObject
  | closeObject
  | openArray
  | closeArray
  | comma
  | colon
  /-- A string literal, without a text if it names half of a surrogate pair. -/
  | text (s : Option String)
  /-- Any other scalar. -/
  | scalar (j : Json)

/-- A string literal whose end is still to come: its characters, the latest first, the first half of
a surrogate pair that waits for the second, and whether a half was left alone. -/
structure OpenText where
  chars : List Char
  lead : Option Nat
  broken : Bool

namespace OpenText

def empty : OpenText := ⟨[], none, false⟩

/-- Adds a character; a half that was waiting stays alone. -/
def push (t : OpenText) (c : Char) : OpenText :=
  ⟨c :: t.chars, none, t.broken || t.lead.isSome⟩

/-- Adds a UTF-16 unit: a first half waits, a second half joins the one that waits. -/
def pushUnit (t : OpenText) (u : Nat) : OpenText :=
  if 0xD800 ≤ u && u < 0xDC00 then ⟨t.chars, some u, t.broken || t.lead.isSome⟩
  else if 0xDC00 ≤ u && u < 0xE000 then
    match t.lead with
    | some h => ⟨Char.ofNat (0x10000 + (h - 0xD800) * 0x400 + (u - 0xDC00)) :: t.chars, none, t.broken⟩
    | none => { t with broken := true }
  else t.push (Char.ofNat u)

def close (t : OpenText) : Token :=
  .text (if t.broken || t.lead.isSome then none else some (String.ofList t.chars.reverse))

end OpenText

/-- What the next character continues. -/
inductive Scanner.State where
  | between
  /-- A word such as `true`, the latest letter first. -/
  | word (rev : List Char)
  /-- A numeral, the latest character first. -/
  | numeral (rev : List Char)
  | string (t : OpenText)
  /-- Behind a backslash. -/
  | escape (t : OpenText)
  /-- Inside the four digits of an escaped unit. -/
  | unit (t : OpenText) (digits : Nat) (value : Nat)

/-- The tokens so far, the latest first, and what is being read. -/
structure Scanner where
  tokens : List Token
  state : Scanner.State

namespace Scanner

def start : Scanner := ⟨[], .between⟩

def isSpace (c : Char) : Bool := c == ' ' || c == '\t' || c == '\n' || c == '\r'

def isNumeralChar (c : Char) : Bool :=
  c.isDigit || c == '+' || c == '-' || c == '.' || c == 'e' || c == 'E'

/-- The character a letter behind a backslash stands for. -/
def escaped? : Char → Option Char
  | '"' => some '"'
  | '\\' => some '\\'
  | '/' => some '/'
  | 'b' => some '\x08'
  | 'f' => some '\x0c'
  | 'n' => some '\n'
  | 'r' => some '\r'
  | 't' => some '\t'
  | _ => none

/-- Ends a word or a numeral. -/
def flush (s : Scanner) : Option Scanner :=
  match s.state with
  | .word rev =>
    match String.ofList rev.reverse with
    | "null" => some ⟨.scalar .null :: s.tokens, .between⟩
    | "true" => some ⟨.scalar (.bool true) :: s.tokens, .between⟩
    | "false" => some ⟨.scalar (.bool false) :: s.tokens, .between⟩
    | _ => none
  | .numeral rev => do
    let n ← Numeral.ofChars? rev.reverse
    return ⟨.scalar n.toJson :: s.tokens, .between⟩
  | _ => some s

/-- Takes a character that starts something new. -/
def begin (tokens : List Token) (c : Char) : Option Scanner :=
  if isSpace c then some ⟨tokens, .between⟩
  else if c.isLower then some ⟨tokens, .word [c]⟩
  else if c.isDigit || c == '-' then some ⟨tokens, .numeral [c]⟩
  else match c with
    | '{' => some ⟨.openObject :: tokens, .between⟩
    | '}' => some ⟨.closeObject :: tokens, .between⟩
    | '[' => some ⟨.openArray :: tokens, .between⟩
    | ']' => some ⟨.closeArray :: tokens, .between⟩
    | ',' => some ⟨.comma :: tokens, .between⟩
    | ':' => some ⟨.colon :: tokens, .between⟩
    | '"' => some ⟨tokens, .string .empty⟩
    | _ => none

/-- Takes one character. -/
def step (s : Scanner) (c : Char) : Option Scanner :=
  match s.state with
  | .between => begin s.tokens c
  | .word rev =>
    if c.isLower then some ⟨s.tokens, .word (c :: rev)⟩
    else s.flush.bind fun s => begin s.tokens c
  | .numeral rev =>
    if isNumeralChar c then some ⟨s.tokens, .numeral (c :: rev)⟩
    else s.flush.bind fun s => begin s.tokens c
  | .string t =>
    if c == '"' then some ⟨t.close :: s.tokens, .between⟩
    else if c == '\\' then some ⟨s.tokens, .escape t⟩
    else if c.toNat < 0x20 then none
    else some ⟨s.tokens, .string (t.push c)⟩
  | .escape t =>
    if c == 'u' then some ⟨s.tokens, .unit t 0 0⟩
    else (escaped? c).map fun d => ⟨s.tokens, .string (t.push d)⟩
  | .unit t digits value => do
    let v := 16 * value + (← Text.hexValue? c)
    return ⟨s.tokens, if digits = 3 then .string (t.pushUnit v) else .unit t (digits + 1) v⟩

end Scanner

/-- The tokens of a text, none if it holds something that is no token. -/
def Token.scan? (text : List Char) : Option (List Token) := do
  let s ← text.foldlM Scanner.step .start
  let s ← s.flush
  match s.state with
  | .between => return s.tokens.reverse
  | _ => none

end RecipeDiag.Json
