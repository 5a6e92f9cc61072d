import RecipeDiag.Uri.Domain.Basic
import RecipeDiag.Uri.Percent

/-! # Hosts

A host is an IPv6 address in brackets, an IPv4 address, or a name. `Host.ofWeb?` reads the hosts of
files and of the schemes of the web, where names are domain names and a name that ends in a number has
to be an address; `Host.ofOther?` reads the hosts of all other schemes, whose names stay as they are.
Both give the host in its one written form. -/

namespace RecipeDiag.Host

open Text

/-! ### IPv4 addresses -/

/-- One number of an address: decimal, octal behind a zero, hexadecimal behind `0x`. -/
def ipv4Number? : List Char → Option Nat
  | [] => none
  | '0' :: 'x' :: cs => numberInBase? 16 cs
  | '0' :: 'X' :: cs => numberInBase? 16 cs
  | '0' :: c :: cs => numberInBase? 8 (c :: cs)
  | cs => numberInBase? 10 cs

/-- The parts between the dots; a dot at the end adds none. -/
def dottedParts (cs : List Char) : List (List Char) :=
  let ps := pieces (· == '.') cs
  if ps.getLast? = some [] then ps.dropLast else ps

/-- Whether a name has to be an address. -/
def endsInNumber (cs : List Char) : Bool :=
  match (dottedParts cs).getLast? with
  | none => false
  | some p => (!p.isEmpty && p.all Char.isDigit) || (ipv4Number? p).isSome

/-- The address of up to four numbers: each but the last is one byte, the last fills the rest. -/
def ipv4? (cs : List Char) : Option Nat := do
  let ns ← (dottedParts cs).mapM ipv4Number?
  let last ← ns.getLast?
  let bytes := ns.dropLast
  let rest := Nat.pow 256 (4 - bytes.length)
  guard (ns.length ≤ 4 && bytes.all (· ≤ 255) && last < rest)
  return bytes.foldl (fun n b => 256 * n + b) 0 * rest + last

def ipv4Text (a : Nat) : String :=
  String.intercalate "." ([a / 0x1000000, a / 0x10000 % 256, a / 0x100 % 256, a % 256].map toString)

/-! ### IPv6 addresses -/

/-- One byte of the dotted end of an address: decimal and without a leading zero. -/
def dottedByte? (cs : List Char) : Option Nat := do
  guard (!cs.isEmpty && (cs.length = 1 || cs.head? != some '0'))
  let n ← numberInBase? 10 cs
  guard (n ≤ 255)
  return n

/-- The two groups of the dotted end of an address. -/
def dottedGroups? (cs : List Char) : Option (List Nat) := do
  match ← (pieces (· == '.') cs).mapM dottedByte? with
  | [a, b, c, d] => return [256 * a + b, 256 * c + d]
  | _ => none

/-- One group of up to four hexadecimal digits. -/
def group? (cs : List Char) : Option Nat :=
  if cs.isEmpty || 4 < cs.length then none else numberInBase? 16 cs

/-- Groups between colons; at the end of the address the last may be dotted. -/
def groups? (dotted : Bool) (cs : List Char) : Option (List Nat) :=
  if cs.isEmpty then some []
  else
    let ps := pieces (· == ':') cs
    match ps.getLast? with
    | some last =>
      if dotted && last.contains '.' then do
        return (← ps.dropLast.mapM group?) ++ (← dottedGroups? last)
      else ps.mapM group?
    | none => none

/-- Splits at the first double colon. -/
def splitDoubleColon : List Char → Option (List Char × List Char)
  | ':' :: ':' :: cs => some ([], cs)
  | c :: cs => (splitDoubleColon cs).map fun (a, b) => (c :: a, b)
  | [] => none

/-- The eight groups of an address; a double colon stands for at least one group of zeros. -/
def ipv6? (cs : List Char) : Option (List Nat) :=
  match splitDoubleColon cs with
  | none => do
    let gs ← groups? true cs
    guard (gs.length = 8)
    return gs
  | some (a, b) => do
    let front ← groups? false a
    let back ← groups? true b
    guard (front.length + back.length ≤ 7)
    return front ++ List.replicate (8 - front.length - back.length) 0 ++ back

/-- The length of the run of zeros at the start. -/
def zeroRun (gs : List Nat) : Nat := (gs.takeWhile (· == 0)).length

/-- Where the longest run of zeros starts, the first of equal ones. -/
def longestRun (gs : List Nat) : Nat × Nat :=
  (List.range gs.length).foldl (fun (i, n) j =>
    let m := zeroRun (gs.drop j)
    if n < m then (j, m) else (i, n)) (0, 0)

/-- An address with its longest run of at least two zeros shortened to a double colon. -/
def ipv6Text (gs : List Nat) : String :=
  let (i, n) := longestRun gs
  let join := fun gs => String.intercalate ":" (List.map toHex gs)
  if n < 2 then join gs else join (gs.take i) ++ "::" ++ join (gs.drop (i + n))

def bracketed? (cs : List Char) : Option String := do
  guard (cs.getLast? = some ']')
  let gs ← ipv6? (cs.dropLast.drop 1)
  return "[" ++ ipv6Text gs ++ "]"

/-! ### Names -/

/-- What no name holds. -/
def isForbidden (c : Char) : Bool := c == '\x00' || " \t\n\r#/:<>?@[\\]^|".toList.contains c

/-- The host of a file or of a scheme of the web. -/
def ofWeb? (cs : List Char) : Option String :=
  if cs.head? = some '[' then bracketed? cs
  else do
    let name ← String.fromUTF8? (ByteArray.mk (Percent.decode cs).toArray)
    let domain ← Domain.ofChars? name.toList
    guard (!domain.isEmpty)
    if endsInNumber domain then (ipv4? domain).map ipv4Text
    else return String.ofList domain

/-- The host of any other scheme. -/
def ofOther? (cs : List Char) : Option String :=
  if cs.head? = some '[' then bracketed? cs
  else if cs.any isForbidden then none
  else some (String.ofList (Percent.encode Percent.isControl cs))

end RecipeDiag.Host
