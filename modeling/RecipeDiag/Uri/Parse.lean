import RecipeDiag.Uri.Basic
import RecipeDiag.Uri.Host
import RecipeDiag.Uri.Path

/-! # Reading identifiers

`Uri.parse?` reads an absolute identifier and brings it into normal form. Spaces and control
characters around it do not count, and tabs and line ends inside it hardly ever do. The schemes of the
web need a host and take a backslash for a slash; a file may do without a host; of all other schemes
the path is opaque unless it starts with a slash. -/

namespace RecipeDiag.Uri

open Text RecipeDiag.Path

/-- How the text behind a scheme is read. -/
inductive Family where
  | file
  | web
  | other
  deriving DecidableEq

def familyOf (scheme : String) : Family :=
  if scheme = "file" then .file
  else if ["http", "https", "ws", "wss", "ftp"].contains scheme then .web
  else .other

/-- The port number of a scheme if none is written. -/
def defaultPortNumber? : String → Option Nat
  | "http" => some 80
  | "ws" => some 80
  | "https" => some 443
  | "wss" => some 443
  | "ftp" => some 21
  | _ => none

/-- Whether a character separates segments. -/
def isSlash (f : Family) (c : Char) : Bool := c == '/' || (f != .other && c == '\\')

/-- The text without the spaces and control characters around it. -/
def trim (cs : List Char) : List Char :=
  let isOuter := fun c : Char => c.toNat ≤ 0x20
  ((cs.dropWhile isOuter).reverse.dropWhile isOuter).reverse

/-- The text behind a slash, if it starts with one. -/
def dropSlash? (f : Family) (cs : List Char) : Option (List Char) :=
  match cs.dropWhile isGap with
  | c :: rest => if isSlash f c then some rest else none
  | [] => none

/-- The scheme, in small letters, and what follows its colon. -/
def splitScheme? (cs : List Char) : Option (String × List Char) :=
  let (scheme, rest) := cutAt (· == ':') cs
  match solid scheme, rest with
  | c :: scheme, _ :: rest =>
    if c.isAlpha && scheme.all (fun c => c.isAlphanum || c == '+' || c == '-' || c == '.') then
      some (String.ofList ((c :: scheme).map Char.toLower), rest)
    else none
  | _, _ => none

/-! ### Path, query and fragment -/

def isPathEnd (c : Char) : Bool := c == '?' || c == '#'

/-- The query and the fragment behind a path. -/
def queryAndFragment (f : Family) (cs : List Char) : Option String × Option String :=
  let (q, rest) := cutAt (· == '#') (solid cs)
  let query := match q with
    | '?' :: q => some (String.ofList (Percent.encode (Percent.inQuery (f != .other)) q))
    | _ => none
  let fragment := match rest with
    | '#' :: h => some (String.ofList (Percent.encode Percent.inFragment h))
    | _ => none
  (query, fragment)

/-- Puts an identifier together from its parts and the text behind its path. -/
def assemble (f : Family) (scheme : String) (authority : Option Authority) (path rest : List Char) :
    Uri :=
  let (query, fragment) := queryAndFragment f rest
  { scheme, authority, path := String.ofList path, query, fragment }

/-- A hierarchical path, whose first slash is already read, and whether it allows a host. -/
def hierarchical (f : Family) (cs : List Char) : List Char × Bool :=
  let r := Path.resolve (f == .file) .start (pieces (isSlash f) cs)
  (Path.text (f == .file) r, r.hostAllowed)

/-- The path behind an authority and whether it allows a host. It starts with a slash, which only the
schemes that are neither file nor web may leave out together with the whole path. -/
def pathBehindAuthority (f : Family) (cs : List Char) : List Char × Bool :=
  match dropSlash? f cs with
  | some rest => hierarchical f rest
  | none => if f == .other && (solid cs).isEmpty then ([], true) else hierarchical f cs

/-! ### Authority -/

/-- The text before the path, the query and the fragment. -/
def cutAuthority (f : Family) (cs : List Char) : List Char × List Char :=
  let (front, rest) := cutAt (fun c => isSlash f c || isPathEnd c) cs
  (solid front, rest)

/-- User name and password; the password and its colon are left out if it is empty. -/
def userInfoText (cs : List Char) : List Char :=
  let (user, rest) := cutAt (· == ':') cs
  let encode := Percent.encode Percent.inUserInfo
  match rest with
  | _ :: p :: ps => encode user ++ ':' :: encode (p :: ps)
  | _ => encode user

/-- Splits at the last at sign. -/
def splitUserInfo? (cs : List Char) : Option (List Char × List Char) :=
  let (behind, front) := cutAt (· == '@') cs.reverse
  match front with
  | _ :: user => some (user.reverse, behind.reverse)
  | [] => none

/-- Splits host and port number at the first colon outside brackets. -/
def splitHost : Bool → List Char → List Char × Option (List Char)
  | _, [] => ([], none)
  | inside, c :: cs =>
    if c == ':' && !inside then ([], some cs)
    else
      let (h, p) := splitHost (if c == '[' then true else if c == ']' then false else inside) cs
      (c :: h, p)

/-- A port number of 16 bits; nothing if it is not written or is the scheme's own. -/
def portNumber? (scheme : String) (cs : List Char) : Option (Option Nat) := do
  let n ← cs.foldlM (fun n c =>
    if c.isDigit then
      let m := 10 * n + (c.toNat - '0'.toNat)
      if m < UInt16.size then some m else none
    else none) 0
  return if cs.isEmpty || defaultPortNumber? scheme = some n then none else some n

/-- Reads what follows two slashes: user name, host, port number, path and the rest. An at sign with
nothing around it may only stand at the end. A backslash ends the number. -/
def ofAuthority? (f : Family) (scheme : String) (cs : List Char) : Option Uri := do
  let (front, rest) := cutAuthority f cs
  let (user, hostAndNumber) := (splitUserInfo? front).getD ([], front)
  guard (!(front == ['@'] && !rest.isEmpty))
  let userInfo := userInfoText user
  let (hostText, behindColon) := splitHost false hostAndNumber
  let (digits, rest) := match behindColon with
    | none => (none, rest)
    | some cs => let (digits, more) := cutAt (· == '\\') cs; (some digits, more ++ rest)
  let host ← if f == .other then Host.ofOther? hostText
    else if hostText.isEmpty then none else Host.ofWeb? hostText
  guard (!(host.isEmpty && (digits.isSome || !userInfo.isEmpty)))
  let portNumber ← match digits with
    | none => some none
    | some ds => portNumber? scheme ds
  let (path, tail) := cutAt isPathEnd rest
  let authority : Authority := ⟨String.ofList userInfo, host, portNumber⟩
  return assemble f scheme (some authority) (pathBehindAuthority f path).1 tail

/-! ### Files -/

/-- A file with the given host. -/
def fileAt (host : String) (path tail : List Char) : Uri :=
  assemble .file "file" (some ⟨"", host, none⟩) path tail

/-- A file without a host. -/
def ofFilePath (cs : List Char) : Uri :=
  let (path, tail) := cutAt isPathEnd cs
  fileAt "" (pathBehindAuthority .file path).1 tail

/-- Reads the part of a file behind two slashes: a host, unless it is a drive letter, and the path. A
path that starts with a drive letter rules the host out. -/
def ofFileHost? (cs : List Char) : Option Uri := do
  let (front, rest) := cutAuthority .file cs
  if Path.isDriveLetter front || front.isEmpty then return ofFilePath cs
  else
    let host ← Host.ofWeb? front
    if host = "localhost" then return ofFilePath rest
    else
      let (path, tail) := cutAt isPathEnd rest
      let (path, hostAllowed) := pathBehindAuthority .file path
      return fileAt (if hostAllowed then host else "") path tail

/-- Reads a file's identifier behind its scheme. -/
def ofFile? (cs : List Char) : Option Uri :=
  match (dropSlash? .file cs).bind (dropSlash? .file) with
  | some rest => ofFileHost? rest
  | none => some (ofFilePath cs)

/-! ### All schemes -/

/-- The text behind all slashes at its front. -/
def dropSlashes (f : Family) (cs : List Char) : List Char :=
  cs.dropWhile fun c => isSlash f c || isGap c

/-- Reads the identifier of a scheme that is neither file nor web. -/
def ofOther? (scheme : String) (cs : List Char) : Option Uri :=
  match dropSlash? .other cs with
  | some rest =>
    match dropSlash? .other rest with
    | some rest => ofAuthority? .other scheme rest
    | none =>
      let (path, tail) := cutAt isPathEnd rest
      some (assemble .other scheme none (hierarchical .other path).1 tail)
  | none =>
    let (path, tail) := cutAt isPathEnd cs
    some (assemble .other scheme none (Percent.encode Percent.isControl (solid path)) tail)

/-- Reads an absolute identifier. -/
def parse? (s : String) : Option Uri := do
  let (scheme, rest) ← splitScheme? (trim s.toList)
  match familyOf scheme with
  | .file => ofFile? rest
  | .web => ofAuthority? .web scheme (dropSlashes .web rest)
  | .other => ofOther? scheme rest

end RecipeDiag.Uri
