import RecipeDiag.Uri.Basic
import RecipeDiag.Uri.Percent

/-! # Local files

`Uri.filePath?` is the path of the local file that an identifier names, as bytes: every segment of
its path percent-decoded. The scheme does not matter; a host other than `localhost` does. -/

namespace RecipeDiag.Uri

/-- Whether the host, if any, is this machine. -/
def isLocal (u : Uri) : Bool :=
  match u.authority with
  | none => true
  | some a => a.host.isEmpty || a.host == "localhost"

/-- Whether a path ends in a drive letter. -/
def endsInDriveLetter (path : List UInt8) : Bool :=
  match path.reverse with
  | mark :: letter :: _ :: _ =>
    (mark == ':'.toUInt8 || mark == '|'.toUInt8) && (Char.ofNat letter.toNat).isAlpha
  | _ => false

/-- The bytes of the local path. A drive letter at its end is closed by a slash. -/
def filePath? (u : Uri) : Option (List UInt8) :=
  if u.path.toList.head? = some '/' && u.isLocal then
    let path := Percent.decode u.path.toList
    some (if endsInDriveLetter path then path ++ ['/'.toUInt8] else path)
  else none

end RecipeDiag.Uri
