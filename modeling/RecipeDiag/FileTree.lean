import RecipeDiag.Fault

/-! # Files

`FileTree` holds files and folders by the names on their paths. `FileTree.read` finds the file of a
path, with dots and slashes as usual, and reads it as text. A `FileReader` is any such way to read. -/

namespace RecipeDiag

/-- Reads the file of a path as text. -/
abbrev FileReader := List UInt8 → Except FileError String

/-- A path from the root, the names on it in order. -/
abbrev Route := List (List UInt8)

structure FileTree where
  files : List (Route × List UInt8)
  folders : List Route

namespace FileTree

def longestName : Nat := 255

def longestPath : Nat := 4095

/-- The content of a file; of files with one route the last counts. -/
def content? (t : FileTree) (r : Route) : Option (List UInt8) :=
  (t.files.reverse.find? fun f => f.1 == r).map Prod.snd

/-- Whether a route leads to a folder: the root, a listed one, or one on the way to another. -/
def isFolder (t : FileTree) (r : Route) : Bool :=
  let below := fun s : Route => r.isPrefixOf s && r != s
  r.isEmpty || t.folders.contains r || t.folders.any below || t.files.any fun f => below f.1

/-- The names between the slashes. -/
def names : List UInt8 → List (List UInt8)
  | [] => [[]]
  | b :: bs =>
    if b == '/'.toUInt8 then [] :: names bs
    else match names bs with
      | n :: ns => (b :: n) :: ns
      | [] => [[b]]

/-- Follows names from a folder or file. -/
def walk (t : FileTree) (r : Route) : List (List UInt8) → Except FileError Route
  | [] => .ok r
  | n :: ns =>
    if t.isFolder r then
      if n.isEmpty || n == ['.'.toUInt8] then t.walk r ns
      else if n == ['.'.toUInt8, '.'.toUInt8] then t.walk r.dropLast ns
      else if longestName < n.length then .error .nameTooLong
      else if t.isFolder (r ++ [n]) || (t.content? (r ++ [n])).isSome then t.walk (r ++ [n]) ns
      else .error .notFound
    else .error .notADirectory

/-- The text that bytes encode. -/
def text? (bytes : List UInt8) : Option String := String.fromUTF8? (ByteArray.mk bytes.toArray)

/-- Reads the file of a path that starts at a folder unless it starts with a slash. -/
def read (t : FileTree) (folder : Route) : FileReader := fun path => do
  if path.contains 0 then throw .nulInName
  if path.isEmpty then throw .notFound
  if longestPath < path.length then throw .nameTooLong
  let r ← t.walk (if path.head? = some '/'.toUInt8 then [] else folder) (names path)
  match t.content? r with
  | none => throw .isADirectory
  | some bytes =>
    match text? bytes with
    | some s => return s
    | none => throw .invalidText

end FileTree
end RecipeDiag
