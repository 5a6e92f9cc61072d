import RecipeDiag.Text.Split
import RecipeDiag.Uri.Percent

/-! # Hierarchical paths

A path is read segment by segment. `resolve` drops the segment of one dot, lets the segment of two
dots take the one before it along, and percent-encodes the others. Segments with the shape of a drive
letter are never taken along; at the front of the path of a file they are written with a colon and
rule out a host.

Tabs and line ends do not count, with one exception: at the front of the path of a file, one behind a
drive letter and its colon makes dots behind it a segment of their own. -/

namespace RecipeDiag.Path

open Text

/-- Tabs and line ends. -/
def isGap (c : Char) : Bool := c == '\t' || c == '\n' || c == '\r'

/-- The characters of a text that count. -/
def solid (cs : List Char) : List Char := cs.filter (!isGap ·)

/-- A dot, plain or percent-encoded, at the front of a segment. -/
def dropDot? : List Char → Option (List Char)
  | '.' :: cs => some cs
  | '%' :: '2' :: c :: cs => if c == 'e' || c == 'E' then some cs else none
  | _ => none

def isDot (s : List Char) : Bool := dropDot? s == some []

def isDoubleDot (s : List Char) : Bool := ((dropDot? s).bind dropDot?) == some []

/-- A letter and a colon or bar. -/
def isDriveLetter : List Char → Bool
  | [a, b] => a.isAlpha && (b == ':' || b == '|')
  | _ => false

/-- Whether a segment starts like a drive letter that ends there. -/
def isDriveLike : List Char → Bool
  | a :: b :: rest =>
    a.isAlpha && (b == ':' || b == '|') && (rest.isEmpty || "\\?#".toList.contains (rest.headD '/'))
  | _ => false

/-- Splits a segment at a gap behind a drive letter and its colon, if only dots follow. -/
def splitDrive? (s : List Char) : Option (List Char × List Char) := do
  match s.dropWhile isGap with
  | a :: s =>
    match s.dropWhile isGap with
    | ':' :: g :: s =>
      guard (a.isAlpha && isGap g && (isDot (solid s) || isDoubleDot (solid s)))
      return ([a, ':'], solid s)
    | _ => none
  | [] => none

/-- The segments in front, the latest first, and whether a host is still allowed. -/
structure Resolved where
  done : List (List Char)
  hostAllowed : Bool

namespace Resolved

def start : Resolved := ⟨[], true⟩

/-- Goes back over the last segment unless it is like a drive letter. -/
def shorten (r : Resolved) : Resolved :=
  match r.done with
  | s :: init => if isDriveLike s then r else { r with done := init }
  | [] => r

/-- Adds a segment that is no dot segment. -/
def push (file : Bool) (r : Resolved) (s : List Char) : Resolved :=
  match s with
  | [a, _] =>
    if file && r.done.isEmpty && isDriveLetter s then ⟨[[a, ':']], false⟩
    else { r with done := s :: r.done }
  | _ => { r with done := s :: r.done }

/-- Takes a segment. The last one is not followed by a slash, so if it is a dot segment an empty one
takes its place. -/
def take (file last : Bool) (r : Resolved) (s : List Char) : Resolved :=
  let close := fun r : Resolved => if last then { r with done := [] :: r.done } else r
  match if file && r.done.isEmpty then splitDrive? s else none with
  | some (drive, dots) =>
    let r := { r with done := [drive] }
    if isDoubleDot dots then r else close r
  | none =>
    let s := Percent.encode Percent.inPath (solid s)
    if isDoubleDot s then close r.shorten else if isDot s then close r else r.push file s

end Resolved

/-- Takes the segments of a path. -/
def resolve (file : Bool) : Resolved → List (List Char) → Resolved
  | r, [] => r
  | r, [s] => r.take file true s
  | r, s :: rest => resolve file (r.take file false s) rest

/-- The path of resolved segments. A file's path keeps only one slash at its front. -/
def text (file : Bool) (r : Resolved) : List Char :=
  let body := (r.done.reverse.intersperse ['/']).flatten
  '/' :: if file then body.dropWhile (· == '/') else body

end RecipeDiag.Path
