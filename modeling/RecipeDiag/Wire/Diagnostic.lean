import RecipeDiag.Wire.Basic
import RecipeDiag.Diagnostic.Basic

/-! # Findings and diagnostics as JSON

A plain code is written as it is, a code with a link as an object; the one is never read as the
other. Optional members are left out when they have no value. -/

namespace RecipeDiag

namespace CodeValue

def ofJson? : Json → Option CodeValue
  | .string s => some (.text s)
  | j => j.i32?.map .number

def toJson : CodeValue → Json
  | number n => .integer n.toInt
  | text s => .string s

end CodeValue

namespace Code

/-- Reads a code; what a linked code holds besides its two members must be readable. -/
def ofJson? (j : Json) : Option Code :=
  match j with
  | .object _ => do
    guard j.readable
    match ← j.objectRecord? ["value", "target"] with
    | [some v, target] => return .linked (← CodeValue.ofJson? v) (← Json.optional? Uri.ofJson? target)
    | _ => none
  | _ => (CodeValue.ofJson? j).map .plain

def toJson : Code → Json
  | plain v => v.toJson
  | linked v target => Json.ofMembers [("value", some v.toJson), ("target", target.map Uri.toJson)]

end Code

namespace Finding

def ofJson? (j : Json) : Option Finding := do
  match ← j.record? ["range", "severity", "code", "source", "message", "tags"] with
  | [some range, severity, code, source, some message, tags] =>
    return {
      range := ← Range.ofJson? range
      severity := ← Json.optional? Json.i32? severity
      code := ← Json.optional? Code.ofJson? code
      source := ← Json.optional? Json.string? source
      message := ← message.string?
      tags := ← Json.optional? (Json.list? Json.i32?) tags }
  | _ => none

def toJson (f : Finding) : Json :=
  Json.ofMembers [
    ("range", some f.range.toJson),
    ("severity", f.severity.map fun s => .integer s.toInt),
    ("code", f.code.map Code.toJson),
    ("source", f.source.map .string),
    ("message", some (.string f.message)),
    ("tags", f.tags.map fun ts => .array (ts.map fun t => .integer t.toInt))]

end Finding

/-- A link to documentation. -/
def Uri.toLinkJson (u : Uri) : Json := .object [("href", u.toJson)]

namespace Diagnostic

def toJson (d : Diagnostic) : Json :=
  Json.ofMembers [
    ("range", some d.range.toJson),
    ("severity", d.severity.map fun s => .integer s.toInt),
    ("code", d.code.map CodeValue.toJson),
    ("codeDescription", d.link.map Uri.toLinkJson),
    ("source", some (.string d.source)),
    ("message", some (.string d.message)),
    ("tags", d.tags.map fun ts => .array (ts.map fun t => .integer t.toInt))]

end Diagnostic
end RecipeDiag
