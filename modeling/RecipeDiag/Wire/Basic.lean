import RecipeDiag.Wire.Decode
import RecipeDiag.Text.Origin
import RecipeDiag.Uri.Parse
import RecipeDiag.Language
import RecipeDiag.Location

/-! # Positions, identifiers and languages as JSON -/

namespace RecipeDiag

namespace Position

def ofJson? (j : Json) : Option Position := do
  match ← j.record? ["line", "character"] with
  | [some l, some c] => return ⟨← l.u32?, ← c.u32?⟩
  | _ => none

def toJson (p : Position) : Json :=
  .object [("line", .integer p.line.toNat), ("character", .integer p.character.toNat)]

end Position

namespace Range

def ofJson? (j : Json) : Option Range := do
  match ← j.record? ["start", "end"] with
  | [some s, some e] => return ⟨← Position.ofJson? s, ← Position.ofJson? e⟩
  | _ => none

def toJson (r : Range) : Json := .object [("start", r.start.toJson), ("end", r.stop.toJson)]

end Range

namespace Uri

def ofJson? (j : Json) : Option Uri := j.string?.bind parse?

def toJson (u : Uri) : Json := .string u.text

end Uri

namespace Location

def ofJson? (j : Json) : Option Location := do
  match ← j.record? ["uri", "range"] with
  | [some u, some r] => return ⟨← Uri.ofJson? u, ← Range.ofJson? r⟩
  | _ => none

def toJson (l : Location) : Json := .object [("uri", l.uri.toJson), ("range", l.range.toJson)]

end Location

namespace Language

/-- A language is its name, or an object with the name as its one member and null under it. -/
def ofJson? : Json → Option Language
  | .string s => ofName? s
  | .object [(s, .null)] => ofName? s
  | _ => none

def toJson (l : Language) : Json := .string l.name

end Language

namespace OriginTable

def ofJson? (j : Json) : Option OriginTable := (j.list? (Json.nullable? Json.u64?)).map OriginTable.mk

def toJson (t : OriginTable) : Json :=
  .array (t.entries.map fun
    | none => .null
    | some o => .integer o.toNat)

end OriginTable
end RecipeDiag
