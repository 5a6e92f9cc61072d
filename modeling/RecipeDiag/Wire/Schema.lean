import RecipeDiag.Wire.Decode
import RecipeDiag.Uri.Parse

/-! # Schemas

A schema says which JSON values are proper. `Schema.accepts` decides it, where nobody asks for more than
that. A record may be an object or an array of its fields in order; of an object, members that are no
fields do not count. -/

namespace RecipeDiag

mutual
inductive Schema where
  | any
  | bool
  | i32
  | u32
  /-- Any numeral. -/
  | number
  | string
  /-- An absolute identifier. -/
  | uri
  /-- One of some names, or an object with it as its one member and null under it. -/
  | names (ns : List String)
  | nullable (s : Schema)
  | list (item : Schema)
  /-- An array with an item for each of the schemas. -/
  | tuple (items : List Schema)
  /-- An object with any members. -/
  | map (name value : Schema)
  | record (fields : List RecordField)
  /-- A record that is an object, with a schema for the members that are no fields. -/
  | openRecord (fields : List RecordField) (others : Schema)
  /-- A record of one of several kinds. A field ahead of the others holds the name of the kind, or its
  place among the kinds. -/
  | ofKind (key name : String) (place : Nat) (fields : List RecordField)
  | either (s t : Schema)

inductive RecordField where
  | required (name : String) (s : Schema)
  /-- A field that an object may lack, and that may be null. -/
  | optional (name : String) (s : Schema)
  /-- A field that an object may lack, and an array at its end. -/
  | defaulted (name : String) (s : Schema)
end

def RecordField.name : RecordField → String
  | required n _ | optional n _ | defaulted n _ => n

/-- Fields that may be missing or null, or else are truth values. -/
def RecordField.flags (names : List String) : List RecordField := names.map fun n => .optional n .bool

namespace Schema

/-- Whether a value is the name of a kind or its place. -/
def isKind (name : String) (place : Nat) : Json → Bool
  | .string s => s == name
  | .integer n => n == place
  | _ => false

mutual
/-- Whether a value is proper. -/
def accepts : Schema → Json → Bool
  | any, _ => true
  | bool, j => j.bool?.isSome
  | i32, j => j.i32?.isSome
  | u32, j => j.u32?.isSome
  | number, .integer _ | number, .float .. => true
  | string, j => j.string?.isSome
  | uri, j => (j.string?.bind Uri.parse?).isSome
  | names ns, .string s | names ns, .object [(s, .null)] => ns.contains s
  | nullable _, .null => true
  | nullable s, j => s.accepts j
  | list s, .array items => items.all s.accepts
  | tuple ss, .array items => tupleAccepts ss items
  | map n v, .object ms => ms.all fun m => n.accepts (.string m.1) && v.accepts m.2
  | record fs, .object ms => membersAccept fs ms
  | record fs, .array items => itemsAccept fs items
  | openRecord fs others, .object ms =>
    membersAccept fs ms &&
      ms.all fun m => (fs.map RecordField.name).contains m.1 || others.accepts m.2
  | ofKind key name place fs, .object ms =>
    (ms.lookup key).any (isKind name place) && membersAccept fs ms
  | ofKind _ name place fs, .array (j :: items) => isKind name place j && itemsAccept fs items
  | either s t, j => s.accepts j || t.accepts j
  | _, _ => false

/-- Whether there is an item for each schema, and all are proper. -/
def tupleAccepts : List Schema → List Json → Bool
  | [], [] => true
  | s :: ss, j :: js => s.accepts j && tupleAccepts ss js
  | _, _ => false

/-- Whether a field is proper, or may be missing as it is. -/
def memberAccepts : RecordField → Option Json → Bool
  | .required _ s, some j | .defaulted _ s, some j => s.accepts j
  | .required .., none => false
  | .optional .., none | .defaulted .., none | .optional .., some .null => true
  | .optional _ s, some j => s.accepts j

/-- Whether the members of an object make the fields. -/
def membersAccept : List RecordField → List (String × Json) → Bool
  | [], _ => true
  | f :: fs, ms => memberAccepts f (ms.lookup f.name) && membersAccept fs ms

/-- Whether the items of an array make the fields. -/
def itemsAccept : List RecordField → List Json → Bool
  | [], [] => true
  | f :: fs, j :: js => memberAccepts f (some j) && itemsAccept fs js
  | .defaulted .. :: fs, [] => itemsAccept fs []
  | _, _ => false
end

end Schema
end RecipeDiag
