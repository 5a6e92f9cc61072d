import RecipeDiag.Json.Basic

/-! # Reading typed values

Readers from JSON to typed values. A record is an object with the record's members or an array of
its fields in order; of an object, unknown members do not count and known ones occur at most once, of
an array, fields at the end may be missing and none may be added. -/

namespace RecipeDiag.Json

/-- The values of the named fields of a record. -/
def record? (names : List String) : Json → Option (List (Option Json))
  | object ms =>
    if names.all fun n => (ms.filter fun m => m.1 == n).length ≤ 1 then
      some (names.map fun n => (ms.find? fun m => m.1 == n).map Prod.snd)
    else none
  | array items =>
    if items.length ≤ names.length then
      some (items.map some ++ List.replicate (names.length - items.length) none)
    else none
  | _ => none

/-- The value of one of the named fields of a record. -/
def field? (names : List String) (name : String) (j : Json) : Option Json := do
  ((names.zip (← j.record? names)).lookup name).join

/-- As `record?` for a record that has no array form. -/
def objectRecord? (names : List String) : Json → Option (List (Option Json))
  | object ms => record? names (object ms)
  | _ => none

def u32? : Json → Option UInt32
  | integer n => if 0 ≤ n ∧ n.toNat < UInt32.size then some (UInt32.ofNat n.toNat) else none
  | _ => none

def u64? : Json → Option UInt64
  | integer n => if 0 ≤ n ∧ n.toNat < UInt64.size then some (UInt64.ofNat n.toNat) else none
  | _ => none

def i32? : Json → Option Int32
  | integer n => if Int32.minValue.toInt ≤ n ∧ n ≤ Int32.maxValue.toInt then some (Int32.ofInt n) else none
  | _ => none

def i64? : Json → Option Int
  | integer n => if Int64.minValue.toInt ≤ n ∧ n ≤ Int64.maxValue.toInt then some n else none
  | _ => none

def bool? : Json → Option Bool
  | bool b => some b
  | _ => none

def string? : Json → Option String
  | string s => some s
  | _ => none

/-- An array with a reader for its items. -/
def list? {α : Type} (item : Json → Option α) : Json → Option (List α)
  | array items => items.mapM item
  | _ => none

/-- The members of an object, in order, with readers for names and values. -/
def map? {α β : Type} (key : String → Option α) (value : Json → Option β) : Json → Option (List (α × β))
  | object ms => ms.mapM fun m => do return (← key m.1, ← value m.2)
  | _ => none

/-- A value that may be null. -/
def nullable? {α : Type} (read : Json → Option α) : Json → Option (Option α)
  | null => some none
  | j => (read j).map some

/-- A field that may be missing or null. -/
def optional? {α : Type} (read : Json → Option α) : Option Json → Option (Option α)
  | none => some none
  | some j => nullable? read j

/-- A field that may be missing but not null. -/
def orDefault? {α : Type} (fallback : α) (read : Json → Option α) : Option Json → Option α
  | none => some fallback
  | some j => read j

/-- The members that have a value. -/
def ofMembers (ms : List (String × Option Json)) : Json :=
  object (ms.filterMap fun m => m.2.map fun j => (m.1, j))

end RecipeDiag.Json
