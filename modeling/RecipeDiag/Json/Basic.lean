import RecipeDiag.Binary64.Basic

/-! # JSON values

The values of JSON with their members in order. A numeral is an integer only if it is written
without fraction and exponent and fits a 64-bit word; every other numeral is a float.
Text can be well formed and still denote no value: a string with half of a surrogate pair, a
numeral beyond every float, a member whose name is such a string, nesting that is too deep. Such a
piece is `unreadable`. It does no harm where nobody looks at it. -/

namespace RecipeDiag

inductive Json where
  | null
  | bool (b : Bool)
  | integer (n : Int)
  | float (negative : Bool) (magnitude : Binary64)
  | string (s : String)
  | array (items : List Json)
  | object (members : List (String × Json))
  | unreadable
  deriving Inhabited, Repr

namespace Json

/-- The value of a member; of members with one name the last counts. -/
def member? (name : String) : Json → Option Json
  | object ms => (ms.reverse.find? fun m => m.1 == name).map Prod.snd
  | _ => none

/-- Puts a member into a list sorted by name, over one with the same name. -/
def putMember (m : String × Json) : List (String × Json) → List (String × Json)
  | [] => [m]
  | n :: ns => if m.1 < n.1 then m :: n :: ns else if m.1 = n.1 then m :: ns else n :: putMember m ns

/-- The members sorted by name, the last one of each name. -/
def sortMembers (ms : List (String × Json)) : List (String × Json) :=
  ms.foldl (fun acc m => putMember m acc) []

mutual
/-- Whether a value can be read to its last piece. -/
def readable : Json → Bool
  | unreadable => false
  | array items => allReadable items
  | object members => membersReadable members
  | _ => true

def allReadable : List Json → Bool
  | [] => true
  | j :: js => readable j && allReadable js

def membersReadable : List (String × Json) → Bool
  | [] => true
  | (_, j) :: ms => readable j && membersReadable ms
end

/-- The deepest nesting of arrays and objects that is read. -/
def maxDepth : Nat := 127

end Json
end RecipeDiag
