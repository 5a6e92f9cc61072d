/-! # Resource identifiers

A `Uri` is an absolute identifier in normal form, taken apart. `text` puts it together again; two
identifiers are compared and ordered by it. All parts are ASCII, so the order by characters is the
order by bytes. -/

namespace RecipeDiag

/-- The part of an identifier behind two slashes. -/
structure Authority where
  /-- User name and password as written before the host, empty if there are none. -/
  userInfo : String
  /-- The host, empty if there is none. -/
  host : String
  /-- The port number unless it is the scheme's own. -/
  portNumber : Option Nat
  deriving DecidableEq, Repr

structure Uri where
  scheme : String
  authority : Option Authority
  path : String
  query : Option String
  fragment : Option String
  deriving DecidableEq, Repr

namespace Authority

def text (a : Authority) : String :=
  (if a.userInfo.isEmpty then "" else a.userInfo ++ "@") ++ a.host ++
    (match a.portNumber with
    | some p => ":" ++ toString p
    | none => "")

end Authority

namespace Uri

/-- What stands between the scheme and the path. Without an authority a path that starts with two
slashes is held apart from the scheme by a dot segment. -/
def beforePath (u : Uri) : String :=
  match u.authority with
  | some a => "//" ++ a.text
  | none => if "//".toList.isPrefixOf u.path.toList then "/." else ""

/-- The identifier as it is written. -/
def text (u : Uri) : String :=
  u.scheme ++ ":" ++ u.beforePath ++ u.path ++
    (match u.query with
    | some q => "?" ++ q
    | none => "") ++
    (match u.fragment with
    | some f => "#" ++ f
    | none => "")

/-- Identifiers are ordered by their text. -/
instance : LE Uri := ⟨fun u v => u.text ≤ v.text⟩

instance : DecidableLE Uri := fun u v => inferInstanceAs (Decidable (u.text ≤ v.text))

/-- Identifiers in ascending order. -/
def sort (us : List Uri) : List Uri := us.mergeSort fun u v => decide (u ≤ v)

end Uri
end RecipeDiag
