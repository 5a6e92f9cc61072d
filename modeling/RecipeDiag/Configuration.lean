import RecipeDiag.Json.Basic

/-! # Configuration

Settings are laid over the configuration in force: a setting that is missing or of the wrong type
leaves its value alone. They may stand in a section of their own. -/

namespace RecipeDiag

structure Configuration where
  /-- Whether diagnostics are published at all. -/
  enabled : Bool
  /-- The last line of the imports that every generated Python document starts with. -/
  importLineThreshold : UInt32
  deriving DecidableEq, Repr

namespace Configuration

def default : Configuration := ⟨true, 7⟩

instance : Inhabited Configuration := ⟨default⟩

/-- A boolean setting. -/
def flag? (settings : Json) (name : String) : Option Bool :=
  match settings.member? name with
  | some (.bool b) => some b
  | _ => none

/-- A setting that counts something; of a 64-bit word the low half is kept. -/
def count? (settings : Json) (name : String) : Option UInt32 :=
  match settings.member? name with
  | some (.integer n) => if 0 ≤ n ∧ n.toNat < UInt64.size then some (UInt32.ofNat n.toNat) else none
  | _ => none

/-- The section that the settings are read from. -/
def relevant (settings : Json) : Json := (settings.member? "bitbake").getD settings

/-- Lays settings over a configuration. -/
def apply (c : Configuration) (settings : Json) : Configuration :=
  let s := relevant settings
  { enabled := (flag? s "enableDiagnostics").getD c.enabled
    importLineThreshold := (count? s "importLineThreshold").getD c.importLineThreshold }

end Configuration
end RecipeDiag
