import RecipeDiag.Fault
import RecipeDiag.Language
import RecipeDiag.Location

/-! # Questions about a recipe

Judging a finding may need the tooling that knows the recipe: which language covers a position, and
where the symbol at a position is defined. An `Inquiry` is a computation that stops at each such
question and goes on with the answer. `Inquiry.run` answers all of them from a service;
`Inquiry.questions` lists what is asked on the way. A sum that does not fit its word marks the place
where a program that checks its sums ends; `run` goes on there, and `Inquiry.fits` tells whether there
is no such place on the way. -/

namespace RecipeDiag

/-- A question about a recipe. -/
inductive Question where
  | language (position : Position)
  | definitions (position : Position)
  deriving DecidableEq, Repr

/-- Answers questions about recipes; any single answer may fail. -/
structure LanguageService where
  languageAt : Uri → Position → Except Fault (Option Language)
  definitions : Uri → Position → Except Fault (List Location)

inductive Inquiry (α : Type) : Type where
  | done (a : α)
  | askLanguage (position : Position) (next : Option Language → Inquiry α)
  | askDefinitions (position : Position) (next : List Location → Inquiry α)
  /-- A sum did not fit its word. -/
  | overflow (next : Inquiry α)

namespace Inquiry
variable {α β : Type}

def bind : Inquiry α → (α → Inquiry β) → Inquiry β
  | done a, f => f a
  | askLanguage p next, f => askLanguage p fun l => (next l).bind f
  | askDefinitions p next, f => askDefinitions p fun ls => (next ls).bind f
  | overflow next, f => overflow (next.bind f)

instance : Monad Inquiry where
  pure := done
  bind := bind

def languageAt (p : Position) : Inquiry (Option Language) := askLanguage p done

def definitions (p : Position) : Inquiry (List Location) := askDefinitions p done

/-- Goes on with a value that was reckoned. -/
def reckon (a : Reckoned α) : Inquiry α := if a.fits then done a.value else overflow (done a.value)

/-- Asks about a position that was reckoned. -/
def definitionsAt (p : Reckoned Position) : Inquiry (List Location) := do
  let position ← reckon p
  definitions position

/-- The result when a service answers for a recipe; the first failing answer ends the inquiry. -/
def run (service : LanguageService) (recipe : Uri) : Inquiry α → Except Fault α
  | done a => .ok a
  | askLanguage p next =>
    match service.languageAt recipe p with
    | .ok l => (next l).run service recipe
    | .error e => .error e
  | askDefinitions p next =>
    match service.definitions recipe p with
    | .ok ls => (next ls).run service recipe
    | .error e => .error e
  | overflow next => next.run service recipe

/-- The questions asked when a service answers for a recipe, in order. -/
def questions (service : LanguageService) (recipe : Uri) : Inquiry α → List Question
  | done _ => []
  | askLanguage p next =>
    .language p :: match service.languageAt recipe p with
      | .ok l => (next l).questions service recipe
      | .error _ => []
  | askDefinitions p next =>
    .definitions p :: match service.definitions recipe p with
      | .ok ls => (next ls).questions service recipe
      | .error _ => []
  | overflow next => next.questions service recipe

/-- Whether every sum fits its word on the way to the result, when a service answers for a recipe. -/
def fits (service : LanguageService) (recipe : Uri) : Inquiry α → Bool
  | done _ => true
  | askLanguage p next =>
    match service.languageAt recipe p with
    | .ok l => (next l).fits service recipe
    | .error _ => true
  | askDefinitions p next =>
    match service.definitions recipe p with
    | .ok ls => (next ls).fits service recipe
    | .error _ => true
  | overflow _ => false

end Inquiry
end RecipeDiag
