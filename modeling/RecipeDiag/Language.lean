import RecipeDiag.Uri.Basic

/-! # Embedded languages

Recipes embed shell and Python code. Each language has its own generated documents, known by their
extension, and its own channel of diagnostics. -/

namespace RecipeDiag

inductive Language where
  | python
  | bash
  deriving DecidableEq, Repr

namespace Language

/-- Both languages, in the order in which their diagnostics are shown. -/
def all : List Language := [bash, python]

def name : Language → String
  | python => "python"
  | bash => "bash"

/-- The channel that the diagnostics of a language are published on. -/
def channelName : Language → String
  | python => "bitbake-python"
  | bash => "bitbake-bash"

def ofName? (s : String) : Option Language := all.find? fun l => l.name = s

/-- The extension of the generated documents of a language. -/
def extension : Language → String
  | python => ".py"
  | bash => ".sh"

/-- The language of a generated document, told from the extension of its path. -/
def ofUri? (u : Uri) : Option Language :=
  if python.extension.toList.isSuffixOf u.path.toList then some python
  else if bash.extension.toList.isSuffixOf u.path.toList then some bash
  else none

end Language
end RecipeDiag
