import RecipeDiag.Inquiry
import RecipeDiag.Json.Numeral
import RecipeDiag.Text.Quoted
import RecipeDiag.Wire.Basic

/-! # The client as language service

The server asks its client where symbols are defined and which language covers a position. A `Client`
is what it answers; `Client.service` reads the answers. An answer may be an error, or a result that
cannot be read; both make the question fail. -/

namespace RecipeDiag

/-- The client's answers about the positions of documents, before they are read. -/
structure Client where
  definitions : Uri → Position → Except RpcError Json
  languageAt : Uri → Position → Except RpcError Json

/-- An answer about all positions of a range. -/
structure RangeAnswer where
  uri : String
  range : Range
  reply : Except RpcError Json

namespace Client

/-- Knows nothing. -/
def silent : Client := ⟨fun _ _ => .ok .null, fun _ _ => .ok .null⟩

instance : Inhabited Client := ⟨silent⟩

def definitionMethod : String := "bitbake/getDefinition"

def languageMethod : String := "bitbake/getEmbeddedLanguageTypeOnPosition"

/-- The method by which a question is asked. -/
def method : Question → String
  | .language _ => languageMethod
  | .definitions _ => definitionMethod

/-- The first answer about a position; without one the result is null. -/
def firstAnswer (answers : List RangeAnswer) (u : Uri) (p : Position) : Except RpcError Json :=
  match answers.find? fun a => a.uri = u.text ∧ a.range.Contains p with
  | some a => a.reply
  | none => .ok .null

/-- The client whose answers are listed. -/
def ofAnswers (definitions languages : List RangeAnswer) : Client :=
  ⟨firstAnswer definitions, firstAnswer languages⟩

/-! ### Reading results -/

/-- A link to a symbol; it leads to the part of the target that is selected. -/
def linkOfJson? (j : Json) : Option Location := do
  match ← j.record? ["originSelectionRange", "targetUri", "targetRange", "targetSelectionRange"] with
  | [origin, some u, some r, some selection] =>
    let _ ← Json.optional? Range.ofJson? origin
    let _ ← Range.ofJson? r
    return ⟨← Uri.ofJson? u, ← Range.ofJson? selection⟩
  | _ => none

/-- A location, or a list of locations, or a list of links. -/
def locationsOfJson? (j : Json) : Option (List Location) :=
  ((Location.ofJson? j).map fun l => [l]).or ((j.list? Location.ofJson?).or (j.list? linkOfJson?))

/-- The kind of a value, for a complaint about it. -/
def describe : Json → String
  | .null => "null"
  | .bool b => "boolean `" ++ toString b ++ "`"
  | .integer n => "integer `" ++ toString n ++ "`"
  | .float negative magnitude => "floating point `" ++ Json.floatText negative magnitude ++ "`"
  | .string s => "string " ++ Text.quoted s
  | .array _ => "sequence"
  | .object _ => "map"
  | .unreadable => "null"

/-- What is wrong with a value that names no language. -/
def languageComplaint : Json → String
  | .string s => unknown s
  | .object [(s, j)] =>
    if (Language.ofName? s).isSome then "invalid type: " ++ describe j ++ ", expected unit"
    else unknown s
  | .object _ => "invalid value: map, expected map with a single key"
  | j => "invalid type: " ++ describe j ++ ", expected string or map"
where
  unknown (s : String) : String := "unknown variant `" ++ s ++ "`, expected `python` or `bash`"

/-- A result that cannot be read. -/
def misread (complaint : String) : RpcError := ⟨-32700, complaint⟩

def locations (result : Json) : Except RpcError (List Location) :=
  match Json.nullable? locationsOfJson? result with
  | some ls => .ok (ls.getD [])
  | none => .error (misread "data did not match any variant of untagged enum GotoDefinitionResponse")

def language (result : Json) : Except RpcError (Option Language) :=
  match Json.nullable? Language.ofJson? result with
  | some l => .ok l
  | none => .error (misread (languageComplaint result))

/-! ### The service -/

/-- The service that the client's answers make. -/
def service (c : Client) : LanguageService where
  languageAt u p :=
    ((c.languageAt u p).bind language).mapError (.request languageMethod)
  definitions u p :=
    ((c.definitions u p).bind locations).mapError (.request definitionMethod)

/-- Refuses a question because no client is connected yet. -/
def notConnected : RpcError := ⟨-32002, "Server not initialized"⟩

/-- The service as long as no client is connected. -/
def absent : LanguageService where
  languageAt _ _ := .error (.request languageMethod notConnected)
  definitions _ _ := .error (.request definitionMethod notConnected)

end Client
end RecipeDiag
