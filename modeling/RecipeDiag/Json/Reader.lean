import RecipeDiag.Json.Token

/-! # Reading JSON

The reader takes the tokens one by one and keeps the containers that are open on a stack, so nesting
costs no recursion. `read?` accepts every well-formed text and leaves `unreadable` where a piece
denotes no value; `readStrict?` wants every piece readable, sorts the members of each object by name
and keeps the last of each name. -/

namespace RecipeDiag.Json

/-- A container that is still open, its parts in reverse order. -/
inductive Frame where
  | array (items : List Json)
  /-- The members so far, the name of the member being read, and whether a name was no text. -/
  | object (members : List (String × Json)) (name : String) (broken : Bool)

/-- What may come next. -/
inductive Reader.Stage where
  /-- A value, or the end of the array if it is still empty. -/
  | value (closable : Bool)
  /-- The name of a member, or the end of the object if it is still empty. -/
  | name (closable : Bool)
  | colon
  /-- A comma or the end of the container; at the top the end of the text. -/
  | next

structure Reader where
  frames : List Frame
  stage : Reader.Stage
  result : Option Json

namespace Reader

def start : Reader := ⟨[], .value false, none⟩

/-- Puts a finished value where it belongs. -/
def put (strict : Bool) (frames : List Frame) (j : Json) : Option Reader :=
  match strict, j with
  | true, .unreadable => none
  | _, _ =>
    match frames with
    | [] => some ⟨[], .next, some j⟩
    | .array items :: fs => some ⟨.array (j :: items) :: fs, .next, none⟩
    | .object ms name broken :: fs => some ⟨.object ((name, j) :: ms) name broken :: fs, .next, none⟩

/-- Closes the innermost container, which is nested `depth` deep. -/
def finish (strict : Bool) (depth : Nat) : Frame → Json
  | .array items => if maxDepth < depth then .unreadable else .array items.reverse
  | .object ms _ broken =>
    if maxDepth < depth || broken then .unreadable
    else .object (if strict then sortMembers ms.reverse else ms.reverse)

/-- Closes the innermost container if it is an object or array as `isObject` says. -/
def close (strict : Bool) (isObject : Bool) (r : Reader) : Option Reader :=
  match r.frames with
  | f@(.array _) :: fs => if isObject then none else put strict fs (finish strict r.frames.length f)
  | f@(.object ..) :: fs => if isObject then put strict fs (finish strict r.frames.length f) else none
  | [] => none

/-- Takes one token. -/
def step (strict : Bool) (r : Reader) (t : Token) : Option Reader :=
  match r.stage, t with
  | .value _, .scalar j => put strict r.frames j
  | .value _, .text (some s) => put strict r.frames (.string s)
  | .value _, .text none => put strict r.frames .unreadable
  | .value _, .openArray => some ⟨.array [] :: r.frames, .value true, none⟩
  | .value _, .openObject => some ⟨.object [] "" false :: r.frames, .name true, none⟩
  | .value true, .closeArray => r.close strict false
  | .name _, .text s =>
    match r.frames with
    | .object ms _ broken :: fs => some ⟨.object ms (s.getD "") (broken || s.isNone) :: fs, .colon, none⟩
    | _ => none
  | .name true, .closeObject => r.close strict true
  | .colon, .colon => some { r with stage := .value false }
  | .next, .comma =>
    match r.frames with
    | .array _ :: _ => some { r with stage := .value false }
    | .object .. :: _ => some { r with stage := .name false }
    | [] => none
  | .next, .closeArray => r.close strict false
  | .next, .closeObject => r.close strict true
  | _, _ => none

end Reader

/-- Reads the one value of a text. -/
def readWith (strict : Bool) (text : List Char) : Option Json := do
  let tokens ← Token.scan? text
  let r ← tokens.foldlM (Reader.step strict) .start
  r.result

/-- Reads a text; what denotes no value is `unreadable`. -/
def read? (text : List Char) : Option Json := readWith false text

/-- Reads a text in which every piece has to denote a value. -/
def readStrict? (text : List Char) : Option Json := readWith true text

end RecipeDiag.Json
