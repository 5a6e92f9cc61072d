import RecipeDiag.Reconciler.Update

/-! # Updates that begin together

An update whose document is held in memory puts its questions in turns: the first question of each
finding, then the second of each that has one, and so on. The line to the client holds one message; a
message behind the first waits for a place, and whoever gets a place goes on before whoever gets an
answer. So of two updates the one whose only question leads a turn goes on after the other.

`Course.endsFirst` tells which of two updates that begin together ends first. -/

namespace RecipeDiag

/-- How an update goes on once it has begun. -/
structure Course where
  /-- The text of the document comes from a file. -/
  readsFile : Bool
  /-- How many questions there are in each turn. -/
  turns : List Nat
  deriving DecidableEq, Repr

namespace Course

/-- Whether the update that leads ends before the other, by the turns that both have left. -/
def leaderEndsFirst : List Nat → List Nat → Bool
  | [], _ => true
  | _ :: _, [] => false
  | n :: ns, _ :: ms => if n = 1 then !leaderEndsFirst ms ns else leaderEndsFirst ns ms
termination_by ns ms => ns.length + ms.length

/-- Whether the first of two updates ends first. Files are slower than memory, and are read one after
the other. -/
def endsFirst (a b : Course) : Bool :=
  match a.readsFile, b.readsFile with
  | false, false => leaderEndsFirst a.turns b.turns
  | false, true => true
  | true, false => false
  | true, true => true

/-- The turns of inquiries that ask so many questions each. -/
def turnsOf (questions : List Nat) : List Nat :=
  (List.range (questions.foldl max 0)).map fun turn => questions.countP (turn < ·)

end Course

namespace Listing

/-- How many questions there are in each turn of judging the findings. -/
def turns (l : Listing) (w : Workspace) (service : LanguageService) : List Nat :=
  Course.turnsOf ((l.inquiries w).map fun q =>
    (q.questions service l.reading.opening.recipe).length)

end Listing

namespace Reconciler

/-- How the update of a generated document will go on if it begins now. -/
def course (r : Reconciler) (s : Surroundings) (generated : Uri) : Course :=
  match (r.opening? generated).bind r.reading? with
  | none => ⟨false, []⟩
  | some g =>
    let u := g.document.uri
    { readsFile := (r.registry.content? u).isNone && u.filePath?.isSome
      turns := match r.listing s.files g with
        | .ok l => l.turns r.workspace s.service
        | .error _ => [] }

end Reconciler
end RecipeDiag
