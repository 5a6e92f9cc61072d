import RecipeDiag.Reconciler.Review

/-! # Stages

An activity of the reconciler, an update or a clearing, goes through stages. Between two stages other
activities may run, so nothing that was found out in one stage need still hold in the next. From the
moment it changes a channel until it is done with publishing, an activity holds the recipe; no other
activity may change or publish the recipe meanwhile.

What is published goes over a line to the editor. `Line` leaves open whether the line takes a publication
as soon as it is offered. If it does not, the activity waits for it with nothing handed over; in any case
it may have to wait once more until the line moves on. -/

namespace RecipeDiag

/-- The line to the editor. -/
structure Line where
  /-- Whether it takes a publication at once, so that nothing happens between the offer and the handover. -/
  takesAtOnce : Publication → Bool

/-- The line has room for whoever comes first with a message: a sender finds a place that is kept for it, and
waits only after it has handed its message over. -/
def Line.HasRoom (l : Line) : Prop := ∀ p, l.takesAtOnce p

/-- What an activity cannot choose when it goes on. -/
structure Chance where
  /-- Which of several inquiries or recipes is next. -/
  index : Nat
  /-- How many nanoseconds an update that ends now has taken. -/
  elapsed : Nat
  line : Line

/-- How far the inquiry about a finding has come. -/
inductive Progress where
  | asking (inquiry : Inquiry Verdict)
  | reached (verdict : Verdict)
  | failed (fault : Fault)

namespace Progress

/-- How the inquiry ended, if it has. -/
def result? : Progress → Option (Except Fault Verdict)
  | asking _ => none
  | reached v => some (.ok v)
  | failed e => some (.error e)

end Progress

/-- Where an update stands. -/
inductive UpdateStage where
  | begun (generated : Uri)
  | opening (o : Opening)
  | reading (g : Reading)
  | listing (l : Listing)
  | judging (l : Listing) (progress : List Progress)
  /-- Waits until it may hold the recipe. -/
  | committing (o : Outcome)
  /-- Holds the recipe and waits for the line to take the publication. -/
  | publishing (p : Publication)
  /-- Holds the recipe. The publication is handed over; the line has to move on. -/
  | handedOver (recipe : Uri)
  | ended (result : Except Fault Unit)
  | aborted

/-- Where a clearing stands. It ends when no recipe is left. -/
inductive ClearStage where
  /-- Waits until it may hold one of the recipes. -/
  | clearing (recipes : List Uri)
  /-- Holds a recipe and waits for the line to take the publication. -/
  | withdrawing (recipe : Uri) (others : List Uri)
  /-- Holds a recipe. The publication is handed over; the line has to move on. -/
  | withdrawn (recipe : Uri) (others : List Uri)

inductive Activity where
  | update (stage : UpdateStage)
  | clear (stage : ClearStage)

namespace Activity

/-- The recipe that an activity holds. -/
def held? : Activity → Option Uri
  | update (.publishing p) => some p.recipe
  | update (.handedOver recipe) | clear (.withdrawing recipe _) | clear (.withdrawn recipe _) => some recipe
  | _ => none

/-- The recipe that an activity has to wait for. A clearing goes on with whichever recipe it likes. -/
def awaited? (chance : Chance) : Activity → Option Uri
  | update (.committing o) => some o.recipe
  | clear (.clearing recipes) => recipes[chance.index]?
  | _ => none

/-- Whether nothing is left to do. -/
def isOver : Activity → Bool
  | update (.ended _) | update .aborted | clear (.clearing []) => true
  | _ => false

end Activity

/-- Whether an update that stands here is being timed. -/
def UpdateStage.isTimed : UpdateStage → Bool
  | reading _ | listing _ | judging .. | committing _ | publishing _ | handedOver _ => true
  | begun _ | opening _ | ended _ | aborted => false

namespace Reconciler

/-- Takes an inquiry past its next question or to its end. -/
def progress (r : Reconciler) (service : LanguageService) (recipe : Uri) :
    Progress → Reconciler × Progress
  | .asking (.done v) => (r.countVerdict v, .reached v)
  | .asking (.askLanguage p next) =>
    (r.ask recipe (.language p),
      match service.languageAt recipe p with
      | .ok l => .asking (next l)
      | .error e => .failed e)
  | .asking (.askDefinitions p next) =>
    (r.ask recipe (.definitions p),
      match service.definitions recipe p with
      | .ok ls => .asking (next ls)
      | .error e => .failed e)
  | .asking (.overflow next) => (r, .asking next)
  | p => (r, p)

/-- Ends an update that is being timed. -/
def conclude (r : Reconciler) (chance : Chance) (result : Except Fault Unit) : Reconciler × UpdateStage :=
  (r.time chance.elapsed, .ended result)

/-- Takes an update to its next stage. While it judges findings, chance tells which of them goes on; it leaves
that stage when all have ended. -/
def proceedUpdate (r : Reconciler) (s : Surroundings) (chance : Chance) :
    UpdateStage → Reconciler × UpdateStage
  | .begun generated =>
    match r.opening? generated with
    | some o => (r, .opening o)
    | none => (r, .ended (.ok ()))
  | .opening o =>
    match r.reading? o with
    | some g => (r, .reading g)
    | none => (r, .ended (.ok ()))
  | .reading g =>
    match r.listing s.files g with
    | .ok l => (r, .listing l)
    | .error e => r.conclude chance (.error e)
  | .listing l => (r, .judging l ((l.inquiries r.workspace).map .asking))
  | .judging l ps =>
    match ps.mapM Progress.result? with
    | some results =>
      match firstFailure results with
      | .ok verdicts => (r.countOutcome (l.outcome verdicts), .committing (l.outcome verdicts))
      | .error e => r.conclude chance (.error e)
    | none =>
      match ps[chance.index]? with
      | some p =>
        let (r, p) := r.progress s.service l.reading.opening.recipe p
        (r, .judging l (ps.set chance.index p))
      | none => (r, .judging l ps)
  | .committing o =>
    let r := r.commit o
    let p := r.holding o.recipe
    if chance.line.takesAtOnce p then (r.publish p, .handedOver o.recipe) else (r, .publishing p)
  | .publishing p => (r.publish p, .handedOver p.recipe)
  | .handedOver _ => r.conclude chance (.ok ())
  | stage => (r, stage)

/-- Takes a clearing to its next stage; chance tells which recipe is next. -/
def proceedClear (r : Reconciler) (chance : Chance) : ClearStage → Reconciler × ClearStage
  | .clearing recipes =>
    match recipes[chance.index]? with
    | some recipe =>
      let others := recipes.eraseIdx chance.index
      if chance.line.takesAtOnce ⟨recipe, []⟩ then (r.withdraw recipe, .withdrawn recipe others)
      else (r.forget recipe, .withdrawing recipe others)
    | none => (r, .clearing recipes)
  | .withdrawing recipe others => (r.publish ⟨recipe, []⟩, .withdrawn recipe others)
  | .withdrawn _ others => (r, .clearing others)

/-- Takes an activity to its next stage. -/
def proceed (r : Reconciler) (s : Surroundings) (chance : Chance) : Activity → Reconciler × Activity
  | .update stage =>
    let (r, stage) := r.proceedUpdate s chance stage
    (r, .update stage)
  | .clear stage =>
    let (r, stage) := r.proceedClear chance stage
    (r, .clear stage)

/-- Breaks an activity off where it stands, an update after so many nanoseconds. -/
def abort (r : Reconciler) (elapsed : Nat) : Activity → Reconciler × Activity
  | .update (.ended result) => (r, .update (.ended result))
  | .update stage => (if stage.isTimed then r.time elapsed else r, .update .aborted)
  | .clear _ => (r, .clear (.clearing []))

end Reconciler
end RecipeDiag
