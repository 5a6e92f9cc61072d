import RecipeDiag.Proofs.Reconciler.Failure
import RecipeDiag.Proofs.Reconciler.Renewal

/-!
# Reviews in any order

While a review is under way every update is on the course that its document's outcome prescribes
(`Reconciler.OnCourse`), whatever the other updates do. A document has landed from the moment its
update has committed; what the channels hold depends on who has landed, and what was published for a
recipe that nobody waits to publish for too (`UnderReview`). In the end all have landed, as they have after updates
that are made one after the other in any order (`review_in_any_order`).
-/

namespace RecipeDiag

/-- The update has made its outcome an entry, or will not make any. -/
def UpdateStage.HasLanded : UpdateStage → Prop
  | publishing _ | handedOver _ | ended _ => True
  | _ => False

namespace Reconciler
variable {r r' r'' : Reconciler} {s : Surroundings} {u : Uri} {l : Listing} {chance : Chance}
  {stage stage' : UpdateStage}

/-! ### The course of an update -/

/-- What updates read is the same. -/
structure SameView (r r' : Reconciler) : Prop where
  workspace : r'.workspace = r.workspace
  registry : r'.registry = r.registry
  configuration : r'.configuration = r.configuration

theorem SameView.alike (h : r.SameView r') : r.Alike r' :=
  ⟨h.registry.symm, h.configuration.symm, fun _ => by rw [h.workspace]⟩

/-- Where the update of a document may stand if what it reads does not change. -/
inductive OnCourse (r : Reconciler) (s : Surroundings) (u : Uri) : UpdateStage → Prop
  | begun : OnCourse r s u (.begun u)
  | opening {o : Opening} (h : r.opening? u = some o) : OnCourse r s u (.opening o)
  | reading {g : Reading} (h : r.Admits u g) : OnCourse r s u (.reading g)
  | listing {l : Listing} (h : r.Admits u l.reading) (ht : r.listing s.files l.reading = .ok l) :
      OnCourse r s u (.listing l)
  | judging {l : Listing} {ps : List Progress} (h : r.Admits u l.reading)
      (ht : r.listing s.files l.reading = .ok l)
      (hps : ps.map (Progress.finish s.service l.reading.opening.recipe) =
        (l.inquiries r.workspace).map (·.run s.service l.reading.opening.recipe)) :
      OnCourse r s u (.judging l ps)
  | committing {o : Outcome} (h : r.outcome s u = .ok (some o)) : OnCourse r s u (.committing o)
  | publishing {o : Outcome} {p : Publication} (h : r.outcome s u = .ok (some o))
      (hp : p.recipe = o.recipe) : OnCourse r s u (.publishing p)
  | handedOver {o : Outcome} {recipe : Uri} (h : r.outcome s u = .ok (some o)) :
      OnCourse r s u (.handedOver recipe)
  | ended {result : Except Fault Unit} (h : (r.outcome s u).map (fun _ => ()) = result) :
      OnCourse r s u (.ended result)

theorem outcome_of_listing (h : r.Admits u l.reading) (ht : r.listing s.files l.reading = .ok l) :
    r.outcome s u = (l.verdicts r.workspace s.service).map fun vs => some (l.outcome vs) := by
  rw [outcome, admits_iff.2 h]
  simp only [ht]
  rfl

theorem outcome_of_unreadable {g : Reading} {e : Fault} (h : r.Admits u g)
    (he : r.listing s.files g = .error e) : r.outcome s u = .error e := by
  rw [outcome, admits_iff.2 h]
  simp only [he]
  rfl

/-- Once all inquiries have ended, they have come to the verdicts. -/
theorem verdicts_of_mapM_result? {ps : List Progress} {xs : List (Except Fault Verdict)}
    (hps : ps.map (Progress.finish s.service l.reading.opening.recipe) =
      (l.inquiries r.workspace).map (·.run s.service l.reading.opening.recipe))
    (hx : ps.mapM Progress.result? = some xs) :
    l.verdicts r.workspace s.service = firstFailure xs := by
  rw [Listing.verdicts, ← hps, Progress.map_finish_of_mapM_result? hx]

/-- All that one stage of an update on its course does to what is shown. -/
inductive Follows (r : Reconciler) (s : Surroundings) (u : Uri) (r' : Reconciler) :
    UpdateStage → Reconciler → UpdateStage → Prop
  | silent {stage stage' : UpdateStage} {r'' : Reconciler} (channels : r''.channels = r'.channels)
      (published : r''.published = r'.published) (due : (Activity.update stage).due? = none)
      (due' : (Activity.update stage').due? = none)
      (landed : (stage'.HasLanded ↔ stage.HasLanded) ∨
        ¬ stage.HasLanded ∧ stage'.HasLanded ∧ ∀ o, r.outcome s u ≠ .ok (some o)) :
      Follows r s u r' stage r'' stage'
  | commit {o : Outcome} (h : r.outcome s u = .ok (some o)) :
      Follows r s u r' (.committing o) (r'.commit o) (.publishing ((r'.commit o).holding o.recipe))
  | commitAtOnce {o : Outcome} (h : r.outcome s u = .ok (some o)) :
      Follows r s u r' (.committing o) ((r'.commit o).announce o.recipe) (.handedOver o.recipe)
  | publish {p : Publication} : Follows r s u r' (.publishing p) (r'.publish p) (.handedOver p.recipe)

/-- An update ends that has nothing to show. -/
theorem follows_ended {x : Except Fault (Option Outcome)} (hout : r.outcome s u = x)
    (hno : ∀ o, x ≠ .ok (some o)) (hchannels : r''.channels = r'.channels)
    (hpublished : r''.published = r'.published) (hdue : (Activity.update stage).due? = none)
    (hlanded : ¬ stage.HasLanded) : r.OnCourse s u (.ended (x.map fun _ => ())) ∧
      r.Follows s u r' stage r'' (.ended (x.map fun _ => ())) := by
  subst hout
  exact ⟨.ended rfl, .silent hchannels hpublished hdue rfl (.inr ⟨hlanded, trivial, hno⟩)⟩

theorem Leads.follows (h : r'.Leads s chance stage r'' stage') (hv : r.SameView r')
    (hc : r.OnCourse s u stage) : r.OnCourse s u stage' ∧ r.Follows s u r' stage r'' stage' := by
  have hopening := hv.alike.opening?_eq
  have hreading := hv.alike.reading?_eq
  cases h with
  | @opens u' o ho =>
    cases hc
    exact ⟨.opening (hopening ▸ ho), .silent rfl rfl rfl rfl (.inl Iff.rfl)⟩
  | @skips u' hno =>
    cases hc
    have hout : r.outcome s u = .ok none := by
      rw [outcome, hopening, hno]
      rfl
    exact follows_ended hout (by simp) rfl rfl rfl id
  | @finds o g hg =>
    cases hc with
    | opening ho =>
      have hadmits : r.Admits u g := admits_iff.1 (Option.bind_eq_some_iff.2 ⟨o, ho, hreading ▸ hg⟩)
      exact ⟨.reading hadmits, .silent rfl rfl rfl rfl (.inl Iff.rfl)⟩
  | @misses o hno =>
    cases hc with
    | opening ho =>
      have hout : r.outcome s u = .ok none := by
        rw [outcome, ho, Option.bind_some, hreading, hno]
      exact follows_ended hout (by simp) rfl rfl rfl id
  | @lists g l hl =>
    cases hc with
    | reading hg =>
      have hlg : l.reading = g := (listing_eq_ok_iff.1 hl).1
      subst hlg
      rw [listing, hv.registry] at hl
      exact ⟨.listing hg hl, .silent rfl rfl rfl rfl (.inl Iff.rfl)⟩
  | @failsToList g e he =>
    cases hc with
    | reading hg =>
      rw [listing, hv.registry] at he
      exact follows_ended (outcome_of_unreadable hg he) (by simp) rfl rfl rfl id
  | @takesUp l =>
    cases hc with
    | listing hg hl =>
      refine ⟨.judging hg hl ?_, .silent rfl rfl rfl rfl (.inl Iff.rfl)⟩
      rw [List.map_map, hv.workspace]
      rfl
  | @asks l ps p hx hp =>
    cases hc with
    | judging hg hl hps =>
      obtain ⟨st, as, heq⟩ := progress_eq (r := r') s.service l.reading.opening.recipe p
      refine ⟨.judging hg hl ((Progress.map_finish_set r' hp).trans hps), ?_⟩
      rw [heq]
      exact .silent rfl rfl rfl rfl (.inl Iff.rfl)
  | idles => exact ⟨hc, .silent rfl rfl rfl rfl (.inl Iff.rfl)⟩
  | @concludes l ps xs vs hx hvs =>
    cases hc with
    | judging hg hl hps =>
      have hout : r.outcome s u = .ok (some (l.outcome vs)) := by
        rw [outcome_of_listing hg hl, verdicts_of_mapM_result? hps hx, hvs]
        rfl
      exact ⟨.committing hout, .silent rfl rfl rfl rfl (.inl Iff.rfl)⟩
  | @failsToJudge l ps xs e hx he =>
    cases hc with
    | judging hg hl hps =>
      have hout : r.outcome s u = .error e := by
        rw [outcome_of_listing hg hl, verdicts_of_mapM_result? hps hx, he]
        rfl
      exact follows_ended hout (by simp) rfl rfl rfl id
  | @commits o =>
    cases hc with
    | committing ho => exact ⟨.publishing ho rfl, .commit ho⟩
  | @commitsAtOnce o =>
    cases hc with
    | committing ho => exact ⟨.handedOver ho, .commitAtOnce ho⟩
  | @publishes p =>
    cases hc with
    | publishing ho hp => exact ⟨.handedOver ho, .publish⟩
  | finishes =>
    cases hc with
    | handedOver ho => exact ⟨.ended (by rw [ho]; rfl), .silent rfl rfl rfl rfl (.inl Iff.rfl)⟩
  | rests hover =>
    cases hc with
    | ended h => exact ⟨.ended h, .silent rfl rfl rfl rfl (.inl Iff.rfl)⟩
    | _ => cases hover

end Reconciler

namespace Concurrent
variable {c : Concurrent} {r r' : Reconciler} {s : Surroundings} {us : List Uri} {u v recipe : Uri}
  {i : Nat} {stage stage' : UpdateStage} {o : Outcome} {p : Publication}

/-! ### Who has landed -/

/-- Of the updates of a list of documents, that of this document has landed. -/
def Landed (c : Concurrent) (us : List Uri) (u : Uri) : Prop :=
  ∃ (i : Nat) (stage : UpdateStage), us[i]? = some u ∧ c.activities[i]? = some (.update stage) ∧
    stage.HasLanded

theorem landed_set (hi : c.activities[i]? = some (.update stage)) (hu : us[i]? = some u)
    (hkeep : stage.HasLanded → stage'.HasLanded) :
    (⟨r', c.activities.set i (.update stage')⟩ : Concurrent).Landed us v ↔
      c.Landed us v ∨ stage'.HasLanded ∧ v = u := by
  have hlt : i < c.activities.length := (List.getElem?_eq_some_iff.1 hi).1
  constructor
  · rintro ⟨j, st, hj, ha, hl⟩
    by_cases hji : i = j
    · subst hji
      rw [List.getElem?_set_self hlt] at ha
      cases ha
      exact .inr ⟨hl, Option.some.inj (hj.symm.trans hu)⟩
    · exact .inl ⟨j, st, hj, (List.getElem?_set_ne hji).symm.trans ha, hl⟩
  · rintro (⟨j, st, hj, ha, hl⟩ | ⟨hl, rfl⟩)
    · by_cases hji : i = j
      · subst hji
        cases hi.symm.trans ha
        exact ⟨i, stage', hj, List.getElem?_set_self hlt, hkeep hl⟩
      · exact ⟨j, st, hj, (List.getElem?_set_ne hji).trans ha, hl⟩
    · exact ⟨i, stage', hu, List.getElem?_set_self hlt, hl⟩

theorem landed_set_of_iff (hi : c.activities[i]? = some (.update stage)) (hu : us[i]? = some u)
    (hsame : stage'.HasLanded ↔ stage.HasLanded) :
    (⟨r', c.activities.set i (.update stage')⟩ : Concurrent).Landed us v ↔ c.Landed us v := by
  rw [landed_set hi hu hsame.2, or_iff_left_iff_imp]
  rintro ⟨hl, rfl⟩
  exact ⟨i, stage, hu, hi, hsame.1 hl⟩

theorem landed_set_of_lands (hi : c.activities[i]? = some (.update stage)) (hu : us[i]? = some u)
    (hl : stage'.HasLanded) :
    (⟨r', c.activities.set i (.update stage')⟩ : Concurrent).Landed us v ↔ c.Landed us v ∨ v = u := by
  rw [landed_set hi hu fun _ => hl, and_iff_right hl]

/-! ### A review under way -/

/-- Nobody waits to publish for the recipe. -/
def IsServed (c : Concurrent) (recipe : Uri) : Prop :=
  ∀ a ∈ c.activities, ∀ p, a.due? = some p → p.recipe ≠ recipe

theorem isServed_of_set {a a' : Activity} (hi : c.activities[i]? = some a)
    (ha : ∀ p, a.due? = some p → p.recipe ≠ recipe)
    (h : IsServed ⟨r', c.activities.set i a'⟩ recipe) : c.IsServed recipe := by
  intro b hb
  obtain ⟨j, hj⟩ := List.mem_iff_getElem?.1 hb
  by_cases hji : i = j
  · subst hji
    cases hi.symm.trans hj
    exact ha
  · exact h b (List.mem_of_getElem? ((List.getElem?_set_ne hji).trans hj))

/-- The updates of a list of documents are under way, and nothing else. -/
structure UnderReview (r : Reconciler) (s : Surroundings) (us : List Uri) (c : Concurrent) : Prop where
  view : r.SameView c.reconciler
  length : c.activities.length = us.length
  course : ∀ (i : Nat) (a : Activity), c.activities[i]? = some a →
    ∃ u stage, us[i]? = some u ∧ a = .update stage ∧ r.OnCourse s u stage
  owed : ∀ a ∈ c.activities, ∀ p, a.due? = some p → p = c.reconciler.holding p.recipe
  entries : r.channels.Renewed (r.outcome s) (c.Landed us) c.reconciler.channels
  shown : ∃ ps, c.reconciler.published = r.published ++ ps ∧ ∀ recipe, c.IsServed recipe →
    ∀ p, Publication.last? ps recipe = some p ↔
      p = c.reconciler.holding recipe ∧ Outcomes.Reaches (r.outcome s) (c.Landed us) recipe

namespace UnderReview

theorem begun (r : Reconciler) (s : Surroundings) (us : List Uri) :
    UnderReview r s us ⟨r, us.map fun u => .update (.begun u)⟩ := by
  have hstage : ∀ (i : Nat) (a : Activity), (us.map fun u => Activity.update (.begun u))[i]? = some a →
      ∃ u, us[i]? = some u ∧ a = .update (.begun u) := by
    intro i a hi
    rw [List.getElem?_map, Option.map_eq_some_iff] at hi
    obtain ⟨u, hu, rfl⟩ := hi
    exact ⟨u, hu, rfl⟩
  have hlanded : ∀ v, ¬ Landed ⟨r, us.map fun u => .update (.begun u)⟩ us v := by
    rintro v ⟨i, stage, -, hi, hl⟩
    obtain ⟨u, -, hstage⟩ := hstage i _ hi
    cases hstage
    exact hl
  refine ⟨⟨rfl, rfl, rfl⟩, List.length_map .., fun i a hi => ?_, fun a ha p hp => ?_, ?_, [], ?_, ?_⟩
  · obtain ⟨u, hu, rfl⟩ := hstage i a hi
    exact ⟨u, .begun u, hu, rfl, .begun⟩
  · obtain ⟨u, -, rfl⟩ := List.mem_map.1 ha
    cases hp
  · exact Channels.Renewed.none.congr fun v => iff_of_false (hlanded v) id
  · exact (List.append_nil _).symm
  · intro recipe _ p
    refine iff_of_false (by simp [Publication.last?]) ?_
    rintro ⟨-, u, o, hu, -⟩
    exact hlanded u hu

theorem course_set (h : UnderReview r s us c) (hu : us[i]? = some u) (hc : r.OnCourse s u stage') :
    ∀ (j : Nat) (a : Activity), (c.activities.set i (.update stage'))[j]? = some a →
      ∃ u stage, us[j]? = some u ∧ a = .update stage ∧ r.OnCourse s u stage := by
  intro j a hj
  by_cases hji : i = j
  · subst hji
    obtain ⟨hlt, rfl⟩ := List.getElem?_eq_some_iff.1 hj
    exact ⟨u, stage', hu, List.getElem_set_self .., hc⟩
  · rw [List.getElem?_set_ne hji] at hj
    exact h.course j a hj

/-- The update goes on without touching what is shown. -/
theorem silent (h : UnderReview r s us c) (hi : c.activities[i]? = some (.update stage))
    (hu : us[i]? = some u) (hv : r.SameView r') (hc : r.OnCourse s u stage')
    (channels : r'.channels = c.reconciler.channels) (published : r'.published = c.reconciler.published)
    (due : (Activity.update stage).due? = none) (due' : (Activity.update stage').due? = none)
    (landed : (stage'.HasLanded ↔ stage.HasLanded) ∨
      ¬ stage.HasLanded ∧ stage'.HasLanded ∧ ∀ o, r.outcome s u ≠ .ok (some o)) :
    UnderReview r s us ⟨r', c.activities.set i (.update stage')⟩ := by
  have hholding : r'.holding = c.reconciler.holding := by
    funext recipe
    rw [Reconciler.holding, channels, Reconciler.holding]
  have hentries : r.channels.Renewed (r.outcome s)
      (Landed ⟨r', c.activities.set i (.update stage')⟩ us) c.reconciler.channels := by
    rcases landed with hsame | ⟨-, hl, hno⟩
    · exact h.entries.congr fun v => landed_set_of_iff hi hu hsame
    · exact (h.entries.pass hno).congr fun v => landed_set_of_lands hi hu hl
  have hreaches : ∀ recipe, Outcomes.Reaches (r.outcome s)
      (Landed ⟨r', c.activities.set i (.update stage')⟩ us) recipe ↔
        Outcomes.Reaches (r.outcome s) (c.Landed us) recipe := by
    intro recipe
    rcases landed with hsame | ⟨-, hl, hno⟩
    · exact Outcomes.reaches_congr fun v => landed_set_of_iff hi hu hsame
    · rw [Outcomes.reaches_congr fun v => landed_set_of_lands hi hu hl]
      exact Outcomes.reaches_or_eq_of_none hno
  refine ⟨hv, ?_, h.course_set hu hc, fun a ha p hp => ?_, ?_, ?_⟩
  · rw [List.length_set]
    exact h.length
  · rcases List.mem_or_eq_of_mem_set ha with ha | rfl
    · rw [hholding]
      exact h.owed a ha p hp
    · cases due'.symm.trans hp
  · rw [channels]
    exact hentries
  · obtain ⟨ps, hps, hlast⟩ := h.shown
    refine ⟨ps, published.trans hps, fun recipe hserved p => ?_⟩
    rw [hreaches, hholding]
    exact hlast recipe (isServed_of_set hi (by simp [due]) hserved) p

/-- The update makes its outcome an entry and takes hold of the recipe. -/
theorem commit (h : UnderReview r s us c) (hi : c.activities[i]? = some (.update (.committing o)))
    (hu : us[i]? = some u) (hfree : c.isFree o.recipe) (ho : r.outcome s u = .ok (some o)) :
    UnderReview r s us ⟨c.reconciler.commit o,
      c.activities.set i (.update (.publishing ((c.reconciler.commit o).holding o.recipe)))⟩ := by
  have hother : ∀ recipe, recipe ≠ o.recipe →
      (c.reconciler.commit o).holding recipe = c.reconciler.holding recipe := by
    intro recipe hne
    refine congrArg (Publication.mk recipe) (Channels.merged_congr fun l => ?_)
    exact Channels.get?_channel_set.trans (if_neg fun hk => hne hk.2)
  have hlanded : ∀ v, Landed ⟨c.reconciler.commit o, c.activities.set i
      (.update (.publishing ((c.reconciler.commit o).holding o.recipe)))⟩ us v ↔ c.Landed us v ∨ v = u :=
    fun v => landed_set_of_lands hi hu trivial
  refine ⟨⟨h.view.workspace, h.view.registry, h.view.configuration⟩, ?_,
    h.course_set hu (.publishing ho rfl), fun a ha p hp => ?_, ?_, ?_⟩
  · rw [List.length_set]
    exact h.length
  · rcases List.mem_or_eq_of_mem_set ha with ha | rfl
    · -- the recipe was free, so nobody else is about to publish it
      have hne : p.recipe ≠ o.recipe := by
        intro hr
        obtain ⟨j, hj⟩ := List.mem_iff_getElem?.1 ha
        exact isFree_iff.1 hfree j ⟨a, hj, (Activity.held?_of_due? hp).trans (congrArg some hr)⟩
      rw [hother _ hne]
      exact h.owed a ha p hp
    · cases hp
      rfl
  · exact (h.entries.set Reconciler.coherent_outcome ho).congr hlanded
  · obtain ⟨ps, hps, hlast⟩ := h.shown
    refine ⟨ps, hps, fun recipe hserved p => ?_⟩
    have hlt : i < c.activities.length := (List.getElem?_eq_some_iff.1 hi).1
    have hne : recipe ≠ o.recipe := by
      rintro rfl
      exact hserved _ (List.mem_of_getElem? (List.getElem?_set_self hlt)) _ rfl rfl
    have hreaches : Outcomes.Reaches (r.outcome s) (Landed ⟨c.reconciler.commit o, c.activities.set i
        (.update (.publishing ((c.reconciler.commit o).holding o.recipe)))⟩ us) recipe ↔
          Outcomes.Reaches (r.outcome s) (c.Landed us) recipe := by
      rw [Outcomes.reaches_congr hlanded, Outcomes.reaches_or_eq ho]
      exact or_iff_left (Ne.symm hne)
    rw [hreaches, hother recipe hne]
    exact hlast recipe (isServed_of_set hi (fun _ h => nomatch h) hserved) p

/-- The update hands its publication over. -/
theorem publish (h : UnderReview r s us c) (hi : c.activities[i]? = some (.update (.publishing p)))
    (hu : us[i]? = some u) (ho : r.outcome s u = .ok (some o)) (hp : p.recipe = o.recipe) :
    UnderReview r s us
      ⟨c.reconciler.publish p, c.activities.set i (.update (.handedOver p.recipe))⟩ := by
  have hsame : ∀ v, Landed ⟨c.reconciler.publish p, c.activities.set i (.update (.handedOver p.recipe))⟩ us v ↔
      c.Landed us v := fun v => landed_set_of_iff hi hu Iff.rfl
  have hreaches : ∀ recipe, Outcomes.Reaches (r.outcome s)
      (Landed ⟨c.reconciler.publish p, c.activities.set i (.update (.handedOver p.recipe))⟩ us) recipe ↔
        Outcomes.Reaches (r.outcome s) (c.Landed us) recipe := fun recipe => Outcomes.reaches_congr hsame
  refine ⟨⟨h.view.workspace, h.view.registry, h.view.configuration⟩, ?_, h.course_set hu (.handedOver ho),
    fun a ha q hq => ?_, h.entries.congr hsame, ?_⟩
  · rw [List.length_set]
    exact h.length
  · rcases List.mem_or_eq_of_mem_set ha with ha | rfl
    · exact h.owed a ha q hq
    · cases hq
  · obtain ⟨ps, hps, hlast⟩ := h.shown
    refine ⟨ps ++ [p], (congrArg (· ++ [p]) hps).trans (List.append_assoc ..), fun recipe hserved q => ?_⟩
    rw [Publication.last?_concat, hreaches]
    by_cases hr : p.recipe = recipe
    · have howed : p = c.reconciler.holding recipe := hr ▸ h.owed _ (List.mem_of_getElem? hi) p rfl
      have hlanded : c.Landed us u := ⟨i, _, hu, hi, trivial⟩
      have hreached : Outcomes.Reaches (r.outcome s) (c.Landed us) recipe :=
        ⟨u, o, hlanded, ho, hp.symm.trans hr⟩
      have hholding : (c.reconciler.publish p).holding recipe = p := howed.symm
      rw [if_pos hr, and_iff_left hreached, hholding, Option.some.injEq, eq_comm]
    · rw [if_neg hr]
      refine hlast recipe (isServed_of_set hi (fun q hq => ?_) hserved) q
      cases hq
      exact hr

theorem proceed (h : UnderReview r s us c) (i : Nat) (chance : Chance) :
    UnderReview r s us (c.proceed i chance s) := by
  unfold Concurrent.proceed
  split
  · next a hi =>
    obtain ⟨u, stage, hu, rfl, hc⟩ := h.course i a hi
    split
    · next hfree =>
      have hleads : c.reconciler.Leads s chance stage _ _ := Reconciler.leads_proceedUpdate stage
      obtain ⟨hworkspace, hregistry, hconfiguration⟩ := hleads.reads_eq
      obtain ⟨hc', hfollows⟩ := hleads.follows h.view hc
      have hv : r.SameView (c.reconciler.proceedUpdate s chance stage).1 :=
        ⟨hworkspace.trans h.view.workspace, hregistry.trans h.view.registry,
          hconfiguration.trans h.view.configuration⟩
      show UnderReview r s us ⟨(c.reconciler.proceedUpdate s chance stage).1,
        c.activities.set i (.update (c.reconciler.proceedUpdate s chance stage).2)⟩
      revert hc' hfollows hv
      generalize (c.reconciler.proceedUpdate s chance stage).1 = r'
      generalize (c.reconciler.proceedUpdate s chance stage).2 = stage'
      intro hc' hfollows hv
      cases hfollows with
      | silent channels published due due' landed =>
        exact h.silent hi hu hv hc' channels published due due' landed
      | commit ho => exact h.commit hi hu hfree ho
      | commitAtOnce ho =>
        -- as if it waited and was the next to go on
        have hlt : i < c.activities.length := (List.getElem?_eq_some_iff.1 hi).1
        have hboth := (h.commit hi hu hfree ho).publish (List.getElem?_set_self hlt) hu ho rfl
        rw [List.set_set] at hboth
        exact hboth
      | @publish p =>
        cases hc with
        | publishing ho hp => exact h.publish hi hu ho hp
    · exact h
  · exact h

theorem run (h : UnderReview r s us c) {moves : List Move}
    (hm : ∀ m ∈ moves, ∃ i chance, m = .proceed i chance s) : UnderReview r s us (c.run moves) := by
  induction moves generalizing c with
  | nil => exact h
  | cons m moves ih =>
    obtain ⟨i, chance, rfl⟩ := hm m (List.mem_cons_self ..)
    exact ih (h.proceed i chance) fun m' hm' => hm m' (List.mem_cons_of_mem _ hm')

/-! ### The end of a review -/

theorem activities_of_isQuiet (h : UnderReview r s us c) (hq : c.isQuiet) :
    c.activities = us.map fun u => .update (.ended (r.update s u).2) := by
  refine List.ext_getElem? fun i => ?_
  rw [List.getElem?_map]
  cases hi : c.activities[i]? with
  | none =>
    have hge : us.length ≤ i := h.length ▸ List.getElem?_eq_none_iff.1 hi
    rw [List.getElem?_eq_none hge]
    rfl
  | some a =>
    obtain ⟨u, stage, hu, rfl, hc⟩ := h.course i a hi
    have hover : (Activity.update stage).isOver = true :=
      List.all_eq_true.1 hq _ (List.mem_of_getElem? hi)
    rw [hu, Option.map_some, Reconciler.snd_update_eq]
    cases hc with
    | ended hresult => rw [hresult]
    | _ => cases hover

theorem renews_of_isQuiet (h : UnderReview r s us c) (hq : c.isQuiet) :
    r.Renews (r.outcome s) (· ∈ us) c.reconciler := by
  have hactivities := h.activities_of_isQuiet hq
  have hlanded : ∀ v, v ∈ us ↔ c.Landed us v := by
    intro v
    constructor
    · intro hv
      obtain ⟨i, hi⟩ := List.mem_iff_getElem?.1 hv
      refine ⟨i, .ended (r.update s v).2, hi, ?_, trivial⟩
      rw [hactivities, List.getElem?_map, hi]
      rfl
    · rintro ⟨i, stage, hi, -⟩
      exact List.mem_of_getElem? hi
  have hserved : ∀ recipe, c.IsServed recipe := by
    intro recipe a ha p hp
    rw [hactivities] at ha
    obtain ⟨u, -, rfl⟩ := List.mem_map.1 ha
    cases hp
  obtain ⟨ps, hps, hlast⟩ := h.shown
  refine ⟨h.entries.congr hlanded, ps, hps, fun recipe p => ?_⟩
  rw [Outcomes.reaches_congr hlanded]
  exact hlast recipe (hserved recipe) p

end UnderReview
end Concurrent

/-! ### Reviews -/

namespace Reconciler
variable {r r₁ : Reconciler} {s : Surroundings} {us : List Uri} {u : Uri} {g : Reading} {e : Fault}
  {Done : Uri → Prop}

/-- What the channel of the language holds for the recipe. -/
def entry (r : Reconciler) (l : Language) (recipe : Uri) : Option (List Diagnostic) :=
  (r.channels.channel l).get? recipe

/-- The entry that a document is for is what its own update would have made it. -/
theorem Renews.entry_eq (h : r.Renews (r.outcome s) Done r₁) (hu : Done u) (hg : r.Admits u g) :
    r₁.entry g.opening.language g.opening.recipe =
      (r.update s u).1.entry g.opening.language g.opening.recipe := by
  have hself : r.Renews (r.outcome s) (· ∈ [u]) (r.update s u).1 := renews_updateAll r s [u]
  unfold entry
  by_cases ho : ∃ o, r.outcome s u = .ok (some o)
  · obtain ⟨o, ho⟩ := ho
    obtain ⟨g', hg', hrecipe, hlanguage⟩ := admits_of_outcome ho
    obtain rfl : g = g' := by
      rw [← Option.some.injEq, ← admits_iff.2 hg, admits_iff.2 hg']
    rw [← hrecipe, ← hlanguage, h.entries.replaced u o hu ho,
      hself.entries.replaced u o (List.mem_singleton_self u) ho]
  · -- any other document that is for the entry comes to no outcome either
    have hno : ∀ v o, r.outcome s v = .ok (some o) → o.language = g.opening.language →
        o.recipe ≠ g.opening.recipe := by
      intro v o hv hlanguage hrecipe
      obtain ⟨g', hg', hr', hl'⟩ := admits_of_outcome hv
      have hsame := outcome_eq_of_same_entry (s := s) hg hg' (hr'.symm.trans hrecipe)
        (hl'.symm.trans hlanguage)
      exact ho ⟨o, hsame.symm.trans hv⟩
    rw [h.entries.kept _ _ fun v o _ hv => hno v o hv, hself.entries.kept _ _ fun v o _ hv => hno v o hv]

/-- An entry that no document is for is kept. -/
theorem Renews.entry_kept (h : r.Renews (r.outcome s) Done r₁) {l : Language} {recipe : Uri}
    (hno : ∀ u, Done u → ∀ g, r.Admits u g → g.opening.language = l → g.opening.recipe ≠ recipe) :
    r₁.entry l recipe = r.entry l recipe := by
  refine h.entries.kept l recipe fun u o hu ho hl hr => ?_
  obtain ⟨g, hg, hrecipe, hlanguage⟩ := admits_of_outcome ho
  exact hno u hu g hg (hlanguage.symm.trans hl) (hrecipe.symm.trans hr)

theorem snd_review : (r.review s).2 =
    (firstFailure ((s.reported r.workspace).map fun u => (r.update s u).2)).map fun _ => () := by
  rw [← snd_updateAll]
  rfl

theorem snd_review_eq_ok_iff :
    (r.review s).2 = .ok () ↔ ∀ u ∈ s.reported r.workspace, (r.update s u).2 = .ok () := by
  rw [snd_review]
  constructor
  · intro h u hu
    cases hf : firstFailure ((s.reported r.workspace).map fun u => (r.update s u).2) with
    | error e =>
      rw [hf] at h
      cases h
    | ok as =>
      have hmem : (r.update s u).2 ∈ as.map Except.ok := by
        rw [← firstFailure_eq_ok_iff.1 hf]
        exact List.mem_map_of_mem hu
      obtain ⟨a, -, ha⟩ := List.mem_map.1 hmem
      exact ha.symm
  · intro h
    have hall : ((s.reported r.workspace).map fun u => (r.update s u).2) =
        ((s.reported r.workspace).map fun _ => ()).map Except.ok := by
      rw [List.map_map]
      exact List.map_congr_left h
    rw [firstFailure_eq_ok_iff.2 hall]
    rfl

theorem snd_review_eq_error_iff : (r.review s).2 = .error e ↔ ∃ before u after,
    s.reported r.workspace = before ++ u :: after ∧ (∀ v ∈ before, (r.update s v).2 = .ok ()) ∧
      (r.update s u).2 = .error e := by
  have hmap : (r.review s).2 = .error e ↔
      firstFailure ((s.reported r.workspace).map fun u => (r.update s u).2) = .error e := by
    rw [snd_review]
    cases firstFailure ((s.reported r.workspace).map fun u => (r.update s u).2) <;> simp [Except.map]
  rw [hmap, firstFailure_eq_error_iff]
  constructor
  · rintro ⟨before', after', h, hb⟩
    obtain ⟨before, rest, hus, rfl, hr⟩ := List.map_eq_append_iff.1 h
    obtain ⟨u, after, rfl, hu, -⟩ := List.map_eq_cons_iff.1 hr
    refine ⟨before, u, after, hus, fun v hv => ?_, hu⟩
    have hne := hb _ (List.mem_map_of_mem hv)
    cases hv' : (r.update s v).2 with
    | ok a => rfl
    | error e' => exact absurd hv' (hne e')
  · rintro ⟨before, u, after, hus, hb, hu⟩
    refine ⟨before.map fun u => (r.update s u).2, after.map fun u => (r.update s u).2, ?_, ?_⟩
    · rw [hus, List.map_append, List.map_cons, hu]
    · intro x hx e' he'
      obtain ⟨v, hv, rfl⟩ := List.mem_map.1 hx
      rw [hb v hv] at he'
      cases he'

/-- Updates of all reported documents, made one after the other in any order, leave the same entries as
a review, in whatever order it lists them, and the last set they publish for a recipe is the same, if they
publish one. The entry that a document is for is what its own update makes it, so it is kept if that update
fails, and an entry that no document is for is kept too. A review fails with the first failure in the order
it lists the documents in. All this holds as well of a review whose updates run side by side, once nothing
is under way any more. -/
theorem review_in_any_order (r : Reconciler) (s : Surroundings) (us : List Uri)
    (h : us.Perm r.workspace.reported) :
    r.AgreeSince (r.updateAll s us).1 (r.review s).1 ∧
    (r.updateAll s us).2 = us.map (fun u => (r.update s u).2) ∧
    (∀ u ∈ us, ∀ g, r.Admits u g →
      (r.updateAll s us).1.entry g.opening.language g.opening.recipe =
        (r.update s u).1.entry g.opening.language g.opening.recipe ∧
      ∀ e, (r.update s u).2 = .error e → (r.updateAll s us).1.entry g.opening.language g.opening.recipe =
        r.entry g.opening.language g.opening.recipe) ∧
    (∀ l recipe, (∀ u ∈ us, ∀ g, r.Admits u g → g.opening.language = l → g.opening.recipe ≠ recipe) →
      (r.updateAll s us).1.entry l recipe = r.entry l recipe) ∧
    ((r.review s).2 = .ok () ↔ ∀ u ∈ s.reported r.workspace, (r.update s u).2 = .ok ()) ∧
    (∀ e, (r.review s).2 = .error e ↔ ∃ before u after, s.reported r.workspace = before ++ u :: after ∧
      (∀ v ∈ before, (r.update s v).2 = .ok ()) ∧ (r.update s u).2 = .error e) ∧
    ∀ s' moves, (∀ m ∈ moves, ∃ i chance, m = .proceed i chance s) →
      let c := (Concurrent.quiet r).run (.review s' :: moves)
      c.isQuiet → r.AgreeSince c.reconciler (r.review s).1 ∧
        c.activities = (s'.reported r.workspace).map fun u => .update (.ended (r.update s u).2) := by
  have hall := renews_updateAll r s us
  have hreview : r.Renews (r.outcome s) (· ∈ s.reported r.workspace) (r.review s).1 :=
    renews_updateAll r s (s.reported r.workspace)
  refine ⟨hall.agree (hreview.congr fun _ => h.mem_iff.trans s.mem_reported.symm), snd_updateAll r s us,
    fun u hu g hg => ?_, fun l recipe hno => hall.entry_kept hno, snd_review_eq_ok_iff,
    fun e => snd_review_eq_error_iff, ?_⟩
  · refine ⟨hall.entry_eq hu hg, fun e he => ?_⟩
    obtain ⟨st, as, hfailed⟩ := update_of_error he
    rw [hall.entry_eq hu hg, hfailed]
    rfl
  · intro s' moves hm c hq
    have hunder : Concurrent.UnderReview r s (s'.reported r.workspace) c :=
      (Concurrent.UnderReview.begun r s (s'.reported r.workspace)).run hm
    have hsame (u : Uri) : u ∈ s'.reported r.workspace ↔ u ∈ s.reported r.workspace :=
      s'.mem_reported.trans s.mem_reported.symm
    exact ⟨(hunder.renews_of_isQuiet hq).agree (hreview.congr hsame), hunder.activities_of_isQuiet hq⟩

namespace Sample

/-- Nobody knows what is in the module. -/
def pythonModule : Uri := ⟨"file", some ⟨"", "", none⟩, "/a.py", none, none⟩

def halfReadable : Reconciler := .start
  ⟨.ofList [(recipe, "cp $A")], .ofList [(script, [finding 3 "SC2086" "Double quote."]),
    (pythonModule, [finding 3 "SC2086" "Double quote."])]⟩
  (.ofList [document, ⟨recipe, .python, pythonModule, ⟨[]⟩, none⟩])

/-- Two updates take turns until both have ended. -/
def turns : List Move := (List.range 18).map fun n => .proceed (n % 2) (Concurrent.Sample.pick 0) surroundings

theorem reported_halfReadable : halfReadable.workspace.reported = [pythonModule, script] := by
  have hkeys : (halfReadable.workspace.findings.keys.filter fun u =>
      !(halfReadable.workspace.findingsOf u).isEmpty) = [pythonModule, script] := by decide +kernel
  rw [Workspace.reported, hkeys]
  exact List.mergeSort_of_pairwise (by decide +kernel)

theorem listed_halfReadable : surroundings.reported halfReadable.workspace = [pythonModule, script] :=
  reported_halfReadable

theorem isQuiet_turns : ((Concurrent.quiet halfReadable).run (.review surroundings :: turns)).isQuiet := by
  have hstep : (Concurrent.quiet halfReadable).step (.review surroundings) =
      ⟨halfReadable, [.update (.begun pythonModule), .update (.begun script)]⟩ := by
    show Concurrent.mk halfReadable
      ((surroundings.reported halfReadable.workspace).map fun u => .update (.begun u)) = _
    rw [listed_halfReadable]
    rfl
  rw [Concurrent.run, List.foldl_cons, hstep]
  decide +kernel

end Sample

open Sample in
theorem review_in_any_order_of_halfReadable :
    [script, pythonModule].Perm halfReadable.workspace.reported ∧
    halfReadable.AgreeSince (halfReadable.updateAll surroundings [script, pythonModule]).1
      (halfReadable.review surroundings).1 ∧
    (halfReadable.review surroundings).2 = .error (.unreadable pythonModule .notFound) ∧
    ((Concurrent.quiet halfReadable).run (.review surroundings :: turns)).isQuiet ∧
    halfReadable.AgreeSince ((Concurrent.quiet halfReadable).run (.review surroundings :: turns)).reconciler
      (halfReadable.review surroundings).1 := by
  have hperm : [script, pythonModule].Perm halfReadable.workspace.reported := by
    rw [reported_halfReadable]
    exact .swap ..
  have hmoves : ∀ m ∈ turns, ∃ i chance, m = .proceed i chance surroundings := by
    intro m hm
    obtain ⟨n, -, rfl⟩ := List.mem_map.1 hm
    exact ⟨_, _, rfl⟩
  obtain ⟨hagree, -, -, -, -, herror, hturns⟩ :=
    review_in_any_order halfReadable surroundings [script, pythonModule] hperm
  refine ⟨hperm, hagree, ?_, isQuiet_turns, (hturns surroundings turns hmoves isQuiet_turns).1⟩
  refine (herror _).2 ⟨[], pythonModule, [script], listed_halfReadable, List.forall_mem_nil _, ?_⟩
  decide +kernel

end Reconciler
end RecipeDiag
