import RecipeDiag.Proofs.Reconciler.Settled
import RecipeDiag.Reconciler.Concurrent

/-!
# Updates and clearings side by side

`Effect` lists all that one stage of an activity does to what is shown: it touches nothing, or takes
hold of a recipe and changes its entries, or publishes for the recipe it holds, or lets go of it.
`Advance` lists all that one move does. From this follows what every move keeps (`Guarded`): a recipe
has one holder at most, and a holder is about to publish what the channels hold or has done so. `Fares`
says what a move means for one recipe. Breaking an activity off while it waits for the line to take its
publication is the one move after which a free recipe need not be settled, so without it all free recipes
are (`Orderly`).
-/

namespace RecipeDiag

namespace Activity

/-- What an activity that holds a recipe waits to publish. -/
def due? : Activity → Option Publication
  | update (.publishing p) => some p
  | clear (.withdrawing recipe _) => some ⟨recipe, []⟩
  | _ => none

/-- The recipe that an activity holds whose publication is handed over. -/
def served? : Activity → Option Uri
  | update (.handedOver recipe) | clear (.withdrawn recipe _) => some recipe
  | _ => none

/-- An activity that holds a recipe waits to publish what the channels hold for it, or it was published. -/
structure Owes (r : Reconciler) (a : Activity) : Prop where
  due : ∀ p, a.due? = some p → p.diagnostics = r.channels.merged p.recipe
  served : ∀ recipe, a.served? = some recipe →
    r.lastPublished? recipe = some (r.channels.merged recipe)

variable {r r' : Reconciler} {a : Activity} {recipe : Uri} {p : Publication}

theorem held?_eq_some_iff : a.held? = some recipe ↔
    (∃ p, a.due? = some p ∧ p.recipe = recipe) ∨ a.served? = some recipe := by
  unfold held? due? served?
  cases a with
  | update stage => cases stage <;> simp
  | clear stage => cases stage <;> simp

theorem due?_eq_none_of_served? (h : a.served? = some recipe) : a.due? = none := by
  unfold served? at h
  split at h <;> first | rfl | cases h

theorem held?_of_due? (h : a.due? = some p) : a.held? = some p.recipe :=
  held?_eq_some_iff.2 (.inl ⟨p, h, rfl⟩)

theorem due?_eq_none_of_held? (h : a.held? = none) : a.due? = none :=
  Option.eq_none_iff_forall_ne_some.2 fun _ hp => nomatch h.symm.trans (held?_of_due? hp)

theorem held?_of_served? (h : a.served? = some recipe) : a.held? = some recipe :=
  held?_eq_some_iff.2 (.inr h)

theorem owes_of_held?_eq_none (h : a.held? = none) : a.Owes r where
  due _ hp := nomatch h.symm.trans (held?_of_due? hp)
  served _ hr := nomatch h.symm.trans (held?_of_served? hr)

/-- What is owed depends on the recipe that is held. -/
theorem Owes.congr (h : a.Owes r)
    (hc : ∀ recipe, a.held? = some recipe → r'.channels.merged recipe = r.channels.merged recipe)
    (hp : ∀ recipe, a.held? = some recipe → r'.lastPublished? recipe = r.lastPublished? recipe) :
    a.Owes r' where
  due p hdue := by rw [hc _ (held?_of_due? hdue), h.due p hdue]
  served recipe hserved := by
    have hheld := held?_of_served? hserved
    rw [hc _ hheld, hp _ hheld, h.served recipe hserved]

end Activity

namespace Reconciler
variable {r r' : Reconciler} {s : Surroundings} {chance : Chance} {a a' : Activity}

/-- What one stage of an activity does to the channels and to what was published. -/
inductive Effect (chance : Chance) (r : Reconciler) (a : Activity) (r' : Reconciler) (a' : Activity) : Prop
  | silent (held : a.held? = none) (held' : a'.held? = none) (channels : r'.channels = r.channels)
      (published : r'.published = r.published)
  /-- The publication waits for the line, or it is handed over at once. -/
  | hold {recipe : Uri} (held : a.held? = none) (awaited : a.awaited? chance = some recipe)
      (held' : a'.held? = some recipe)
      (channels : ∀ l recipe', recipe' ≠ recipe →
        (r'.channels.channel l).get? recipe' = (r.channels.channel l).get? recipe')
      (published : ∀ recipe', recipe' ≠ recipe → r'.lastPublished? recipe' = r.lastPublished? recipe')
      (owes : a'.Owes r') (waits : chance.line.HasRoom → a'.due? = none)
  | handOver {p : Publication} (due : a.due? = some p) (served : a'.served? = some p.recipe)
      (channels : r'.channels = r.channels) (published : r'.published = r.published ++ [p])
  | release {recipe : Uri} (served : a.served? = some recipe) (held' : a'.held? = none)
      (channels : r'.channels = r.channels) (published : r'.published = r.published)

theorem progress_eq (service : LanguageService) (recipe : Uri) (p : Progress) :
    ∃ st as, (r.progress service recipe p).1 = { r with statistics := st, asked := as } := by
  unfold progress
  split
  · next v =>
    obtain ⟨st, h⟩ := countVerdict_eq r v
    exact ⟨st, r.asked, h⟩
  · exact ⟨r.statistics, _, rfl⟩
  · exact ⟨r.statistics, _, rfl⟩
  · exact ⟨r.statistics, r.asked, rfl⟩
  · exact ⟨r.statistics, r.asked, rfl⟩

/-- Once it is handed over, what the channels hold is what was published last. -/
theorem owes_served {recipe : Uri} (hs : a.served? = some recipe) (hd : a.due? = none)
    (h : r'.published = r.published ++ [⟨recipe, r'.channels.merged recipe⟩]) : a.Owes r' where
  due p hp := nomatch hd.symm.trans hp
  served recipe' hs' := by
    cases hs.symm.trans hs'
    exact (lastPublished?_of_append h).trans (if_pos rfl)

theorem effect_proceedUpdate (stage : UpdateStage) :
    Effect chance r (.update stage) (r.proceedUpdate s chance stage).1
      (.update (r.proceedUpdate s chance stage).2) := by
  cases stage with
  | begun generated =>
    simp only [proceedUpdate]
    split <;> exact .silent rfl rfl rfl rfl
  | opening o =>
    simp only [proceedUpdate]
    split <;> exact .silent rfl rfl rfl rfl
  | reading g =>
    simp only [proceedUpdate]
    split <;> exact .silent rfl rfl rfl rfl
  | listing l => exact .silent rfl rfl rfl rfl
  | judging l ps =>
    simp only [proceedUpdate]
    split
    · split <;> exact .silent rfl rfl rfl rfl
    · split
      · next p _ =>
        obtain ⟨st, as, h⟩ := progress_eq (r := r) s.service l.reading.opening.recipe p
        exact .silent rfl rfl (by simp only [h]) (by simp only [h])
      · exact .silent rfl rfl rfl rfl
  | committing o =>
    have hchannels : ∀ l recipe', recipe' ≠ o.recipe → ((r.commit o).channels.channel l).get? recipe' =
        (r.channels.channel l).get? recipe' := fun l recipe' hne =>
      Channels.get?_channel_set.trans (if_neg fun h => hne h.2)
    simp only [proceedUpdate]
    split
    · refine .hold rfl rfl rfl hchannels (fun recipe' hne => ?_) (owes_served rfl rfl rfl) fun _ => rfl
      exact (lastPublished?_of_append rfl).trans (if_neg (Ne.symm hne))
    · next htakes =>
      refine .hold rfl rfl rfl hchannels (fun _ _ => rfl) ?_ fun hroom => absurd (hroom _) htakes
      exact ⟨fun p hp => by cases hp; rfl, fun _ h => nomatch h⟩
  | publishing p => exact .handOver rfl rfl rfl rfl
  | handedOver recipe => exact .release rfl rfl rfl rfl
  | ended result => exact .silent rfl rfl rfl rfl
  | aborted => exact .silent rfl rfl rfl rfl

theorem effect_proceedClear (stage : ClearStage) :
    Effect chance r (.clear stage) (r.proceedClear chance stage).1
      (.clear (r.proceedClear chance stage).2) := by
  cases stage with
  | clearing recipes =>
    simp only [proceedClear]
    split
    · next recipe h =>
      have hchannels : ∀ l recipe', recipe' ≠ recipe → ((r.forget recipe).channels.channel l).get? recipe' =
          (r.channels.channel l).get? recipe' := fun l recipe' hne =>
        Channels.get?_channel_remove.trans (if_neg hne)
      have hnothing : (r.forget recipe).channels.merged recipe = [] :=
        Channels.merged_eq_nil fun l => Channels.get?_channel_remove.trans (if_pos rfl)
      split
      · refine .hold rfl h rfl hchannels (fun recipe' hne => ?_) (owes_served (r := r) rfl rfl ?_) fun _ => rfl
        · exact (lastPublished?_of_append rfl).trans (if_neg (Ne.symm hne))
        · exact congrArg (fun ds => r.published ++ [⟨recipe, ds⟩]) hnothing.symm
      · next htakes =>
        refine .hold rfl h rfl hchannels (fun _ _ => rfl) ?_ fun hroom => absurd (hroom _) htakes
        exact ⟨fun p hp => by cases hp; exact hnothing.symm, fun _ h => nomatch h⟩
    · exact .silent rfl rfl rfl rfl
  | withdrawing recipe others => exact .handOver rfl rfl rfl rfl
  | withdrawn recipe others => exact .release rfl rfl rfl rfl

theorem effect_proceed (s : Surroundings) (chance : Chance) (a : Activity) :
    Effect chance r a (r.proceed s chance a).1 (r.proceed s chance a).2 := by
  cases a with
  | update stage => exact effect_proceedUpdate stage
  | clear stage => exact effect_proceedClear stage

/-- Breaking an activity off shows nothing. -/
theorem abort_eq (r : Reconciler) (elapsed : Nat) (a : Activity) :
    ∃ st a', r.abort elapsed a = ({ r with statistics := st }, a') ∧ a'.held? = none := by
  unfold abort
  split
  · exact ⟨r.statistics, _, rfl, rfl⟩
  · split <;> exact ⟨_, _, rfl, rfl⟩
  · exact ⟨r.statistics, _, rfl, rfl⟩

end Reconciler

namespace Concurrent

section
variable {c c' : Concurrent} {i j : Nat} {chance : Chance} {s : Surroundings} {recipe : Uri} {a a' : Activity}
  {r : Reconciler}

/-- The activity with a number holds a recipe. -/
def Holds (c : Concurrent) (i : Nat) (recipe : Uri) : Prop :=
  ∃ a, c.activities[i]? = some a ∧ a.held? = some recipe

theorem isFree_iff : c.isFree recipe ↔ ∀ i, ¬ c.Holds i recipe := by
  simp only [isFree, List.all_eq_true, decide_eq_true_eq, Holds, not_exists, not_and]
  constructor
  · exact fun h i a ha => h a (List.mem_of_getElem? ha)
  · intro h a ha
    obtain ⟨i, hi⟩ := List.mem_iff_getElem?.1 ha
    exact h i a hi

theorem holds_append {as : List Activity} (has : ∀ a ∈ as, a.held? = none) :
    (⟨r, c.activities ++ as⟩ : Concurrent).Holds i recipe ↔ c.Holds i recipe := by
  constructor
  · rintro ⟨x, hx, hr⟩
    refine ⟨x, ?_, hr⟩
    rcases Nat.lt_or_ge i c.activities.length with hi | hi
    · exact (List.getElem?_append_left hi).symm.trans hx
    · have hx' := (List.getElem?_append_right hi).symm.trans hx
      exact nomatch (has x (List.mem_of_getElem? hx')).symm.trans hr
  · rintro ⟨x, hx, hr⟩
    have hi : i < c.activities.length := (List.getElem?_eq_some_iff.1 hx).1
    exact ⟨x, (List.getElem?_append_left hi).trans hx, hr⟩

theorem holds_set (hi : c.activities[i]? = some a) :
    (⟨r, c.activities.set i a'⟩ : Concurrent).Holds j recipe ↔
      if j = i then a'.held? = some recipe else c.Holds j recipe := by
  have hlt : i < c.activities.length := (List.getElem?_eq_some_iff.1 hi).1
  simp only [Holds, List.getElem?_set]
  by_cases hj : i = j
  · subst hj
    simp [hlt]
  · simp [hj, Ne.symm hj]

theorem holds_set_of_ne (hi : c.activities[i]? = some a) (ha : a.held? ≠ some recipe)
    (ha' : a'.held? ≠ some recipe) :
    (⟨r, c.activities.set i a'⟩ : Concurrent).Holds j recipe ↔ c.Holds j recipe := by
  rw [holds_set hi]
  split
  · next hj =>
    refine ⟨fun h => absurd h ha', ?_⟩
    rintro ⟨x, hx, hr⟩
    rw [hj, hi] at hx
    cases hx
    exact absurd hr ha
  · exact Iff.rfl

/-! ### One move -/

theorem proceed_of_free (hi : c.activities[i]? = some a)
    (hf : ∀ recipe, a.awaited? chance = some recipe → c.isFree recipe) : c.proceed i chance s =
      ⟨(c.reconciler.proceed s chance a).1, c.activities.set i (c.reconciler.proceed s chance a).2⟩ := by
  have hall : (a.awaited? chance).all c.isFree = true := (Option.all_eq_true _ _).2 hf
  simp only [proceed, hi, hall, if_true]

/-- An activity goes on, or the move changes nothing. -/
theorem proceed_cases (c : Concurrent) (i : Nat) (chance : Chance) (s : Surroundings) :
    c.proceed i chance s = c ∨ ∃ a, c.activities[i]? = some a ∧
      ∀ recipe, a.awaited? chance = some recipe → c.isFree recipe := by
  cases hi : c.activities[i]? with
  | none => exact .inl (by simp only [proceed, hi])
  | some a =>
    cases hf : (a.awaited? chance).all c.isFree with
    | false => exact .inl (by simp [proceed, hi, hf])
    | true => exact .inr ⟨a, rfl, (Option.all_eq_true _ _).1 hf⟩

/-- All that one move does to the activities and to what is shown. -/
inductive Advance (c : Concurrent) : Move → Concurrent → Prop
  | begins {m : Move} {as : List Activity} {r : Reconciler} (held : ∀ a ∈ as, a.held? = none)
      (channels : r.channels = c.reconciler.channels)
      (published : r.published = c.reconciler.published) : Advance c m ⟨r, c.activities ++ as⟩
  | goesOn {i : Nat} {chance : Chance} {s : Surroundings} {a a' : Activity} {r : Reconciler}
      (hi : c.activities[i]? = some a)
      (free : ∀ recipe, a.awaited? chance = some recipe → c.isFree recipe)
      (h : Reconciler.Effect chance c.reconciler a r a') :
      Advance c (.proceed i chance s) ⟨r, c.activities.set i a'⟩
  | breaksOff {i elapsed : Nat} {a a' : Activity} {r : Reconciler} (hi : c.activities[i]? = some a)
      (held' : a'.held? = none) (channels : r.channels = c.reconciler.channels)
      (published : r.published = c.reconciler.published) :
      Advance c (.abort i elapsed) ⟨r, c.activities.set i a'⟩

/-- Whatever leaves the channels, what was published and the activities alone. -/
theorem Advance.rests {m : Move} (channels : r.channels = c.reconciler.channels)
    (published : r.published = c.reconciler.published) : c.Advance m ⟨r, c.activities⟩ := by
  have h := @Advance.begins c m [] r (by simp) channels published
  rwa [List.append_nil] at h

theorem advance_proceed (c : Concurrent) (i : Nat) (chance : Chance) (s : Surroundings) :
    c.Advance (.proceed i chance s) (c.proceed i chance s) := by
  unfold Concurrent.proceed
  split
  · next a hi =>
    split
    · next hf => exact .goesOn hi ((Option.all_eq_true _ _).1 hf) (Reconciler.effect_proceed s chance a)
    · exact .rests rfl rfl
  · exact .rests rfl rfl

theorem advance_abort (c : Concurrent) (i elapsed : Nat) :
    c.Advance (.abort i elapsed) (c.abort i elapsed) := by
  unfold Concurrent.abort
  split
  · next a hi =>
    obtain ⟨st, a', h, held'⟩ := Reconciler.abort_eq c.reconciler elapsed a
    rw [h]
    exact .breaksOff hi held' rfl rfl
  · exact .rests rfl rfl

theorem advance_step (c : Concurrent) (m : Move) : c.Advance m (c.step m) := by
  cases m with
  | update generated => exact .begins (by simp [Activity.held?]) rfl rfl
  | review s =>
    refine .begins (fun a ha => ?_) rfl rfl
    obtain ⟨u, -, rfl⟩ := List.mem_map.1 ha
    rfl
  | clear => exact .begins (by simp [Activity.held?]) rfl rfl
  | proceed i chance s => exact advance_proceed c i chance s
  | abort i elapsed => exact advance_abort c i elapsed
  | edit e => cases e <;> exact .rests rfl rfl
  | configure settings => exact .rests rfl rfl

/-! ### Holders -/

/-- Every recipe has one holder at most, which owes what the channels hold. -/
structure Guarded (c : Concurrent) : Prop where
  exclusive : ∀ {i j recipe}, c.Holds i recipe → c.Holds j recipe → i = j
  owed : ∀ a ∈ c.activities, a.Owes c.reconciler

namespace Guarded

theorem quiet : (quiet r).Guarded where
  exclusive := fun ⟨_, hi, _⟩ => by simp [Concurrent.quiet] at hi
  owed a ha := by simp [Concurrent.quiet] at ha

/-- An activity holds nothing any more, and the others owe what they owed. -/
theorem letGo (h : c.Guarded) (hi : c.activities[i]? = some a) (held' : a'.held? = none)
    (channels : r.channels = c.reconciler.channels) (published : r.published = c.reconciler.published) :
    (⟨r, c.activities.set i a'⟩ : Concurrent).Guarded where
  exclusive {j k R} hj hk := by
    rw [holds_set hi, held'] at hj hk
    split at hj
    · exact nomatch hj
    split at hk
    · exact nomatch hk
    exact h.exclusive hj hk
  owed b hb := by
    rcases List.mem_or_eq_of_mem_set hb with hb | rfl
    · exact (h.owed b hb).congr (fun _ _ => by rw [channels])
        fun _ _ => Reconciler.lastPublished?_congr published
    · exact Activity.owes_of_held?_eq_none held'

/-- What the others owe is not touched by what happens to a recipe that none of them holds. -/
theorem owed_of_others (h : c.Guarded) {b : Activity} (hb : b ∈ c.activities) (hr : b.held? ≠ some recipe)
    (channels : ∀ l recipe', recipe' ≠ recipe →
      (r.channels.channel l).get? recipe' = (c.reconciler.channels.channel l).get? recipe')
    (published : ∀ recipe', recipe' ≠ recipe →
      r.lastPublished? recipe' = c.reconciler.lastPublished? recipe') : b.Owes r := by
  have hne : ∀ R, b.held? = some R → R ≠ recipe := fun R hR hRr => hr (hRr ▸ hR)
  exact (h.owed b hb).congr (fun R hR => Channels.merged_congr fun l => channels l R (hne R hR))
    fun R hR => published R (hne R hR)

/-- An activity takes hold of a free recipe and changes nothing but what belongs to it. -/
theorem takeHold (h : c.Guarded) (hi : c.activities[i]? = some a) (hfree : c.isFree recipe)
    (held' : a'.held? = some recipe)
    (channels : ∀ l recipe', recipe' ≠ recipe →
      (r.channels.channel l).get? recipe' = (c.reconciler.channels.channel l).get? recipe')
    (published : ∀ recipe', recipe' ≠ recipe →
      r.lastPublished? recipe' = c.reconciler.lastPublished? recipe')
    (owes : a'.Owes r) : (⟨r, c.activities.set i a'⟩ : Concurrent).Guarded where
  exclusive {j k R} hj hk := by
    have hfr := isFree_iff.1 hfree
    rw [holds_set hi] at hj hk
    split at hj <;> split at hk
    · next hji hki => exact hji.trans hki.symm
    · cases held'.symm.trans hj
      exact absurd hk (hfr k)
    · cases held'.symm.trans hk
      exact absurd hj (hfr j)
    · exact h.exclusive hj hk
  owed b hb := by
    rcases List.mem_or_eq_of_mem_set hb with hb | rfl
    · -- another activity holds another recipe, since this one was free
      refine h.owed_of_others hb (fun hR => ?_) channels published
      obtain ⟨j, hj⟩ := List.mem_iff_getElem?.1 hb
      exact isFree_iff.1 hfree j ⟨b, hj, hR⟩
    · exact owes

/-- The holder of a recipe hands its publication over and keeps hold of the recipe. -/
theorem handOver (h : c.Guarded) {p : Publication} (hi : c.activities[i]? = some a) (due : a.due? = some p)
    (served : a'.served? = some p.recipe) (channels : r.channels = c.reconciler.channels)
    (published : r.published = c.reconciler.published ++ [p]) :
    (⟨r, c.activities.set i a'⟩ : Concurrent).Guarded := by
  have held : c.Holds i p.recipe := ⟨a, hi, Activity.held?_of_due? due⟩
  have held' : a'.held? = some p.recipe := Activity.held?_of_served? served
  have hlast : ∀ recipe, r.lastPublished? recipe = if p.recipe = recipe then some p.diagnostics
      else c.reconciler.lastPublished? recipe := fun _ => Reconciler.lastPublished?_of_append published
  refine ⟨fun {j k R} hj hk => ?_, fun b hb => ?_⟩
  · rw [holds_set hi] at hj hk
    split at hj <;> split at hk
    · next hji hki => exact hji.trans hki.symm
    · next hji _ =>
      cases held'.symm.trans hj
      exact hji.trans (h.exclusive held hk)
    · next _ hki =>
      cases held'.symm.trans hk
      exact (h.exclusive hj held).trans hki.symm
    · exact h.exclusive hj hk
  · obtain ⟨j, hj⟩ := List.mem_iff_getElem?.1 hb
    rw [List.getElem?_set] at hj
    split at hj
    · split at hj <;> cases hj
      refine ⟨fun q hq => ?_, fun R hR => ?_⟩
      · have hdue : a'.due? = none := Activity.due?_eq_none_of_served? served
        exact nomatch hdue.symm.trans hq
      · cases served.symm.trans hR
        rw [hlast, if_pos rfl, channels, (h.owed a (List.mem_of_getElem? hi)).due p due]
    · next hij =>
      refine h.owed_of_others (List.mem_of_getElem? hj) (fun hR => ?_) (fun _ _ _ => by rw [channels])
        fun R hne => (hlast R).trans (if_neg (Ne.symm hne))
      exact hij (h.exclusive held ⟨b, hj, hR⟩)

theorem isFree_of_letGo (h : c.Guarded) (hi : c.activities[i]? = some a) (held : a.held? = some recipe)
    (held' : a'.held? = none) : (⟨r, c.activities.set i a'⟩ : Concurrent).isFree recipe := by
  refine isFree_iff.2 fun j hj => ?_
  rw [holds_set hi, held'] at hj
  split at hj
  · exact nomatch hj
  · next hji => exact hji (h.exclusive hj ⟨a, hi, held⟩)

theorem advance {m : Move} (h : c.Guarded) (hm : c.Advance m c') : c'.Guarded := by
  cases hm with
  | begins held channels published =>
    refine ⟨fun hi hj => h.exclusive ((holds_append held).1 hi) ((holds_append held).1 hj),
      fun a ha => ?_⟩
    rcases List.mem_append.1 ha with ha | ha
    · exact (h.owed a ha).congr (fun _ _ => by rw [channels])
        fun _ _ => Reconciler.lastPublished?_congr published
    · exact Activity.owes_of_held?_eq_none (held a ha)
  | goesOn hi free he =>
    cases he with
    | silent held held' channels published => exact h.letGo hi held' channels published
    | hold held awaited held' channels published owes =>
      exact h.takeHold hi (free _ awaited) held' channels published owes
    | handOver due served channels published => exact h.handOver hi due served channels published
    | release served held' channels published => exact h.letGo hi held' channels published
  | breaksOff hi held' channels published => exact h.letGo hi held' channels published

theorem step (h : c.Guarded) (m : Move) : (c.step m).Guarded := h.advance (advance_step c m)

theorem run (h : c.Guarded) (moves : List Move) : (c.run moves).Guarded := by
  induction moves generalizing c with
  | nil => exact h
  | cons m moves ih => exact ih (h.step m)

end Guarded

/-! ### What a move means for a recipe -/

/-- A move leaves a recipe and its holder alone, takes hold of it, hands over what the holder waits to
publish, lets go of it once that is done, or breaks its holder off before. -/
inductive Fares (c : Concurrent) (recipe : Uri) (m : Move) (c' : Concurrent) : Prop
  | rests (holders : ∀ i, c'.Holds i recipe ↔ c.Holds i recipe)
      (entries : ∀ l, (c'.reconciler.channels.channel l).get? recipe =
        (c.reconciler.channels.channel l).get? recipe)
      (shown : c'.reconciler.lastPublished? recipe = c.reconciler.lastPublished? recipe)
  | isTaken {i : Nat} {chance : Chance} {s : Surroundings} {a : Activity} (hm : m = .proceed i chance s)
      (hi : c.activities[i]? = some a) (awaited : a.awaited? chance = some recipe)
      (free : c.isFree recipe) (held : c'.Holds i recipe)
  | isShown {i : Nat} (held : c.Holds i recipe) (held' : c'.Holds i recipe)
      (entries : ∀ l, (c'.reconciler.channels.channel l).get? recipe =
        (c.reconciler.channels.channel l).get? recipe)
  | settles {i : Nat} (held : c.Holds i recipe) (free : c'.isFree recipe)
      (settled : c'.reconciler.Settled recipe)
  | isCutOff {i elapsed : Nat} {a : Activity} {p : Publication} (hm : m = .abort i elapsed)
      (hi : c.activities[i]? = some a) (due : a.due? = some p) (hp : p.recipe = recipe)
      (free : c'.isFree recipe)

theorem Guarded.fares {m : Move} (h : c.Guarded) (hm : c.Advance m c') (recipe : Uri) :
    c.Fares recipe m c' := by
  -- whoever has handed its publication over leaves the recipe settled
  have hsettles {i : Nat} {a a' : Activity} {r : Reconciler} (hi : c.activities[i]? = some a)
      (served : a.served? = some recipe) (held' : a'.held? = none)
      (channels : r.channels = c.reconciler.channels) (published : r.published = c.reconciler.published) :
      c.Fares recipe m ⟨r, c.activities.set i a'⟩ := by
    have held := Activity.held?_of_served? served
    refine .settles ⟨a, hi, held⟩ (h.isFree_of_letGo hi held held') (.inr ?_)
    rw [Reconciler.lastPublished?_congr published, channels]
    exact (h.owed a (List.mem_of_getElem? hi)).served recipe served
  cases hm with
  | begins held channels published =>
    exact .rests (fun i => holds_append held) (fun l => by rw [channels])
      (Reconciler.lastPublished?_congr published)
  | @breaksOff i elapsed a a' r hi held' channels published =>
    by_cases held : a.held? = some recipe
    · rcases Activity.held?_eq_some_iff.1 held with ⟨p, due, hp⟩ | served
      · exact .isCutOff rfl hi due hp (h.isFree_of_letGo hi held held')
      · exact hsettles hi served held' channels published
    · exact .rests (fun j => holds_set_of_ne hi held (by simp [held'])) (fun l => by rw [channels])
        (Reconciler.lastPublished?_congr published)
  | @goesOn i chance s a a' r hi free he =>
    cases he with
    | silent held held' channels published =>
      exact .rests (fun j => holds_set_of_ne hi (by simp [held]) (by simp [held']))
        (fun l => by rw [channels]) (Reconciler.lastPublished?_congr published)
    | @hold recipe' held awaited held' channels published owes =>
      by_cases hr : recipe = recipe'
      · subst hr
        exact .isTaken rfl hi awaited (free _ awaited)
          ((holds_set hi).2 (by rw [if_pos rfl]; exact held'))
      · exact .rests (fun j => holds_set_of_ne hi (by simp [held]) (by simpa [held'] using Ne.symm hr))
          (fun l => channels l recipe hr) (published recipe hr)
    | @handOver p due served channels published =>
      have held := Activity.held?_of_due? due
      have held' := Activity.held?_of_served? served
      by_cases hr : p.recipe = recipe
      · subst hr
        exact .isShown ⟨a, hi, held⟩ ((holds_set hi).2 (by rw [if_pos rfl]; exact held'))
          fun l => by rw [channels]
      · refine .rests (fun j => holds_set_of_ne hi (by simpa [held] using hr) (by simpa [held'] using hr))
          (fun l => by rw [channels]) ?_
        exact (Reconciler.lastPublished?_of_append published).trans (if_neg hr)
    | @release recipe' served held' channels published =>
      by_cases hr : recipe' = recipe
      · subst hr
        exact hsettles hi served held' channels published
      · have held := Activity.held?_of_served? served
        exact .rests (fun j => holds_set_of_ne hi (by simpa [held] using hr) (by simp [held']))
          (fun l => by rw [channels]) (Reconciler.lastPublished?_congr published)

/-! ### What is kept as long as nobody is broken off -/

/-- Every recipe has one holder at most, which owes what the channels hold, and a recipe that nobody
holds is settled. -/
structure Orderly (c : Concurrent) : Prop where
  exclusive : ∀ {i j recipe}, c.Holds i recipe → c.Holds j recipe → i = j
  owed : ∀ a ∈ c.activities, a.Owes c.reconciler
  settled : ∀ recipe, c.isFree recipe → c.reconciler.Settled recipe

namespace Orderly

theorem guarded (h : c.Orderly) : c.Guarded := ⟨h.exclusive, h.owed⟩

theorem quiet (h : ∀ recipe, r.Settled recipe) : (quiet r).Orderly :=
  ⟨Guarded.quiet.exclusive, Guarded.quiet.owed, fun recipe _ => h recipe⟩

/-- Every move keeps the order but that of breaking an activity off. -/
theorem step (h : c.Orderly) {m : Move} (hm : ∀ i elapsed, m ≠ .abort i elapsed) : (c.step m).Orderly := by
  have hg := h.guarded.step m
  refine ⟨hg.exclusive, hg.owed, fun recipe hf => ?_⟩
  cases h.guarded.fares (advance_step c m) recipe with
  | rests holders entries shown =>
    have hfree : c.isFree recipe := isFree_iff.2 fun i hi => isFree_iff.1 hf i ((holders i).2 hi)
    exact (h.settled recipe hfree).congr entries shown
  | isTaken _ _ _ _ held => exact absurd held (isFree_iff.1 hf _)
  | isShown _ held => exact absurd held (isFree_iff.1 hf _)
  | settles _ _ settled => exact settled
  | isCutOff h => exact absurd h (hm _ _)

theorem run (h : c.Orderly) {moves : List Move} (hm : ∀ i elapsed, .abort i elapsed ∉ moves) :
    (c.run moves).Orderly := by
  induction moves generalizing c with
  | nil => exact h
  | cons m moves ih =>
    exact ih (h.step fun i elapsed hi => hm i elapsed (by simp [hi]))
      fun i elapsed hi => hm i elapsed (by simp [hi])

end Orderly
end

/-- However updates and clearings, and the editor's reports and changes of the configuration, are
interleaved: as long as none is broken off, a recipe that nobody holds was either never shown and has
no entry, or the last set shown for it is its shell entry followed by its Python entry. -/
theorem lastPublished?_eq_merged (w : Workspace) (g : Registry) (moves : List Move)
    (hm : ∀ i elapsed, .abort i elapsed ∉ moves) (recipe : Uri) :
    let c := (quiet (.start w g)).run moves
    c.isFree recipe →
      (c.reconciler.lastPublished? recipe = none ∧
        ∀ l, (c.reconciler.channels.channel l).get? recipe = none) ∨
      c.reconciler.lastPublished? recipe = some (c.reconciler.channels.bash.diagnostics recipe ++
        c.reconciler.channels.python.diagnostics recipe) := by
  intro c hf
  have hc : c.Orderly := (Orderly.quiet fun _ => Reconciler.settled_start w g).run hm
  exact hc.settled recipe hf

namespace Sample

/-- The inquiry or recipe that is next, on a line with room. -/
def pick (index : Nat) : Chance := ⟨index, 0, ⟨fun _ => true⟩⟩

end Sample

open Reconciler.Sample Sample

/-- An update goes through all its stages. While it holds its recipe a clearing begins, which first
has to wait. -/
def crossing : List Move :=
  .update script :: [0, 0, 0, 0, 0, 0, 1, 0, 0].map (fun index => .proceed 0 (pick index) surroundings) ++
    .clear :: [1, 0, 1, 1].map fun number => .proceed number (pick 0) surroundings

theorem lastPublished?_eq_merged_of_crossing :
    ((quiet idle).run crossing).isFree recipe ∧
      ((quiet idle).run crossing).reconciler.published.length = 2 ∧
      ((quiet idle).run crossing).reconciler.lastPublished? recipe = some [] := by
  have hm : ∀ i elapsed, .abort i elapsed ∉ crossing := by simp [crossing]
  have hf : ((quiet idle).run crossing).isFree recipe := by decide +kernel
  have hmerged : ((quiet idle).run crossing).reconciler.channels.merged recipe = [] := by
    decide +kernel
  have hshown : ((quiet idle).run crossing).reconciler.lastPublished? recipe ≠ none := by
    decide +kernel
  refine ⟨hf, by decide +kernel, ?_⟩
  rcases lastPublished?_eq_merged workspace (.ofList [document]) crossing hm recipe hf with ⟨h, -⟩ | h
  · exact absurd h hshown
  · exact h.trans (congrArg some hmerged)

end Concurrent
end RecipeDiag
