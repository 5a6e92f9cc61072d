import RecipeDiag.Proofs.Statistics.Collection
import RecipeDiag.Proofs.Statistics.Summary

/-!
# The report tells what was collected

The report depends on which names and operations were collected and with which sums and durations, not
on the order of the calls (`Holds.report_eq`), and lists each of them once, in ascending order
(`exists_listing`).
-/

namespace RecipeDiag.Statistics
variable {s s' : Statistics} {cs cs' as bs : List Call} {c : Call} {on : Bool} {name operation : String}

/-! ### Calls that come to the same -/

/-- The calls hand in the same: they increment the same counters, by the same sums up to what a word
holds, and record the same durations, in any order. -/
structure Alike (cs cs' : List Call) : Prop where
  names : ∀ name, amounts name cs ≠ [] ↔ amounts name cs' ≠ []
  total : ∀ name, total name cs % UInt64.size = total name cs' % UInt64.size
  durations : ∀ operation, (durationsOf operation cs).Perm (durationsOf operation cs')

theorem total_perm (h : cs.Perm cs') (name : String) : total name cs = total name cs' := by
  rw [total, total]
  exact (h.filterMap (Call.amount? name)).foldl_eq' (fun x _ y _ n => Nat.add_right_comm ..) 0

theorem Alike.of_perm (h : cs.Perm cs') : Alike cs cs' where
  names name := by
    have hlength : (amounts name cs).length = (amounts name cs').length := (h.filterMap _).length_eq
    rw [← List.length_pos_iff, hlength, List.length_pos_iff]
  total name := by rw [total_perm h]
  durations operation := h.filterMap _

/-! ### What is collected of several stretches of calls -/

theorem collected_append : collected on (as ++ bs) =
    (if bs.any Call.startsAnew then [] else collected on as) ++ collected (as.foldl Call.isOnAfter on) bs := by
  induction as generalizing on with
  | nil => split <;> rfl
  | cons c cs ih =>
    rw [List.cons_append, collected, ih, List.any_append, collected, List.foldl_cons]
    cases bs.any Call.startsAnew <;> simp

theorem isOnAfter_of_handsIn (h : c.handsIn) : c.isOnAfter on = on := by
  cases c with
  | setEnabled enabled => cases h
  | _ => rfl

theorem startsAnew_of_handsIn (h : c.handsIn) : c.startsAnew = false := by
  cases c with
  | record operation nanos => rfl
  | increment name amount => rfl
  | setEnabled enabled => cases h
  | reset => cases h

theorem any_startsAnew_of_handsIn (h : ∀ c ∈ cs, c.handsIn) : cs.any Call.startsAnew = false := by
  rw [List.any_eq_false]
  intro c hc hanew
  rw [startsAnew_of_handsIn (h c hc)] at hanew
  cases hanew

theorem foldl_isOnAfter_of_handsIn (h : ∀ c ∈ cs, c.handsIn) : cs.foldl Call.isOnAfter on = on := by
  induction cs with
  | nil => rfl
  | cons c cs ih =>
    rw [List.forall_mem_cons] at h
    rw [List.foldl_cons, isOnAfter_of_handsIn h.1, ih h.2]

/-- All that is handed in at a stretch is collected, or nothing of it. -/
theorem collected_of_handsIn (h : ∀ c ∈ cs, c.handsIn) : collected on cs = if on then cs else [] := by
  induction cs with
  | nil => cases on <;> rfl
  | cons c cs ih =>
    rw [List.forall_mem_cons] at h
    rw [collected, isOnAfter_of_handsIn h.1, ih h.2, any_startsAnew_of_handsIn h.2, h.1]
    cases on <;> rfl

theorem collected_perm {pre mid mid' post : List Call} (h : ∀ c ∈ mid, c.handsIn) (hperm : mid.Perm mid') :
    (collected on (pre ++ mid ++ post)).Perm (collected on (pre ++ mid' ++ post)) := by
  have h' : ∀ c ∈ mid', c.handsIn := fun c hc => h c (hperm.mem_iff.2 hc)
  simp only [collected_append, List.foldl_append, foldl_isOnAfter_of_handsIn h, foldl_isOnAfter_of_handsIn h',
    any_startsAnew_of_handsIn h, any_startsAnew_of_handsIn h', collected_of_handsIn h, collected_of_handsIn h']
  -- the stretch is dropped if something behind it starts anew, and otherwise kept as a whole or not at all
  apply List.Perm.append_right
  split
  · exact .refl _
  · apply List.Perm.append_left
    split
    · exact hperm
    · exact .refl _

/-! ### Names in order -/

section
variable {β γ : Type} {t : Table String β} {t' : Table String γ}

theorem mem_sortedKeys : name ∈ sortedKeys t ↔ name ∈ t.keys := List.mem_mergeSort

theorem ascending_sortedKeys (h : t.keys.Nodup) : (sortedKeys t).Pairwise (· < ·) := by
  have hsorted : (sortedKeys t).Pairwise (· ≤ ·) :=
    pairwise_mergeSort_le (fun _ _ _ => String.le_trans) String.le_total t.keys
  have hnodup : (sortedKeys t).Nodup := (List.mergeSort_perm ..).nodup_iff.2 h
  exact (hsorted.and hnodup).imp fun hab => Std.lt_of_le_of_ne hab.1 hab.2

/-- Strictly ascending names are told by which they are. -/
theorem eq_of_ascending {names names' : List String} (h : names.Pairwise (· < ·)) (h' : names'.Pairwise (· < ·))
    (hmem : ∀ name, name ∈ names ↔ name ∈ names') : names = names' := by
  have hnodup : names.Nodup := h.imp String.ne_of_lt
  have hnodup' : names'.Nodup := h'.imp String.ne_of_lt
  have hperm : names.Perm names' := (List.perm_ext_iff_of_nodup hnodup hnodup').2 hmem
  exact hperm.eq_of_pairwise (fun a b _ _ hab hba => absurd hba (String.lt_asymm hab)) h h'

theorem sortedKeys_congr (h : t.keys.Nodup) (h' : t'.keys.Nodup) (hkeys : ∀ k, k ∈ t.keys ↔ k ∈ t'.keys) :
    sortedKeys t = sortedKeys t' :=
  eq_of_ascending (ascending_sortedKeys h) (ascending_sortedKeys h') fun name => by
    rw [mem_sortedKeys, mem_sortedKeys, hkeys]

end

namespace Holds

theorem report_eq (h : s.Holds cs) (h' : s'.Holds cs') (halike : Alike cs cs') : s.report = s'.report := by
  have htimings : sortedKeys s.timings = sortedKeys s'.timings := by
    refine sortedKeys_congr h.nodup_timings h'.nodup_timings fun o => ?_
    rw [h.mem_timings, h'.mem_timings, ← List.length_pos_iff, (halike.durations o).length_eq,
      List.length_pos_iff]
  have hcounters : sortedKeys s.counters = sortedKeys s'.counters := by
    refine sortedKeys_congr h.nodup_counters h'.nodup_counters fun n => ?_
    rw [h.mem_counters, h'.mem_counters, halike.names]
  have hsummary (o : String) : Summary.ofDurations? (s.durations o) = Summary.ofDurations? (s'.durations o) := by
    rw [h.durations, h'.durations]
    exact Summary.ofDurations?_perm (halike.durations o)
  have hcounter (n : String) : s.counter n = s'.counter n := by
    rw [← UInt64.toNat_inj, h.counter, h'.counter, halike.total]
  simp only [report, reportLines, timingLines, counterLines, htimings, hcounters, hsummary, hcounter]

end Holds

/-! ### What the report lists -/

/-- The lines about an operation. The durations are given in milliseconds; `shown` rounds them to hundredths. -/
def operationLines (shown : Nat → Nat) (operation : String) (s : Summary) : List String := [
  "",
  "  " ++ operation ++ ":",
  "    Calls:    " ++ toString s.calls,
  "    Total:    " ++ Summary.inMilliseconds (shown s.total),
  "    Avg:      " ++ Summary.inMilliseconds (shown s.average),
  "    Min:      " ++ Summary.inMilliseconds (shown s.least),
  "    Max:      " ++ Summary.inMilliseconds (shown s.greatest),
  "    P50:      " ++ Summary.inMilliseconds (shown s.median),
  "    P95:      " ++ Summary.inMilliseconds (shown s.percentile95)]

/-- The lines of a report on operations with their summaries and on counters with their values. -/
def layout (shown : Nat → Nat) (operations : List (String × Summary)) (counters : List (String × Nat)) :
    List String :=
  [String.ofList (List.replicate 80 '='), "BitBake Diagnostics Reconciler Report",
    String.ofList (List.replicate 80 '='), "", "TIMINGS", String.ofList (List.replicate 80 '-')] ++
    (if operations.isEmpty then ["  No timing data collected"]
      else operations.flatMap fun e => operationLines shown e.1 e.2) ++
    ["", "", "COUNTERS", String.ofList (List.replicate 80 '-')] ++
    (if counters.isEmpty then ["  No counter data collected"]
      else counters.map fun e => "  " ++ e.1 ++ ": " ++ toString e.2) ++
    ["", String.ofList (List.replicate 80 '=')]

/-- The operations and counters that the calls are about, each once and in ascending order, with what was
handed in for them. -/
structure Lists (cs : List Call) (operations : List (String × Summary))
    (counters : List (String × Nat)) : Prop where
  ascending_operations : (operations.map Prod.fst).Pairwise (· < ·)
  mem_operations : ∀ operation, operation ∈ operations.map Prod.fst ↔ durationsOf operation cs ≠ []
  summary : ∀ e ∈ operations, Summary.ofDurations? (durationsOf e.1 cs) = some e.2
  ascending_counters : (counters.map Prod.fst).Pairwise (· < ·)
  mem_counters : ∀ name, name ∈ counters.map Prod.fst ↔ amounts name cs ≠ []
  value : ∀ e ∈ counters, e.2 = total e.1 cs % UInt64.size

/-- The operations with their summaries. -/
def summarized (s : Statistics) : List (String × Summary) :=
  (sortedKeys s.timings).filterMap fun o => (Summary.ofDurations? (s.durations o)).map fun summary => (o, summary)

/-- The counters with their values. -/
def counted (s : Statistics) : List (String × Nat) :=
  (sortedKeys s.counters).map fun n => (n, (s.counter n).toNat)

namespace Holds

theorem map_fst_summarized (h : s.Holds cs)
    (hlimit : ∀ operation, (durationsOf operation cs).length < Summary.countLimit) :
    s.summarized.map Prod.fst = sortedKeys s.timings := by
  have hsome : ∀ o ∈ sortedKeys s.timings, ∃ summary, Summary.ofDurations? (s.durations o) = some summary := by
    intro o ho
    rw [mem_sortedKeys, h.mem_timings] at ho
    rw [h.durations]
    exact Summary.exists_ofDurations? ho (hlimit o)
  rw [summarized]
  generalize sortedKeys s.timings = names at hsome
  induction names with
  | nil => rfl
  | cons o os ih =>
    rw [List.forall_mem_cons] at hsome
    obtain ⟨⟨summary, ho⟩, hos⟩ := hsome
    rw [List.filterMap_cons, ho]
    exact congrArg (List.cons o) (ih hos)

theorem lists (h : s.Holds cs)
    (hlimit : ∀ operation, (durationsOf operation cs).length < Summary.countLimit) :
    Lists cs s.summarized s.counted where
  ascending_operations := by
    rw [h.map_fst_summarized hlimit]
    exact ascending_sortedKeys h.nodup_timings
  mem_operations operation := by
    rw [h.map_fst_summarized hlimit, mem_sortedKeys, h.mem_timings]
  summary e he := by
    obtain ⟨o, -, ho⟩ := List.mem_filterMap.1 he
    obtain ⟨summary, hsummary, rfl⟩ := Option.map_eq_some_iff.1 ho
    rw [← h.durations]
    exact hsummary
  ascending_counters := by
    rw [counted, List.map_map]
    exact (List.map_id _).symm ▸ ascending_sortedKeys h.nodup_counters
  mem_counters name := by
    rw [counted, List.map_map]
    exact (List.map_id _).symm ▸ (mem_sortedKeys.trans (h.mem_counters name))
  value e he := by
    obtain ⟨n, -, rfl⟩ := List.mem_map.1 he
    exact h.counter n

end Holds

theorem counterLines_eq (s : Statistics) : s.counterLines =
    if s.counted.isEmpty then ["  No counter data collected"]
    else s.counted.map fun e => "  " ++ e.1 ++ ": " ++ toString e.2 := by
  rw [counterLines, counted]
  cases sortedKeys s.counters with
  | nil => rfl
  | cons n ns =>
    rw [List.map_map]
    rfl

theorem lines_eq_operationLines (operation : String) (summary : Summary) :
    summary.lines operation = operationLines Summary.hundredths operation summary := by
  simp only [Summary.lines, operationLines, Summary.milliseconds_eq]

theorem Holds.timingLines_eq (h : s.Holds cs)
    (hlimit : ∀ operation, (durationsOf operation cs).length < Summary.countLimit) : s.timingLines =
    if s.summarized.isEmpty then ["  No timing data collected"]
    else s.summarized.flatMap fun e => operationLines Summary.hundredths e.1 e.2 := by
  have hnames := h.map_fst_summarized hlimit
  rw [timingLines]
  cases hkeys : sortedKeys s.timings with
  | nil =>
    rw [hkeys] at hnames
    rw [List.map_eq_nil_iff.1 hnames]
    rfl
  | cons n ns =>
    have hempty : s.summarized.isEmpty = false := by
      rw [hkeys] at hnames
      cases hs : s.summarized with
      | nil => rw [hs] at hnames; cases hnames
      | cons e es => rfl
    rw [hempty, if_neg Bool.false_ne_true, summarized, hkeys]
    -- the summaries are laid out in the order of the names
    show List.flatMap _ (n :: ns) = _
    generalize n :: ns = names
    induction names with
    | nil => rfl
    | cons o os ih =>
      rw [List.flatMap_cons, ih, List.filterMap_cons]
      cases Summary.ofDurations? (s.durations o) with
      | none => rfl
      | some summary =>
        simp only [Option.map_some, List.flatMap_cons, lines_eq_operationLines]

theorem Holds.reportLines_eq (h : s.Holds cs)
    (hlimit : ∀ operation, (durationsOf operation cs).length < Summary.countLimit) :
    s.reportLines = layout Summary.hundredths s.summarized s.counted := by
  rw [reportLines, h.timingLines_eq hlimit, counterLines_eq, layout, List.append_assoc [rule '=', _, _, _]]
  rfl

/-! ### The whole of it -/

/-- Whatever is called, every counter is the sum of the amounts collected for it and the durations are
those collected; what is handed in while collection is off is lost, and switching it off loses nothing;
the report is the same for calls of which the same is collected, so also for what is handed in at a
stretch in any order; and its text lists the operations and the counters that were collected, each once and in
ascending order, with durations rounded to hundredths of a millisecond. -/
theorem report_tells_what_was_collected :
    (∀ calls name, ((performAll calls).counter name).toNat =
      total name (collected false calls) % UInt64.size) ∧
    (∀ calls operation, (performAll calls).durations operation =
      durationsOf operation (collected false calls)) ∧
    (∀ (s : Statistics) (c : Call), s.enabled = false → c.handsIn → s.perform c = s) ∧
    (∀ s : Statistics, (s.perform (.setEnabled false)).timings = s.timings ∧
      (s.perform (.setEnabled false)).counters = s.counters) ∧
    (∀ calls calls', Alike (collected false calls) (collected false calls') →
      (performAll calls).report = (performAll calls').report) ∧
    (∀ pre mid mid' post : List Call, (∀ c ∈ mid, c.handsIn) → mid.Perm mid' →
      (performAll (pre ++ mid ++ post)).report = (performAll (pre ++ mid' ++ post)).report) ∧
    ∃ shown : Nat → Nat, (∀ nanos, Summary.RoundsTo nanos (shown nanos)) ∧
      ∀ calls, (∀ operation, (durationsOf operation (collected false calls)).length < Summary.countLimit) →
        ∃ operations counters, Lists (collected false calls) operations counters ∧
          (performAll calls).report =
            String.join ((layout shown operations counters).map (· ++ "\n")) := by
  refine ⟨fun calls => (holds_performAll calls).counter, fun calls => (holds_performAll calls).durations,
    fun s c => perform_of_disabled, fun s => ⟨rfl, rfl⟩, ?_, ?_, ?_⟩
  · intro calls calls' halike
    exact (holds_performAll calls).report_eq (holds_performAll calls') halike
  · intro pre mid mid' post h hperm
    exact (holds_performAll _).report_eq (holds_performAll _) (.of_perm (collected_perm h hperm))
  · refine ⟨Summary.hundredths, Summary.roundsTo_hundredths, fun calls hlimit => ?_⟩
    have hholds := holds_performAll calls
    refine ⟨_, _, hholds.lists hlimit, ?_⟩
    rw [report, hholds.reportLines_eq hlimit]

namespace Sample

/-- Two counters and an operation, handed in while collection is on. -/
def handedIn : List Call :=
  [.increment "b" 2, .record "u" 7000000, .increment "a" 18446744073709551615, .increment "a" 2,
    .record "u" 3000000]

def handedInBackwards : List Call :=
  [.record "u" 3000000, .increment "a" 2, .increment "a" 18446744073709551615, .record "u" 7000000,
    .increment "b" 2]

def before : List Call := [.increment "b" 1, .setEnabled true]

def after : List Call := [.setEnabled false, .increment "b" 9, .record "v" 1]

/-- The same in other amounts. -/
def inSteps : List Call :=
  [.setEnabled true, .increment "c" 5, .reset, .record "u" 3000000, .increment "a" 1, .record "u" 7000000,
    .increment "b" 1, .increment "b" 1]

def session : List Call := before ++ handedIn ++ after

theorem collected_session : collected false session = handedIn := by decide

theorem perm_handedIn : handedIn.Perm handedInBackwards := by decide

theorem collected_inSteps : collected false inSteps =
    [.record "u" 3000000, .increment "a" 1, .record "u" 7000000, .increment "b" 1, .increment "b" 1] := by
  decide

theorem alike_inSteps : Alike (collected false session) (collected false inSteps) := by
  rw [collected_session, collected_inSteps, handedIn]
  constructor
  · intro name
    by_cases ha : "a" = name <;> by_cases hb : "b" = name <;> simp [amounts, Call.amount?, ha, hb]
  · intro name
    by_cases ha : "a" = name
    · subst ha
      decide
    · by_cases hb : "b" = name
      · subst hb
        decide
      · simp [total, amounts, List.filterMap_cons, Call.amount?, ha, hb]
  · intro operation
    by_cases hu : "u" = operation
    · subst hu
      decide
    · simp [durationsOf, List.filterMap_cons, Call.duration?, hu]

theorem length_durationsOf_session (operation : String) :
    (durationsOf operation (collected false session)).length < Summary.countLimit := by
  have hle : (durationsOf operation (collected false session)).length ≤ (collected false session).length :=
    List.length_filterMap_le ..
  exact Nat.lt_of_le_of_lt hle (by decide)

/-- The report on the session. -/
def reported : List String := [String.ofList (List.replicate 80 '='), "BitBake Diagnostics Reconciler Report",
  String.ofList (List.replicate 80 '='), "", "TIMINGS", String.ofList (List.replicate 80 '-'), "",
  "  u:", "    Calls:    2", "    Total:    10.00ms", "    Avg:      5.00ms", "    Min:      3.00ms",
  "    Max:      7.00ms", "    P50:      7.00ms", "    P95:      7.00ms", "", "",
  "COUNTERS", String.ofList (List.replicate 80 '-'), "  a: 1", "  b: 2", "",
  String.ofList (List.replicate 80 '=')]

theorem ofDurations?_session : Summary.ofDurations? [7000000, 3000000] =
    some ⟨2, 10000000, 5000000, 3000000, 7000000, 7000000, 7000000⟩ := by
  have hsort : [7000000, 3000000].mergeSort (fun a b : Nat => decide (a ≤ b)) = [3000000, 7000000] := by
    simp [List.mergeSort]
  rw [Summary.ofDurations?, hsort]
  decide +kernel

/-- Nothing else can be listed. -/
theorem lists_session {operations : List (String × Summary)} {counters : List (String × Nat)}
    (h : Lists handedIn operations counters) :
    operations = [("u", ⟨2, 10000000, 5000000, 3000000, 7000000, 7000000, 7000000⟩)] ∧
      counters = [("a", 1), ("b", 2)] := by
  have hoperations : operations.map Prod.fst = ["u"] :=
    eq_of_ascending h.ascending_operations (by decide) fun operation => by
      rw [h.mem_operations]
      by_cases hu : "u" = operation
      · subst hu
        decide
      · simp [durationsOf, handedIn, Call.duration?, hu, Ne.symm hu]
  have hcounters : counters.map Prod.fst = ["a", "b"] :=
    eq_of_ascending h.ascending_counters (by decide) fun name => by
      rw [h.mem_counters]
      by_cases ha : "a" = name
      · subst ha
        decide
      · by_cases hb : "b" = name
        · subst hb
          decide
        · simp [amounts, handedIn, Call.amount?, ha, hb, Ne.symm ha, Ne.symm hb]
  obtain ⟨⟨operation, summary⟩, rfl, rfl⟩ := List.map_eq_singleton_iff.1 hoperations
  obtain ⟨⟨a, valueA⟩, rest, rfl, rfl, hrest⟩ := List.map_eq_cons_iff.1 hcounters
  obtain ⟨⟨b, valueB⟩, rfl, rfl⟩ := List.map_eq_singleton_iff.1 hrest
  have hsummary : some summary = some _ :=
    (h.summary _ (List.mem_singleton_self _)).symm.trans ofDurations?_session
  have hvalueA : valueA = total "a" handedIn % UInt64.size := h.value _ (List.mem_cons_self ..)
  have hvalueB : valueB = total "b" handedIn % UInt64.size :=
    h.value _ (List.mem_cons_of_mem _ (List.mem_singleton_self _))
  rw [Option.some.inj hsummary, hvalueA, hvalueB]
  exact ⟨rfl, by decide⟩

end Sample

theorem report_tells_what_was_collected_of_session :
    ((performAll Sample.session).counter "a").toNat = 1 ∧
    (performAll Sample.session).durations "u" = [7000000, 3000000] ∧
    Statistics.empty.perform (.increment "b" 1) = Statistics.empty ∧
    (performAll Sample.session).report = (performAll Sample.inSteps).report ∧
    (performAll (Sample.before ++ Sample.handedIn ++ Sample.after)).report =
      (performAll (Sample.before ++ Sample.handedInBackwards ++ Sample.after)).report ∧
    (performAll Sample.session).report = String.join (Sample.reported.map (· ++ "\n")) := by
  obtain ⟨hcounter, hdurations, hoff, -, halike, hperm, shown, hround, hlists⟩ :=
    report_tells_what_was_collected
  refine ⟨?_, ?_, hoff _ _ rfl rfl, halike _ _ Sample.alike_inSteps, ?_, ?_⟩
  · rw [hcounter, Sample.collected_session]
    decide
  · rw [hdurations, Sample.collected_session]
    decide
  · exact hperm _ _ _ _ (by decide) Sample.perm_handedIn
  · obtain ⟨operations, counters, hlist, hreport⟩ := hlists _ Sample.length_durationsOf_session
    rw [Sample.collected_session] at hlist
    obtain ⟨rfl, rfl⟩ := Sample.lists_session hlist
    have htotal : shown 10000000 = 1000 := (hround (10000 * 1000)).eq (by decide)
    have haverage : shown 5000000 = 500 := (hround (10000 * 500)).eq (by decide)
    have hleast : shown 3000000 = 300 := (hround (10000 * 300)).eq (by decide)
    have hgreatest : shown 7000000 = 700 := (hround (10000 * 700)).eq (by decide)
    have hlines : operationLines shown "u" ⟨2, 10000000, 5000000, 3000000, 7000000, 7000000, 7000000⟩ =
        ["", "  u:", "    Calls:    2", "    Total:    10.00ms", "    Avg:      5.00ms",
          "    Min:      3.00ms", "    Max:      7.00ms", "    P50:      7.00ms", "    P95:      7.00ms"] := by
      simp only [operationLines, htotal, haverage, hleast, hgreatest]
      decide
    rw [hreport, layout, List.flatMap_cons, hlines]
    rfl

end RecipeDiag.Statistics
