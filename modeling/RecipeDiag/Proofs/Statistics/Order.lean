import Mathlib.Data.List.Basic
import RecipeDiag.Proofs.Statistics.Report

/-!
# The figures of a summary in order

A summary looks its figures up in the sorted durations (`LooksUp`), and every place that it looks at is
there, so the figures are in the order of their places. The mean lies between the extremes, although it is
rounded down (`least_le_average`, `average_le_greatest`). Every operation with durations is reported, and each
labelled line below its name shows the figure that it is labelled with (`figures_are_in_order`).
-/

namespace RecipeDiag

namespace Summary
variable {durations : List Nat} {s : Summary} {i j d d' n : Nat}

/-! ### Sums -/

theorem sum_cons (d : Nat) (durations : List Nat) : sum (d :: durations) = d + sum durations := by
  rw [sum, List.foldl_cons, Nat.add_comm]
  exact List.foldl_assoc

theorem sum_take_le (n : Nat) (durations : List Nat) : sum (durations.take n) ≤ sum durations := by
  induction durations generalizing n with
  | nil => exact Nat.le_of_eq (congrArg sum List.take_nil)
  | cons d ds ih =>
    cases n with
    | zero => exact Nat.zero_le _
    | succ n =>
      rw [List.take_succ_cons, sum_cons, sum_cons]
      exact Nat.add_le_add_left (ih n) d

theorem length_mul_le_sum (h : ∀ d' ∈ durations, d ≤ d') : durations.length * d ≤ sum durations := by
  induction durations with
  | nil => exact Nat.le_of_eq (Nat.zero_mul d)
  | cons e es ih =>
    rw [List.forall_mem_cons] at h
    have hes := ih h.2
    rw [List.length_cons, Nat.succ_mul, sum_cons]
    omega

theorem sum_le_length_mul (h : ∀ d' ∈ durations, d' ≤ d) : sum durations ≤ durations.length * d := by
  induction durations with
  | nil => exact Nat.zero_le _
  | cons e es ih =>
    rw [List.forall_mem_cons] at h
    have hes := ih h.2
    rw [List.length_cons, Nat.succ_mul, sum_cons]
    omega

theorem sum_eq (durations : List Nat) : sum durations = durations.sum := List.sum_eq_foldl.symm

theorem sum_perm {durations' : List Nat} (h : durations.Perm durations') : sum durations = sum durations' :=
  h.foldl_eq' (fun _ _ _ _ _ => Nat.add_right_comm ..) 0

/-! ### Sorted durations -/

/-- The durations in ascending order. -/
def sorted (durations : List Nat) : List Nat := durations.mergeSort (· ≤ ·)

theorem length_sorted (durations : List Nat) : (sorted durations).length = durations.length :=
  List.length_mergeSort ..

theorem mem_sorted : d ∈ sorted durations ↔ d ∈ durations := List.mem_mergeSort

theorem ascending_sorted (durations : List Nat) : (sorted durations).Pairwise (· ≤ ·) :=
  pairwise_mergeSort_le (fun _ _ _ => Nat.le_trans) Nat.le_total durations

theorem le_of_place_le (hi : (sorted durations)[i]? = some d) (hj : (sorted durations)[j]? = some d')
    (h : i ≤ j) : d ≤ d' := by
  rcases Nat.lt_or_eq_of_le h with hlt | rfl
  · obtain ⟨hilt, rfl⟩ := List.getElem?_eq_some_iff.1 hi
    obtain ⟨hjlt, rfl⟩ := List.getElem?_eq_some_iff.1 hj
    exact List.pairwise_iff_getElem.1 (ascending_sorted durations) i j hilt hjlt hlt
  · exact Nat.le_of_eq (Option.some.inj (hi.symm.trans hj))

theorem mem_of_place (h : (sorted durations)[i]? = some d) : d ∈ durations :=
  mem_sorted.1 (List.mem_of_getElem? h)

theorem exists_place (h : d ∈ durations) : ∃ i < durations.length, (sorted durations)[i]? = some d := by
  obtain ⟨i, hi, rfl⟩ := List.mem_iff_getElem.1 (mem_sorted.2 h)
  exact ⟨i, length_sorted durations ▸ hi, List.getElem?_eq_getElem hi⟩

/-! ### Where the figures come from -/

/-- The figures of a summary stand at their places among the sorted durations, and the mean is the total
shared out among as many as there are durations. -/
structure LooksUp (durations : List Nat) (s : Summary) : Prop where
  calls : s.calls = durations.length
  total : s.total = sum durations
  average : mean? (sum durations) (UInt32.ofNat durations.length) = some s.average
  least : (sorted durations)[0]? = some s.least
  greatest : (sorted durations)[durations.length - 1]? = some s.greatest
  median : (sorted durations)[durations.length / 2]? = some s.median
  percentile95 : (sorted durations)[percentileIndex durations.length]? = some s.percentile95

theorem looksUp_of_ofDurations? (h : ofDurations? durations = some s) : LooksUp durations s := by
  have htotal : sum (durations.mergeSort (· ≤ ·)) = sum durations := sum_perm (List.mergeSort_perm ..)
  simp only [ofDurations?, Option.bind_eq_bind, Option.bind_eq_some_iff, htotal, List.length_mergeSort,
    List.head?_eq_getElem?, List.getLast?_eq_getElem?] at h
  obtain ⟨average, haverage, least, hleast, greatest, hgreatest, median, hmedian, percentile95, hpercentile95,
    h⟩ := h
  cases h
  exact ⟨rfl, rfl, haverage, hleast, hgreatest, hmedian, hpercentile95⟩

/-! ### The order of the figures -/

/-- The extremes are among the durations and enclose them, and the other figures are in order between them. -/
structure InOrder (durations : List Nat) (s : Summary) : Prop where
  least_mem : s.least ∈ durations
  least_le : ∀ d ∈ durations, s.least ≤ d
  greatest_mem : s.greatest ∈ durations
  le_greatest : ∀ d ∈ durations, d ≤ s.greatest
  least_le_median : s.least ≤ s.median
  median_le_percentile95 : s.median ≤ s.percentile95
  percentile95_le_greatest : s.percentile95 ≤ s.greatest
  least_le_average : s.least ≤ s.average
  average_le_greatest : s.average ≤ s.greatest

namespace LooksUp

theorem length_pos (h : LooksUp durations s) : 0 < durations.length := by
  obtain ⟨hlt, -⟩ := List.getElem?_eq_some_iff.1 h.least
  rwa [length_sorted] at hlt

theorem least_le (h : LooksUp durations s) (hd : d ∈ durations) : s.least ≤ d := by
  obtain ⟨i, -, hi⟩ := exists_place hd
  exact le_of_place_le h.least hi (Nat.zero_le i)

theorem le_greatest (h : LooksUp durations s) (hd : d ∈ durations) : d ≤ s.greatest := by
  obtain ⟨i, hlt, hi⟩ := exists_place hd
  exact le_of_place_le hi h.greatest (Nat.le_sub_one_of_lt hlt)

theorem average_eq (h : LooksUp durations s) (hlimit : durations.length < countLimit) :
    s.average = sum durations / durations.length :=
  Option.some.inj (h.average.symm.trans (mean?_ofNat h.length_pos hlimit))

theorem inOrder (h : LooksUp durations s) (hlimit : durations.length < countLimit) : InOrder durations s where
  least_mem := mem_of_place h.least
  least_le _ := h.least_le
  greatest_mem := mem_of_place h.greatest
  le_greatest _ := h.le_greatest
  least_le_median := le_of_place_le h.least h.median (Nat.zero_le _)
  median_le_percentile95 := by
    refine le_of_place_le h.median h.percentile95 ?_
    rw [percentileIndex_eq h.length_pos hlimit]
    omega
  percentile95_le_greatest :=
    le_of_place_le h.percentile95 h.greatest (Nat.le_sub_one_of_lt (percentileIndex_lt h.length_pos hlimit))
  least_le_average := by
    rw [h.average_eq hlimit, Nat.le_div_iff_mul_le h.length_pos, Nat.mul_comm]
    exact length_mul_le_sum fun _ => h.least_le
  average_le_greatest := by
    rw [h.average_eq hlimit]
    exact Nat.div_le_of_le_mul (sum_le_length_mul fun _ => h.le_greatest)

end LooksUp

/-! ### What a duration holds -/

/-- What durations stay below: their seconds are counted in a word. -/
def durationLimit : Nat := UInt64.size * nanosPerSecond

/-- If the total is a duration, every sum on the way to it is. -/
theorem sum_take_sorted_lt (h : sum durations < durationLimit) (n : Nat) :
    sum ((sorted durations).take n) < durationLimit := by
  have htotal : sum (sorted durations) = sum durations := sum_perm (List.mergeSort_perm ..)
  have hle := sum_take_le n (sorted durations)
  omega

end Summary

namespace Statistics
variable {s : Statistics} {operation : String} {summary : Summary}

theorem mem_sortedKeys_timings (h : s.durations operation ≠ []) : operation ∈ sortedKeys s.timings := by
  rw [mem_sortedKeys, Table.mem_keys_iff]
  intro hnone
  exact h (by rw [durations, hnone, Option.getD_none])

theorem timingLines_eq_flatMap (h : sortedKeys s.timings ≠ []) : s.timingLines =
    (sortedKeys s.timings).flatMap fun n =>
      (Summary.ofDurations? (s.durations n)).elim [] fun summary => summary.lines n := by
  rw [timingLines]
  cases hkeys : sortedKeys s.timings with
  | nil => exact absurd hkeys h
  | cons n ns =>
    show List.flatMap _ (n :: ns) = _
    congr 1
    funext n
    cases Summary.ofDurations? (s.durations n) <;> rfl

theorem timingLines_infix_reportLines (s : Statistics) : s.timingLines <:+: s.reportLines :=
  ((List.infix_append _ _ _).trans (List.prefix_append _ _).isInfix).trans (List.prefix_append _ _).isInfix

/-- The lines stand in the text one below the other. -/
def HasLines (text : String) (lines : List String) : Prop :=
  ∃ before after, text = String.join ((before ++ lines ++ after).map (· ++ "\n"))

/-- The summary of every operation with durations is in the report. -/
theorem hasLines_report (h : s.durations operation ≠ [])
    (hsummary : Summary.ofDurations? (s.durations operation) = some summary) :
    HasLines s.report (operationLines Summary.hundredths operation summary) := by
  have hmem := mem_sortedKeys_timings h
  have hinfix := List.infix_flatMap_of_mem hmem fun n =>
    (Summary.ofDurations? (s.durations n)).elim [] fun summary => summary.lines n
  rw [hsummary, ← timingLines_eq_flatMap (List.ne_nil_of_mem hmem)] at hinfix
  obtain ⟨before, after, hlines⟩ := hinfix.trans (timingLines_infix_reportLines s)
  refine ⟨before, after, ?_⟩
  rw [report, ← hlines, Option.elim_some, lines_eq_operationLines]

/-- For an operation with less than 2^32 durations, all places that the summary looks at are among them, that of
the 95th percentile is 0.95 of their number, truncated, and their number is not zero as a word. If the total is
a duration, so is every sum on the way to it. The operation is reported: below its name stand the number of
calls, the total and the mean, the least and the greatest duration and the median and the 95th percentile,
which are in order, each behind its label and rounded to hundredths of a millisecond. Rounding keeps the order. -/
theorem figures_are_in_order (s : Statistics) (operation : String) (recorded : List Nat)
    (hrecorded : s.durations operation = recorded) (h : recorded ≠ [])
    (hlimit : recorded.length < Summary.countLimit) :
    (∀ i ∈ [0, recorded.length - 1, recorded.length / 2, Summary.percentileIndex recorded.length],
      i < (Summary.sorted recorded).length) ∧
    Summary.percentileIndex recorded.length = 95 * recorded.length / 100 ∧
    UInt32.ofNat recorded.length ≠ 0 ∧
    (Summary.sum recorded < Summary.durationLimit →
      ∀ n, Summary.sum ((Summary.sorted recorded).take n) < Summary.durationLimit) ∧
    ∃ (summary : Summary) (shown : Nat → Nat), Summary.ofDurations? recorded = some summary ∧
      summary.LooksUp recorded ∧ summary.InOrder recorded ∧
      summary.total = recorded.sum ∧ summary.average = recorded.sum / recorded.length ∧
      (∀ nanos, Summary.RoundsTo nanos (shown nanos)) ∧
      (∀ nanos nanos', nanos ≤ nanos' → nanos' < 2 ^ 51 → shown nanos ≤ shown nanos') ∧
      HasLines s.report [
        "",
        "  " ++ operation ++ ":",
        "    Calls:    " ++ toString recorded.length,
        "    Total:    " ++ Summary.inMilliseconds (shown summary.total),
        "    Avg:      " ++ Summary.inMilliseconds (shown summary.average),
        "    Min:      " ++ Summary.inMilliseconds (shown summary.least),
        "    Max:      " ++ Summary.inMilliseconds (shown summary.greatest),
        "    P50:      " ++ Summary.inMilliseconds (shown summary.median),
        "    P95:      " ++ Summary.inMilliseconds (shown summary.percentile95)] := by
  subst hrecorded
  have hpos := List.length_pos_iff.2 h
  obtain ⟨summary, hsummary⟩ := Summary.exists_ofDurations? h hlimit
  have hlooks := Summary.looksUp_of_ofDurations? hsummary
  have hsum := Summary.sum_eq (s.durations operation)
  have hlines := hasLines_report h hsummary
  rw [operationLines, hlooks.calls] at hlines
  refine ⟨?_, Summary.percentileIndex_eq hpos hlimit, Summary.ofNat_ne_zero hpos hlimit,
    Summary.sum_take_sorted_lt, summary, Summary.hundredths, hsummary, hlooks, hlooks.inOrder hlimit,
    hlooks.total.trans hsum, ?_, Summary.roundsTo_hundredths, fun _ _ => Summary.hundredths_le, hlines⟩
  · intro i hi
    have hplace := Summary.percentileIndex_lt hpos hlimit
    rw [Summary.length_sorted]
    simp only [List.mem_cons, List.not_mem_nil, or_false] at hi
    rcases hi with rfl | rfl | rfl | rfl <;> omega
  · rw [hlooks.average_eq hlimit, hsum]

/-! ### Four updates -/

namespace Sample

def timed : Statistics := [40000000, 10000000, 30000000, 20000000].foldl (fun s nanos => s.record "u" nanos)
  (Statistics.empty.setEnabled true)

theorem durations_timed : timed.durations "u" = [40000000, 10000000, 30000000, 20000000] := by decide

theorem ofDurations?_timed : Summary.ofDurations? [40000000, 10000000, 30000000, 20000000] =
    some ⟨4, 100000000, 25000000, 10000000, 40000000, 30000000, 40000000⟩ := by
  have hsort : [40000000, 10000000, 30000000, 20000000].mergeSort (fun a b : Nat => decide (a ≤ b)) =
      [10000000, 20000000, 30000000, 40000000] := by
    simp [List.mergeSort]
  rw [Summary.ofDurations?, hsort]
  decide +kernel

end Sample

theorem figures_are_in_order_of_timed : HasLines Sample.timed.report ["", "  u:", "    Calls:    4",
    "    Total:    100.00ms", "    Avg:      25.00ms", "    Min:      10.00ms", "    Max:      40.00ms",
    "    P50:      30.00ms", "    P95:      40.00ms"] := by
  obtain ⟨-, -, -, -, summary, shown, hsummary, -, -, -, -, hround, -, hlines⟩ :=
    figures_are_in_order Sample.timed "u" _ Sample.durations_timed (by decide) (by decide)
  cases Sample.ofDurations?_timed.symm.trans hsummary
  have htotal : shown 100000000 = 10000 := (hround (10000 * 10000)).eq (by decide)
  have haverage : shown 25000000 = 2500 := (hround (10000 * 2500)).eq (by decide)
  have hleast : shown 10000000 = 1000 := (hround (10000 * 1000)).eq (by decide)
  have hmedian : shown 30000000 = 3000 := (hround (10000 * 3000)).eq (by decide)
  have hgreatest : shown 40000000 = 4000 := (hround (10000 * 4000)).eq (by decide)
  simp only [htotal, haverage, hleast, hmedian, hgreatest] at hlines
  exact hlines

end Statistics
end RecipeDiag
