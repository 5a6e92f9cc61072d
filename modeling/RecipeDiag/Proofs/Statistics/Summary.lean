import RecipeDiag.Proofs.Binary64.Accuracy
import RecipeDiag.Proofs.Table
import RecipeDiag.Statistics.Report

/-!
# Summaries

Durations, if there are any and not too many, have a summary (`exists_ofDurations?`), and it is the same
in whatever order they come (`ofDurations?_perm`). The place of the 95th percentile is computed with
rounding twice; for numbers that stay below `countLimit` it is 0.95 of the number, truncated, all the same
(`percentileIndex_eq`).
-/

namespace RecipeDiag

namespace Summary
variable {durations durations' : List Nat}

/-- The number that the count of durations stays below. -/
def countLimit : Nat := 0x100000000

/-! ### The place of the 95th percentile -/

section
variable {count : Nat} (h0 : 0 < count) (h : count < countLimit)
include h0 h

/-- The number itself is not rounded, and 0.95 is the nearest quotient by 2 ^ 53. -/
theorem exists_percentileIndex_eq : ∃ p, 0 < p ∧ percentileIndex count =
    (Binary64.nearest (p * (count * 8556839292003942)) (p * 0x20000000000000)).floor := by
  obtain ⟨p, hp, hratio⟩ := Binary64.ratio_nearest_one h0 (Nat.lt_trans h (by decide))
  have h95 : (Binary64.nearest 95 100).ratio = (8556839292003942, 0x20000000000000) := by decide +kernel
  refine ⟨p, hp, ?_⟩
  rw [percentileIndex, Binary64.mul, hratio, h95, ← Nat.mul_assoc, Nat.mul_comm p count]

/-- Behind the point 0.95 of a number has twentieths, so one more twentieth is not reached. -/
theorem percentileIndex_le : percentileIndex count ≤ 95 * count / 100 := by
  obtain ⟨p, hp, hplace⟩ := exists_percentileIndex_eq h0 h
  have hden : 0 < p * 0x20000000000000 := Nat.mul_pos hp (by decide)
  rw [countLimit] at h
  have hgap : 32 * (count * 8556839292003942) + 0x20000000000000 ≤
      32 * (0x20000000000000 * (95 * count / 100 + 1)) := by omega
  have hmul := Nat.mul_le_mul_left p hgap
  rw [Nat.mul_add, Nat.mul_left_comm p 32, Nat.mul_left_comm p 32] at hmul
  rw [hplace]
  refine Nat.le_of_lt_succ (Binary64.floor_nearest_lt (Nat.ne_of_gt hden) (Nat.succ_pos _) ?_ ?_)
  · show 95 * count / 100 + 1 ≤ 0x100000000
    omega
  · rw [Nat.mul_assoc p]
    exact hmul

/-- What the nearest quotient lacks of 0.95 is made up for by rounding. -/
theorem le_percentileIndex : 95 * count / 100 ≤ percentileIndex count := by
  obtain ⟨p, hp, hplace⟩ := exists_percentileIndex_eq h0 h
  have hden : 0 < p * 0x20000000000000 := Nat.mul_pos hp (by decide)
  rw [countLimit] at h
  have hgap : 0x40000000000000 * (0x20000000000000 * (95 * count / 100)) ≤
      0x40000000000001 * (count * 8556839292003942) := by omega
  have hmul := Nat.mul_le_mul_left p hgap
  rw [Nat.mul_left_comm p, Nat.mul_left_comm p 0x40000000000001] at hmul
  rw [hplace]
  refine Binary64.le_floor_nearest hden ?_ ?_
  · rw [Nat.mul_assoc]
    refine Nat.mul_lt_mul_of_pos_left ?_ hp
    show count * 8556839292003942 < 0x20000000000000 * 0x100000000
    omega
  · rw [Nat.mul_assoc p]
    exact hmul

theorem percentileIndex_eq : percentileIndex count = 95 * count / 100 :=
  Nat.le_antisymm (percentileIndex_le h0 h) (le_percentileIndex h0 h)

theorem percentileIndex_lt : percentileIndex count < count := by
  rw [percentileIndex_eq h0 h]
  omega

end

/-! ### Summaries of durations -/

theorem ofDurations?_perm (h : durations.Perm durations') : ofDurations? durations = ofDurations? durations' := by
  have hperm : (durations.mergeSort (· ≤ ·)).Perm (durations'.mergeSort (· ≤ ·)) :=
    ((List.mergeSort_perm ..).trans h).trans (List.mergeSort_perm ..).symm
  have hsorted (ns : List Nat) : (ns.mergeSort (· ≤ ·)).Pairwise (· ≤ ·) :=
    pairwise_mergeSort_le (fun _ _ _ => Nat.le_trans) Nat.le_total ns
  have hsort : durations.mergeSort (· ≤ ·) = durations'.mergeSort (· ≤ ·) :=
    hperm.eq_of_pairwise (fun a b _ _ => Nat.le_antisymm) (hsorted _) (hsorted _)
  rw [ofDurations?, hsort, ofDurations?]

theorem ofNat_ne_zero {count : Nat} (h0 : 0 < count) (h : count < countLimit) : UInt32.ofNat count ≠ 0 := by
  have hcount : (UInt32.ofNat count).toNat = count := UInt32.toNat_ofNat_of_lt' h
  intro hzero
  rw [hzero] at hcount
  exact Nat.ne_of_lt h0 hcount

/-- A number that stays below the limit is the word that is divided by. -/
theorem mean?_ofNat {total count : Nat} (h0 : 0 < count) (h : count < countLimit) :
    mean? total (UInt32.ofNat count) = some (total / count) := by
  have hcount : (UInt32.ofNat count).toNat = count := UInt32.toNat_ofNat_of_lt' h
  rw [mean?, if_neg (ofNat_ne_zero h0 h), hcount]

theorem exists_ofDurations? (h : durations ≠ []) (hlimit : durations.length < countLimit) :
    ∃ s, ofDurations? durations = some s := by
  have hlength : (durations.mergeSort (· ≤ ·)).length = durations.length := List.length_mergeSort ..
  have hpos : 0 < durations.length := List.length_pos_iff.2 h
  have hplace := percentileIndex_lt hpos hlimit
  simp only [ofDurations?, hlength, mean?_ofNat hpos hlimit]
  generalize durations.mergeSort (· ≤ ·) = sorted at hlength
  generalize percentileIndex durations.length = place at hplace
  rw [← hlength] at hpos hplace
  have hhalf : durations.length / 2 < sorted.length := by omega
  have hsorted : sorted ≠ [] := List.length_pos_iff.1 hpos
  rw [List.head?_eq_some_head hsorted, List.getLast?_eq_some_getLast hsorted,
    List.getElem?_eq_getElem hhalf, List.getElem?_eq_getElem hplace]
  exact ⟨_, rfl⟩

/-! ### Durations in milliseconds -/

/-- A duration in nanoseconds comes to so many hundredths of a millisecond when it is rounded to the nearest. One
of more than 26 days may besides be off by one part in 2 ^ 51. -/
structure RoundsTo (nanos hundredths : Nat) : Prop where
  le : 10000 * hundredths ≤ nanos + 5000 + nanos / 2 ^ 51
  ge : nanos ≤ 10000 * hundredths + 5000 + nanos / 2 ^ 51

/-- Hundredths of a millisecond in milliseconds. -/
def inMilliseconds (hundredths : Nat) : String :=
  toString (hundredths / 100) ++ "." ++ toString (hundredths / 10 % 10) ++ toString (hundredths % 10) ++ "ms"

/-- A duration in milliseconds as it is computed. -/
def computed (nanos : Nat) : Binary64 :=
  ((Binary64.nearest (nanos / nanosPerSecond) 1).add
    (Binary64.nearest (nanos % nanosPerSecond) nanosPerSecond)).mul (Binary64.nearest 1000 1)

/-- The hundredths of a millisecond that are shown of a duration. -/
def hundredths (nanos : Nat) : Nat :=
  Binary64.roundDiv (100 * (computed nanos).ratio.1) (computed nanos).ratio.2

theorem milliseconds_eq (nanos : Nat) : milliseconds nanos = inMilliseconds (hundredths nanos) := by
  -- for a number in general, as this one would be computed
  have hdecimals (x : Binary64) : x.twoDecimals ++ "ms" =
      inMilliseconds (Binary64.roundDiv (100 * x.ratio.1) x.ratio.2) := rfl
  exact hdecimals (computed nanos)

section
open Binary64

/-- What is at least a nanosecond is not too near to zero. -/
theorem two_le_of_nanos (nanos : Nat) {q c : ℚ} (hq : q = nanos / c) (hc : 0 < c) (hle : c ≤ 2 ^ (100 : Int))
    (h : q ≠ 0) : 2 ≤ q * 2 ^ (200 : Int) := by
  have hnanos : nanos ≠ 0 := by
    rintro rfl
    exact h (by rw [hq]; simp)
  have hone : (1 : ℚ) ≤ nanos := by exact_mod_cast Nat.one_le_iff_ne_zero.2 hnanos
  rw [hq, div_mul_eq_mul_div, le_div_iff₀ hc]
  calc 2 * c ≤ 2 * 2 ^ (100 : Int) := by linarith
    _ ≤ 1 * 2 ^ (200 : Int) := by norm_num
    _ ≤ nanos * 2 ^ (200 : Int) := mul_le_mul_of_nonneg_right hone (by positivity)

/-- Three roundings stand between a duration and what is computed of it. -/
theorem isWithin_computed (nanos : Nat) : IsWithin (4 * unit) (computed nanos).value (nanos / 1000000) := by
  have hunit : (0 : ℚ) < unit := by norm_num [unit]
  have hnormal {n den : Nat} (hden : 0 < den) (hle : (den : ℚ) ≤ 2 ^ (100 : Int)) : IsNormal (n / den) := by
    intro h
    have hlarge := two_le_of_nanos n rfl (by exact_mod_cast hden) hle h
    linarith
  have hwhole : IsWithin unit (nearest (nanos / nanosPerSecond) 1).value
      ((nanos / nanosPerSecond : Nat) / (1 : Nat)) :=
    isWithin_nearest (by decide) (hnormal (by decide) (by norm_num))
  have hfraction : IsWithin unit (nearest (nanos % nanosPerSecond) nanosPerSecond).value
      ((nanos % nanosPerSecond : Nat) / (nanosPerSecond : Nat)) :=
    isWithin_nearest (by decide) (hnormal (by decide) (by norm_num [nanosPerSecond]))
  -- the seconds and the fraction of one make up the duration
  have hseconds : ((nanos / nanosPerSecond : Nat) / (1 : Nat) : ℚ) +
      (nanos % nanosPerSecond : Nat) / (nanosPerSecond : Nat) = nanos / 1000000000 := by
    have hdiv : (nanosPerSecond * (nanos / nanosPerSecond : Nat) +
        (nanos % nanosPerSecond : Nat) : ℚ) = nanos := by
      exact_mod_cast Nat.div_add_mod nanos nanosPerSecond
    rw [← hdiv]
    norm_num [nanosPerSecond]
    ring
  have hparts := hwhole.add hfraction
  rw [hseconds] at hparts
  have hsum := (isWithin_add (isNormal_of_isWithin hparts (by norm_num [unit])
    (two_le_of_nanos nanos rfl (by norm_num) (by norm_num)))).trans hparts (le_of_lt hunit)
  have hscaled := hsum.mul_right (c := 1000) (by norm_num)
  have hthousand : (nearest 1000 1).value = 1000 := value_nearest_one (by decide) (by decide)
  have hmul := isWithin_mul (x := (nearest (nanos / nanosPerSecond) 1).add
    (nearest (nanos % nanosPerSecond) nanosPerSecond)) (y := nearest 1000 1) (by
      rw [hthousand]
      exact isNormal_of_isWithin hscaled (by norm_num [unit]) fun h =>
        two_le_of_nanos nanos (c := 1000000) (by ring) (by norm_num) (by norm_num) h)
  rw [hthousand] at hmul
  have hall := hmul.trans hscaled (le_of_lt hunit)
  have hnonneg : (0 : ℚ) ≤ nanos / 1000000 := by positivity
  rw [show (nanos : ℚ) / 1000000000 * 1000 = nanos / 1000000 by ring] at hall
  exact hall.mono (by norm_num [unit]) hnonneg

end

/-- What is shown of a duration is rounded to the nearest. -/
theorem roundsTo_hundredths (nanos : Nat) : RoundsTo nanos (hundredths nanos) := by
  have hwithin := isWithin_computed nanos
  have hround := Binary64.abs_roundDiv_sub_le (100 * (computed nanos).ratio.1)
    (Binary64.snd_ratio_pos (computed nanos))
  have hvalue : ((100 * (computed nanos).ratio.1 : Nat) : ℚ) / (computed nanos).ratio.2 =
      100 * (computed nanos).value := by
    rw [Binary64.value]
    push_cast
    ring
  rw [hvalue] at hround
  change |(hundredths nanos : ℚ) - _| ≤ _ at hround
  rw [Binary64.IsWithin, Binary64.unit] at hwithin
  rw [abs_le] at hwithin hround
  have hle : (2 ^ 51 * (10000 * hundredths nanos) : ℚ) ≤ 2 ^ 51 * (nanos + 5000) + nanos := by
    linarith [hwithin.2, hround.2]
  have hge : (2 ^ 51 * nanos : ℚ) ≤ 2 ^ 51 * (10000 * hundredths nanos + 5000) + nanos := by
    linarith [hwithin.1, hround.1]
  have hle : 2 ^ 51 * (10000 * hundredths nanos) ≤ 2 ^ 51 * (nanos + 5000) + nanos := by exact_mod_cast hle
  have hge : 2 ^ 51 * nanos ≤ 2 ^ 51 * (10000 * hundredths nanos + 5000) + nanos := by exact_mod_cast hge
  constructor <;> omega

/-- Whole hundredths are shown as they are. -/
theorem RoundsTo.eq {n m : Nat} (h : RoundsTo (10000 * n) m) (hlimit : 10000 * n < 2 ^ 51) : m = n := by
  obtain ⟨hle, hge⟩ := h
  omega

/-- Rounding keeps the order. -/
theorem hundredths_le {nanos nanos' : Nat} (h : nanos ≤ nanos') (hlimit : nanos' < 2 ^ 51) :
    hundredths nanos ≤ hundredths nanos' := by
  obtain ⟨hle, -⟩ := roundsTo_hundredths nanos
  obtain ⟨-, hge⟩ := roundsTo_hundredths nanos'
  rcases Nat.lt_or_eq_of_le h with hlt | rfl
  · omega
  · exact Nat.le_refl _

end Summary
end RecipeDiag
