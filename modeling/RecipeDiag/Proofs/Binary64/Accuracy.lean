import Mathlib.Algebra.Order.Field.Power
import Mathlib.Data.Rat.Cast.Order
import Mathlib.Tactic.Linarith
import Mathlib.Tactic.Positivity
import Mathlib.Tactic.FieldSimp
import Mathlib.Tactic.Ring
import Mathlib.Tactic.NormNum
import RecipeDiag.Proofs.Binary64.Rounding

/-!
# How far a computed number is off

A number of the format stands for a rational (`value`). What is not too near to zero is rounded to the nearest
number with 53 bits, so it is off by at most one part in 2 ^ 53 of itself (`isWithin_nearest`), and so is every
sum and every product of numbers of the format (`isWithin_add`, `isWithin_mul`).
-/

namespace RecipeDiag.Binary64
variable {num den m n k : Nat} {e : Int} {x y : Binary64}

/-- The number that is meant. -/
def value (x : Binary64) : ℚ := x.ratio.1 / x.ratio.2

/-! ### Quotients and powers of two -/

theorem scaled_eq (num den : Nat) (e : Int) :
    ((scaled num den e).1 : ℚ) / (scaled num den e).2 = num / den / 2 ^ e := by
  rw [scaled]
  split
  · next h =>
    obtain ⟨i, rfl⟩ := Int.eq_ofNat_of_zero_le h
    simp [div_div]
  · next h =>
    obtain ⟨i, hi⟩ := Int.eq_ofNat_of_zero_le (Int.le_of_lt (Int.neg_pos_of_neg (Int.not_le.1 h)))
    obtain rfl : e = -i := by omega
    simp
    ring

theorem snd_scaled_pos (num : Nat) (e : Int) (h : 0 < den) : 0 < (scaled num den e).2 := by
  rw [scaled]
  split
  · exact Nat.mul_pos h (Nat.two_pow_pos _)
  · exact h

theorem snd_ratio_pos (x : Binary64) : 0 < x.ratio.2 := snd_scaled_pos _ _ Nat.one_pos

theorem value_mk (m : Nat) (e : Int) : value ⟨m, e⟩ = m * 2 ^ e := by
  rw [value, ratio, scaled_eq, zpow_neg]
  simp

/-- A quotient is rounded to a whole number that is off by at most a half. -/
theorem abs_roundDiv_sub_le (num : Nat) (hden : 0 < den) : |(roundDiv num den : ℚ) - num / den| ≤ 1 / 2 := by
  have hpos : (0 : ℚ) < den := by exact_mod_cast hden
  have hup : 2 * ((den : ℚ) * roundDiv num den) ≤ 2 * num + den := by exact_mod_cast roundDiv_le num den
  have hdown : 2 * (num : ℚ) ≤ 2 * (den * roundDiv num den) + den := by
    have hno : ¬ 2 * (den * (roundDiv num den + 1)) < 2 * num + den := fun hlt =>
      absurd (le_roundDiv hden hlt) (Nat.not_succ_le_self _)
    have hle : 2 * num ≤ 2 * (den * roundDiv num den) + den := by
      rw [Nat.mul_add] at hno
      omega
    exact_mod_cast hle
  rw [abs_le]
  constructor
  · rw [neg_le_sub_iff_le_add, div_le_iff₀ hpos]
    linarith
  · rw [sub_le_iff_le_add, ← sub_le_iff_le_add', le_div_iff₀ hpos]
    linarith

/-! ### Normal numbers -/

theorem two_zpow_log2_le (h : n ≠ 0) : (2 : ℚ) ^ (n.log2 : Int) ≤ n := by
  rw [zpow_natCast]
  exact_mod_cast Nat.log2_self_le h

theorem lt_two_zpow_log2 (n : Nat) : (n : ℚ) < 2 ^ ((n.log2 : Int) + 1) := by
  have h : n < 2 ^ (n.log2 + 1) := Nat.lt_log2_self
  exact_mod_cast h

/-- The logarithms tell a quotient up to a factor of two. -/
theorem two_zpow_lt_div (hnum : num ≠ 0) (hden : 0 < den) :
    (2 : ℚ) ^ ((num.log2 : Int) - den.log2 - 1) < num / den := by
  have hpos : (0 : ℚ) < den := by exact_mod_cast hden
  rw [lt_div_iff₀ hpos]
  calc (2 : ℚ) ^ ((num.log2 : Int) - den.log2 - 1) * den
      < 2 ^ ((num.log2 : Int) - den.log2 - 1) * 2 ^ ((den.log2 : Int) + 1) := by
        gcongr
        exact lt_two_zpow_log2 den
    _ = 2 ^ (num.log2 : Int) := by
        rw [← zpow_add₀ (by norm_num)]
        congr 1
        omega
    _ ≤ num := two_zpow_log2_le hnum

theorem div_lt_two_zpow (num : Nat) (hden : 0 < den) :
    (num : ℚ) / den < 2 ^ ((num.log2 : Int) - den.log2 + 1) := by
  have hpos : (0 : ℚ) < den := by exact_mod_cast hden
  rw [div_lt_iff₀ hpos]
  calc (num : ℚ) < 2 ^ ((num.log2 : Int) + 1) := lt_two_zpow_log2 num
    _ = 2 ^ ((num.log2 : Int) - den.log2 + 1) * 2 ^ (den.log2 : Int) := by
        rw [← zpow_add₀ (by norm_num)]
        congr 1
        omega
    _ ≤ 2 ^ ((num.log2 : Int) - den.log2 + 1) * den := by
        gcongr
        exact two_zpow_log2_le (Nat.ne_of_gt hden)

/-- A quotient that is not too near to zero has an exponent above the least. -/
theorem lt_log2_sub_log2 (hden : 0 < den) (hnormal : (1 : ℚ) ≤ num / den * 2 ^ (200 : Int)) :
    (-201 : Int) < num.log2 - den.log2 := by
  by_contra hle
  have hsmall : (2 : ℚ) ^ ((num.log2 : Int) - den.log2 + 1) ≤ 2 ^ (-200 : Int) :=
    zpow_le_zpow_right₀ (by norm_num) (by omega)
  have hlt : (num : ℚ) / den * 2 ^ (200 : Int) < 1 := by
    calc (num : ℚ) / den * 2 ^ (200 : Int) < 2 ^ (-200 : Int) * 2 ^ (200 : Int) := by
          gcongr
          exact lt_of_lt_of_le (div_lt_two_zpow num hden) hsmall
      _ = 1 := by
          rw [← zpow_add₀ (by norm_num)]
          simp
  exact absurd hnormal (not_le.2 hlt)

/-- It is moved up to 53 bits. -/
theorem leastNormal_le_scaled (hnum : num ≠ 0) (hden : 0 < den)
    (hnormal : (1 : ℚ) ≤ num / den * 2 ^ (200 : Int)) :
    (leastNormal : ℚ) ≤ num / den / 2 ^ exponentOf num den := by
  have hleast : (leastNormal : ℚ) = 2 ^ (52 : Int) := by norm_num [leastNormal]
  have hexp := lt_log2_sub_log2 hden hnormal
  have hn := scaled_eq num den (num.log2 - den.log2 - 52)
  have hd : (0 : ℚ) < (scaled num den (num.log2 - den.log2 - 52)).2 := by
    exact_mod_cast snd_scaled_pos num _ hden
  simp only [exponentOf, minExponent]
  split
  · next hlt =>
    -- the guess left one bit free
    rw [max_eq_right (by omega), le_div_iff₀ (by positivity), hleast, ← zpow_add₀ (by norm_num)]
    refine le_of_eq_of_le ?_ (le_of_lt (two_zpow_lt_div hnum hden))
    congr 1
    omega
  · next hge =>
    rw [max_eq_right (by omega), ← hn, le_div_iff₀ hd]
    exact_mod_cast Nat.not_lt.1 hge

/-! ### Rounding -/

/-- The greatest part of itself that a number is off by when it is rounded. -/
def unit : ℚ := 1 / 2 ^ 53

/-- A value is off by at most some part of what it stands for. -/
def IsWithin (part v q : ℚ) : Prop := |v - q| ≤ part * q

namespace IsWithin
variable {part part' v v' q q' w c : ℚ}

theorem add (h : IsWithin part v q) (h' : IsWithin part v' q') : IsWithin part (v + v') (q + q') := by
  have habs := abs_add_le (v - q) (v' - q')
  rw [IsWithin] at h h' ⊢
  rw [show v + v' - (q + q') = v - q + (v' - q') by ring]
  linarith

theorem mul_right (h : IsWithin part v q) (hc : 0 ≤ c) : IsWithin part (v * c) (q * c) := by
  rw [IsWithin] at h ⊢
  rw [← sub_mul, abs_mul, abs_of_nonneg hc, ← mul_assoc]
  exact mul_le_mul_of_nonneg_right h hc

theorem mono (h : IsWithin part v q) (hle : part ≤ part') (hq : 0 ≤ q) : IsWithin part' v q :=
  h.trans (mul_le_mul_of_nonneg_right hle hq)

/-- What is off twice. -/
theorem trans (h : IsWithin part w v) (h' : IsWithin part' v q) (hpart : 0 ≤ part) :
    IsWithin (part + part' + part * part') w q := by
  rw [IsWithin] at h h' ⊢
  have habs := abs_sub_le w v q
  have hv : v ≤ q + part' * q := by linarith [(abs_le.1 h').2]
  have hmul := mul_le_mul_of_nonneg_left hv hpart
  linarith

end IsWithin

theorem value_nearest (hnum : num ≠ 0) : (nearest num den).value =
    roundDiv (scaled num den (exponentOf num den)).1 (scaled num den (exponentOf num den)).2 *
      2 ^ exponentOf num den := by
  simp only [nearest, if_neg hnum]
  split
  · next hm =>
    rw [hm, zero, value_mk]
    simp
  · split
    · next hm =>
      rw [hm, value_mk, zpow_add₀ (by norm_num)]
      push_cast
      ring
    · rw [value_mk]

/-- The number is zero or not too near to it. -/
def IsNormal (q : ℚ) : Prop := q ≠ 0 → 1 ≤ q * 2 ^ (200 : Int)

/-- A quotient is rounded to a number that is off by at most one part in 2 ^ 53 of it. -/
theorem isWithin_nearest (hden : 0 < den) (hnormal : IsNormal (num / den)) :
    IsWithin unit (nearest num den).value (num / den) := by
  by_cases hnum : num = 0
  · subst hnum
    have hzero : (nearest 0 den).value = 0 := by simp [nearest, zero, value_mk]
    simp [IsWithin, hzero]
  · have hnumq : (num : ℚ) ≠ 0 := by exact_mod_cast hnum
    have hdenq : (den : ℚ) ≠ 0 := by exact_mod_cast Nat.ne_of_gt hden
    have hleast := leastNormal_le_scaled hnum hden (hnormal (div_ne_zero hnumq hdenq))
    have hround := abs_roundDiv_sub_le (scaled num den (exponentOf num den)).1
      (snd_scaled_pos num (exponentOf num den) hden)
    rw [value_nearest hnum]
    rw [scaled_eq] at hround
    generalize exponentOf num den = e at hleast hround ⊢
    have hpow : (0 : ℚ) < 2 ^ e := by positivity
    generalize (roundDiv (scaled num den e).1 (scaled num den e).2 : ℚ) = m at hround ⊢
    generalize hq : (num : ℚ) / den / 2 ^ e = q at hleast hround
    have hnd : (num : ℚ) / den = q * 2 ^ e := by
      rw [← hq]
      field_simp
    rw [IsWithin, hnd, ← sub_mul, abs_mul, abs_of_pos hpow, ← mul_assoc]
    refine mul_le_mul_of_nonneg_right (hround.trans ?_) (le_of_lt hpow)
    have hunit : (1 : ℚ) / 2 = unit * leastNormal := by norm_num [unit, leastNormal]
    rw [hunit]
    exact mul_le_mul_of_nonneg_left hleast (by norm_num [unit])

/-- What is off by little is not near to zero either. -/
theorem isNormal_of_isWithin {part v q : ℚ} (h : IsWithin part v q) (hpart : part ≤ 1 / 2)
    (hq : q ≠ 0 → 2 ≤ q * 2 ^ (200 : Int)) : IsNormal v := by
  rw [IsWithin, abs_le] at h
  intro hv
  by_cases hzero : q = 0
  · rw [hzero, mul_zero] at h
    exact absurd (by linarith) hv
  · have hlarge := hq hzero
    have hpow : (0 : ℚ) < 2 ^ (200 : Int) := by positivity
    have hpos : 0 < q := by
      by_contra hle
      have := mul_nonpos_of_nonpos_of_nonneg (not_lt.1 hle) (le_of_lt hpow)
      linarith
    have hhalf : part * q ≤ 1 / 2 * q := mul_le_mul_of_nonneg_right hpart (le_of_lt hpos)
    have hle : 1 / 2 * q ≤ v := by linarith
    have hmul := mul_le_mul_of_nonneg_right hle (le_of_lt hpow)
    linarith

theorem isWithin_add (h : IsNormal (x.value + y.value)) :
    IsWithin unit (x.add y).value (x.value + y.value) := by
  have hx : (x.ratio.2 : ℚ) ≠ 0 := by exact_mod_cast Nat.ne_of_gt (snd_ratio_pos x)
  have hy : (y.ratio.2 : ℚ) ≠ 0 := by exact_mod_cast Nat.ne_of_gt (snd_ratio_pos y)
  have hsum : ((x.ratio.1 * y.ratio.2 + y.ratio.1 * x.ratio.2 : Nat) : ℚ) /
      (x.ratio.2 * y.ratio.2 : Nat) = x.value + y.value := by
    simp only [value]
    push_cast
    field_simp
  rw [← hsum] at h ⊢
  exact isWithin_nearest (Nat.mul_pos (snd_ratio_pos x) (snd_ratio_pos y)) h

theorem isWithin_mul (h : IsNormal (x.value * y.value)) :
    IsWithin unit (x.mul y).value (x.value * y.value) := by
  have hproduct : ((x.ratio.1 * y.ratio.1 : Nat) : ℚ) / (x.ratio.2 * y.ratio.2 : Nat) = x.value * y.value := by
    simp only [value]
    push_cast
    exact mul_div_mul_comm ..
  rw [← hproduct] at h ⊢
  exact isWithin_nearest (Nat.mul_pos (snd_ratio_pos x) (snd_ratio_pos y)) h

/-- Whole numbers of at most 52 bits are what they are. -/
theorem value_nearest_one (h0 : 0 < n) (h : n < Nat.pow 2 52) : (nearest n 1).value = n := by
  obtain ⟨p, hp, hratio⟩ := ratio_nearest_one h0 h
  have hp : (p : ℚ) ≠ 0 := by exact_mod_cast Nat.ne_of_gt hp
  rw [value, hratio]
  push_cast
  field_simp

end RecipeDiag.Binary64
