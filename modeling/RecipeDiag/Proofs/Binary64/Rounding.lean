import RecipeDiag.Binary64.Basic

/-!
# The whole part of a rounded quotient

A quotient that is not too great is rounded to 53 bits, so what is rounded off or added is less than a half in
the last of them (`le_roundDiv`, `roundDiv_le`). Its whole part stays below a number that the quotient does not
come near to (`floor_nearest_lt`), and reaches one that the quotient all but reaches (`le_floor_nearest`). Whole
numbers of at most 52 bits are not changed (`ratio_nearest_one`).
-/

namespace RecipeDiag

namespace Binary64
variable {num den m k : Nat} {e : Int}

/-! ### Rounding to whole numbers -/

theorem roundDiv_one (n : Nat) : roundDiv n 1 = n := by
  simp [roundDiv, Nat.mod_one]

/-- Rounding adds at most a half. -/
theorem roundDiv_le (num den : Nat) : 2 * (den * roundDiv num den) ≤ 2 * num + den := by
  have hdiv := Nat.div_add_mod num den
  have hsucc : den * (num / den + 1) = den * (num / den) + den := Nat.mul_succ ..
  have heven : den * (num / den + num / den % 2) ≤ den * (num / den + 1) := by
    apply Nat.mul_le_mul_left
    omega
  simp only [roundDiv]
  split
  · omega
  · split <;> omega

/-- Rounding takes away at most a half. -/
theorem le_roundDiv (hden : 0 < den) (h : 2 * (den * m) < 2 * num + den) : m ≤ roundDiv num den := by
  have hdiv := Nat.div_add_mod num den
  have hmod := Nat.mod_lt num hden
  simp only [roundDiv]
  by_cases hup : den < 2 * (num % den)
  · have hlt : den * m < den * (num / den + 2) := by
      rw [Nat.mul_add]
      omega
    have hm := Nat.lt_of_mul_lt_mul_left hlt
    rw [if_neg (by omega), if_pos hup]
    omega
  · have hlt : den * m < den * (num / den + 1) := by
      rw [Nat.mul_add]
      omega
    have hm := Nat.lt_of_mul_lt_mul_left hlt
    rw [if_neg hup]
    split <;> omega

/-! ### Numbers with an exponent below zero -/

theorem scaled_of_neg (h : e < 0) : scaled num den e = (num * Nat.pow 2 (-e).toNat, den) := by
  rw [scaled, if_neg (Int.not_le.2 h)]

theorem ratio_of_nonpos (h : e ≤ 0) : ratio ⟨m, e⟩ = (m, Nat.pow 2 (-e).toNat) := by
  rw [ratio, scaled, if_pos (Int.neg_nonneg_of_nonpos h), Nat.one_mul]

theorem log2_le (h : num < den * Nat.pow 2 k) : num.log2 ≤ den.log2 + k := by
  rcases Nat.eq_zero_or_pos num with rfl | hnum
  · simp
  · have hlt : den < Nat.pow 2 (den.log2 + 1) := Nat.lt_log2_self
    have hpow : Nat.pow 2 (den.log2 + 1 + k) = Nat.pow 2 (den.log2 + 1) * Nat.pow 2 k := Nat.pow_add ..
    have hle : den * Nat.pow 2 k ≤ Nat.pow 2 (den.log2 + 1 + k) := by
      rw [hpow]
      exact Nat.mul_le_mul_right _ (Nat.le_of_lt hlt)
    have hlog : num.log2 < den.log2 + 1 + k :=
      (Nat.log2_lt (Nat.ne_of_gt hnum)).2 (Nat.lt_of_lt_of_le h hle)
    omega

theorem exponentOf_le (h : num < den * Nat.pow 2 k) :
    exponentOf num den ≤ max minExponent (k - 52) := by
  have hlog := log2_le h
  simp only [exponentOf]
  split <;> omega

/-- The whole part of a rounded quotient, as its mantissa is moved up by the exponent and down again. -/
theorem floor_nearest (hnum : num ≠ 0) (he : exponentOf num den < 0) : (nearest num den).floor =
    roundDiv (num * Nat.pow 2 (-exponentOf num den).toNat) den /
      Nat.pow 2 (-exponentOf num den).toNat := by
  simp only [nearest, if_neg hnum, scaled_of_neg he]
  generalize exponentOf num den = e at he
  generalize roundDiv (num * Nat.pow 2 (-e).toNat) den = m
  split
  · next hm =>
    rw [hm, Nat.zero_div]
    rfl
  · split
    · next hm =>
      have hexp : (-e).toNat = (-(e + 1)).toNat + 1 := by omega
      have hpow : Nat.pow 2 (-e).toNat = 2 * Nat.pow 2 (-(e + 1)).toNat := by
        rw [hexp]
        exact Nat.mul_comm ..
      rw [hm, hpow, Nat.mul_div_mul_left _ _ (by decide), floor, ratio_of_nonpos (by omega)]
    · rw [floor, ratio_of_nonpos (by omega)]

/-- The whole part of a rounded quotient stays below a number that is greater by a thirty-second. -/
theorem floor_nearest_lt (hden : den ≠ 0) (hk : 0 < k) (hlimit : k ≤ Nat.pow 2 32)
    (h : 32 * num + den ≤ 32 * (den * k)) : (nearest num den).floor < k := by
  by_cases hnum : num = 0
  · rw [nearest, if_pos hnum]
    exact hk
  · have hmul : den * k ≤ den * Nat.pow 2 32 := Nat.mul_le_mul_left _ hlimit
    have he : exponentOf num den ≤ -20 := exponentOf_le (Nat.lt_of_lt_of_le (by omega) hmul)
    rw [floor_nearest hnum (by omega)]
    -- so the last place is below one part in 2 ^ 20, and half of it does not reach the number
    obtain ⟨i, hi⟩ : ∃ i, (-exponentOf num den).toNat = i + 20 := by
      refine ⟨(-exponentOf num den).toNat - 20, ?_⟩
      omega
    have hpow : Nat.pow 2 (i + 20) = Nat.pow 2 i * 1048576 := Nat.pow_add ..
    have hone : 0 < Nat.pow 2 i := Nat.two_pow_pos i
    rw [hi, hpow]
    generalize hp : Nat.pow 2 i * 1048576 = p
    have hp : 1048576 ≤ p := by omega
    have hround := roundDiv_le (num * p) den
    generalize roundDiv (num * p) den = m at hround
    rw [Nat.div_lt_iff_lt_mul (by omega)]
    apply Nat.lt_of_not_le
    intro hle
    have hscaled : 32 * (num * p) + den * p ≤ 32 * (den * (k * p)) := by
      have hmul := Nat.mul_le_mul_right p h
      simp only [Nat.add_mul, Nat.mul_assoc] at hmul
      exact hmul
    have hlarge : den * 1048576 ≤ den * p := Nat.mul_le_mul_left _ hp
    have hmantissa : den * (k * p) ≤ den * m := Nat.mul_le_mul_left _ hle
    omega

/-- Moved up by the exponent, a quotient that is not too great has at most 53 bits. -/
theorem mul_pow_exponentOf_lt (hden : den ≠ 0) (hk : k < 52) (h : num < den * Nat.pow 2 k) :
    num * Nat.pow 2 (-exponentOf num den).toNat < den * (2 * leastNormal) := by
  have hlog := log2_le h
  obtain ⟨i, hi⟩ : ∃ i, den.log2 + 52 = num.log2 + i := ⟨_, (Nat.add_sub_cancel' (by omega)).symm⟩
  have hneg : -(i : Int) < 0 := by omega
  have hguess : (num.log2 : Int) - den.log2 - 52 = -i := by omega
  have hsign : (- -(i : Int)).toNat = i := by omega
  -- a smaller power would do as well
  have of_le {j : Nat} (n : Nat) (hj : j ≤ n) (hlt : num * Nat.pow 2 n < den * (2 * leastNormal)) :
      num * Nat.pow 2 j < den * (2 * leastNormal) :=
    Nat.lt_of_le_of_lt (Nat.mul_le_mul_left _ (Nat.pow_le_pow_right (by decide) hj)) hlt
  simp only [exponentOf, hguess, scaled_of_neg hneg, hsign]
  split
  · next hlt =>
    -- the guess left one bit free
    refine of_le (i + 1) (by omega) ?_
    have hpow : Nat.pow 2 (i + 1) = Nat.pow 2 i * 2 := Nat.pow_succ ..
    rw [hpow, ← Nat.mul_assoc, Nat.mul_left_comm den, Nat.mul_comm den]
    omega
  · refine of_le i (by omega) ?_
    have hnum : num < Nat.pow 2 (num.log2 + 1) := Nat.lt_log2_self
    have hpow : Nat.pow 2 (num.log2 + 1) * Nat.pow 2 i = Nat.pow 2 den.log2 * (2 * leastNormal) := by
      have hleft : Nat.pow 2 (num.log2 + 1 + i) = Nat.pow 2 (num.log2 + 1) * Nat.pow 2 i := Nat.pow_add ..
      have hright : Nat.pow 2 (den.log2 + 53) = Nat.pow 2 den.log2 * Nat.pow 2 53 := Nat.pow_add ..
      rw [← hleft, show num.log2 + 1 + i = den.log2 + 53 by omega, hright]
      rfl
    calc num * Nat.pow 2 i
        < Nat.pow 2 (num.log2 + 1) * Nat.pow 2 i := Nat.mul_lt_mul_of_pos_right hnum (Nat.two_pow_pos i)
      _ = Nat.pow 2 den.log2 * (2 * leastNormal) := hpow
      _ ≤ den * (2 * leastNormal) := Nat.mul_le_mul_right _ (Nat.log2_self_le hden)

/-- The whole part of a rounded quotient reaches a number that the quotient misses by at most one part in
2 ^ 54 of itself. -/
theorem le_floor_nearest (hden : 0 < den) (hlimit : num < den * Nat.pow 2 32)
    (h : 0x40000000000000 * (den * k) ≤ 0x40000000000001 * num) : k ≤ (nearest num den).floor := by
  by_cases hnum : num = 0
  · have hk : den * k = 0 := by omega
    rcases Nat.mul_eq_zero.1 hk with hzero | hzero
    · omega
    · omega
  · have he : exponentOf num den ≤ -20 := exponentOf_le hlimit
    have hmantissa := mul_pow_exponentOf_lt (Nat.ne_of_gt hden) (by decide) hlimit
    rw [floor_nearest hnum (by omega)]
    generalize (-exponentOf num den).toNat = i at hmantissa
    have hpow : 0 < Nat.pow 2 i := Nat.two_pow_pos i
    generalize Nat.pow 2 i = p at hmantissa hpow
    rw [Nat.le_div_iff_mul_le hpow]
    -- what is missing is less than a half in the last place
    refine le_roundDiv hden ?_
    have hscaled : 0x40000000000000 * (den * (k * p)) ≤ 0x40000000000001 * (num * p) := by
      have hmul := Nat.mul_le_mul_right p h
      simp only [Nat.mul_assoc] at hmul
      exact hmul
    rw [leastNormal] at hmantissa
    omega

/-- A whole number that is not too great is in the format as it is. -/
theorem ratio_nearest_one {n : Nat} (h0 : 0 < n) (h : n < Nat.pow 2 52) :
    ∃ p, 0 < p ∧ (nearest n 1).ratio = (n * p, p) := by
  have hn : n ≠ 0 := Nat.ne_of_gt h0
  have hlog : n.log2 < 52 := (Nat.log2_lt hn).2 h
  obtain ⟨i, hi⟩ : ∃ i, 52 = n.log2 + i := ⟨_, (Nat.add_sub_cancel' (Nat.le_of_lt hlog)).symm⟩
  have hpow : Nat.pow 2 n.log2 * Nat.pow 2 i = leastNormal := by
    have hadd : Nat.pow 2 (n.log2 + i) = Nat.pow 2 n.log2 * Nat.pow 2 i := Nat.pow_add ..
    rw [← hadd, ← hi]
    rfl
  -- moved up by the exponent the number has 53 bits
  have hleast : leastNormal ≤ n * Nat.pow 2 i := hpow ▸ Nat.mul_le_mul_right _ (Nat.log2_self_le hn)
  have hmost : n * Nat.pow 2 i < 2 * leastNormal := by
    have hlt : n < Nat.pow 2 n.log2 * 2 := Nat.lt_log2_self
    have hmul := Nat.mul_lt_mul_of_pos_right hlt (Nat.two_pow_pos i)
    rw [← hpow, Nat.mul_comm 2, Nat.mul_right_comm]
    exact hmul
  have hpos : 0 < leastNormal := by decide
  have hsign : (- -(i : Int)).toNat = i := by omega
  have he : exponentOf n 1 = -i := by
    have hlog1 : Nat.log2 1 = 0 := rfl
    have hguess : (n.log2 : Int) - (Nat.log2 1 : Nat) - 52 = -i := by omega
    simp only [exponentOf, hguess, scaled_of_neg (show -(i : Int) < 0 by omega), hsign]
    rw [if_neg (by omega), minExponent]
    omega
  refine ⟨Nat.pow 2 i, Nat.two_pow_pos i, ?_⟩
  simp only [nearest, if_neg hn, he, scaled_of_neg (show -(i : Int) < 0 by omega), hsign, roundDiv_one]
  rw [if_neg (by omega), if_neg (by omega), ratio_of_nonpos (by omega), hsign]

end Binary64

end RecipeDiag
