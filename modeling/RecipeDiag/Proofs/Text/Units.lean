import RecipeDiag.Text.Position

/-!
# UTF-16 units of a text

Offsets count units, and a character outside the basic plane has two of them. `IsBoundary` says that
an offset falls between two characters; there `takeUnits` cuts a text exactly
(`takeUnits_size_append`). `utf16` gives the units themselves. A run of units that spell characters
is found in a text only where these characters stand (`exists_split_of_utf16_prefix`), since no
character begins with the second unit of another.
-/

namespace RecipeDiag.Text
variable {c d : Char} {pre mid post text : List Char} {n k : Nat}

/-! ### Sizes -/

theorem units_pos (c : Char) : 0 < units c := by
  unfold units
  split <;> omega

@[simp] theorem size_append (a b : List Char) : size (a ++ b) = size a + size b := by
  induction a with
  | nil => simp [size]
  | cons c cs ih => simp only [List.cons_append, size, ih]; omega

theorem length_le_size (text : List Char) : text.length ≤ size text := by
  induction text with
  | nil => simp [size]
  | cons c cs ih =>
    have := units_pos c
    simp only [List.length_cons, size]
    omega

@[simp] theorem takeUnits_zero (text : List Char) : takeUnits 0 text = [] := by
  cases text <;> rfl

theorem takeUnits_cons (hn : 0 < n) : takeUnits n (c :: post) = c :: takeUnits (n - units c) post := by
  cases n with
  | zero => omega
  | succ n => rfl

/-- Between two characters a text is cut exactly. -/
theorem takeUnits_size_append (pre post : List Char) : takeUnits (size pre) (pre ++ post) = pre := by
  induction pre with
  | nil => exact takeUnits_zero post
  | cons c cs ih =>
    have := units_pos c
    rw [List.cons_append, size, takeUnits_cons (by omega), Nat.add_sub_cancel_left, ih]

theorem takeUnits_prefix (n : Nat) (text : List Char) : takeUnits n text <+: text := by
  induction text generalizing n with
  | nil => cases n <;> exact List.nil_prefix
  | cons c cs ih =>
    cases n with
    | zero => exact List.nil_prefix
    | succ n => exact List.cons_prefix_cons.2 ⟨rfl, ih _⟩

theorem size_le_of_prefix (h : pre <+: text) : size pre ≤ size text := by
  obtain ⟨post, rfl⟩ := h
  rw [size_append]
  omega

theorem size_takeUnits_le (n : Nat) (text : List Char) : size (takeUnits n text) ≤ size text :=
  size_le_of_prefix <| takeUnits_prefix n text

/-- The offset falls between two characters, or at an end of the text. -/
def IsBoundary (text : List Char) (n : Nat) : Prop := ∃ pre post, text = pre ++ post ∧ size pre = n

/-- Two cuts of a text enclose a stretch of it. -/
theorem exists_split_of_isBoundary {m : Nat} (hm : IsBoundary text m) (hn : IsBoundary text n)
    (h : m ≤ n) : ∃ pre mid post, text = pre ++ mid ++ post ∧ size pre = m ∧ size (pre ++ mid) = n := by
  obtain ⟨pre, rest, rfl, rfl⟩ := hm
  obtain ⟨pre', post, he, rfl⟩ := hn
  rcases List.append_eq_append_iff.1 he with ⟨mid, rfl, rfl⟩ | ⟨mid, rfl, rfl⟩
  · exact ⟨pre, mid, post, by simp, rfl, rfl⟩
  · -- the second cut is not before the first, so nothing lies between them
    have hmid : mid = [] := by
      have := length_le_size mid
      rw [size_append] at h
      exact List.eq_nil_of_length_eq_zero (by omega)
    subst hmid
    exact ⟨pre', [], rest, by simp, by simp, by simp⟩

/-! ### Units -/

/-- The units of a character, a surrogate pair outside the basic plane. -/
def codeUnits (c : Char) : List Nat :=
  if c.toNat < 0x10000 then [c.toNat]
  else [0xD800 + (c.toNat - 0x10000) / 0x400, 0xDC00 + (c.toNat - 0x10000) % 0x400]

/-- The units of a text. -/
def utf16 (text : List Char) : List Nat := text.flatMap codeUnits

@[simp] theorem utf16_nil : utf16 [] = [] := rfl

@[simp] theorem utf16_cons : utf16 (c :: text) = codeUnits c ++ utf16 text := rfl

@[simp] theorem utf16_append (a b : List Char) : utf16 (a ++ b) = utf16 a ++ utf16 b :=
  List.flatMap_append

theorem length_codeUnits (c : Char) : (codeUnits c).length = units c := by
  unfold codeUnits units
  split <;> rfl

@[simp] theorem length_utf16 (text : List Char) : (utf16 text).length = size text := by
  induction text with
  | nil => rfl
  | cons c cs ih => simp [size, length_codeUnits, ih]

theorem toNat_valid (c : Char) : c.toNat < 0xD800 ∨ (0xDFFF < c.toNat ∧ c.toNat < 0x110000) := c.valid

/-- The first unit of a character is no second half of a surrogate pair. -/
theorem exists_codeUnits_eq_cons (c : Char) :
    ∃ x xs, codeUnits c = x :: xs ∧ (x < 0xDC00 ∨ 0xDFFF < x) := by
  have hc := toNat_valid c
  unfold codeUnits
  split
  · exact ⟨_, _, rfl, by omega⟩
  · exact ⟨_, _, rfl, by omega⟩

/-- Inside a character stands the second half of a surrogate pair. -/
theorem exists_drop_codeUnits (hk : 0 < k) (h : k < units c) :
    ∃ y, (codeUnits c).drop k = [y] ∧ 0xDC00 ≤ y ∧ y ≤ 0xDFFF := by
  unfold units at h
  split at h
  · omega
  · next hbig =>
    have hk' : k = 1 := by omega
    subst hk'
    exact ⟨_, by rw [codeUnits, if_neg hbig]; rfl, by omega, by omega⟩

/-- The units of a character tell where it ends and which it is. -/
theorem codeUnits_append_prefix {xs ys : List Nat} (h : codeUnits c ++ xs <+: codeUnits d ++ ys) :
    c = d ∧ xs <+: ys := by
  have hc := toNat_valid c
  have hd := toNat_valid d
  unfold codeUnits at h
  split at h <;> split at h <;>
    simp only [List.cons_append, List.nil_append, List.cons_prefix_cons] at h
  · exact ⟨Char.toNat_inj.1 h.1, h.2⟩
  · omega
  · omega
  · exact ⟨Char.toNat_inj.1 (by omega), h.2.2⟩

theorem exists_append_of_utf16_prefix (h : utf16 mid <+: utf16 text) : ∃ post, text = mid ++ post := by
  induction mid generalizing text with
  | nil => exact ⟨text, rfl⟩
  | cons c cs ih =>
    cases text with
    | nil =>
      obtain ⟨x, xs, hx, -⟩ := exists_codeUnits_eq_cons c
      simp [hx] at h
    | cons d ds =>
      obtain ⟨rfl, hrest⟩ := codeUnits_append_prefix h
      obtain ⟨post, rfl⟩ := ih hrest
      exact ⟨post, rfl⟩

/-- Where the units of some characters stand in a text, these characters stand. -/
theorem exists_split_of_utf16_prefix (hne : mid ≠ []) (h : utf16 mid <+: (utf16 text).drop k) :
    ∃ pre post, text = pre ++ mid ++ post ∧ size pre = k := by
  obtain ⟨m, ms, rfl⟩ := List.exists_cons_of_ne_nil hne
  obtain ⟨x, xs, hx, hlow⟩ := exists_codeUnits_eq_cons m
  induction text generalizing k with
  | nil => simp [hx] at h
  | cons c cs ih =>
    rcases Nat.eq_zero_or_pos k with rfl | hk
    · obtain ⟨post, hpost⟩ := exists_append_of_utf16_prefix h
      exact ⟨[], post, hpost, rfl⟩
    have hdrop : (utf16 (c :: cs)).drop k = (codeUnits c).drop k ++ (utf16 cs).drop (k - units c) := by
      rw [utf16_cons, List.drop_append, length_codeUnits]
    rw [hdrop] at h
    by_cases hc : units c ≤ k
    · rw [List.drop_eq_nil_of_le (by rw [length_codeUnits]; exact hc), List.nil_append] at h
      obtain ⟨pre, post, hcs, hpre⟩ := ih h
      exact ⟨c :: pre, post, by rw [hcs]; rfl, by rw [size, hpre]; omega⟩
    · -- the run would begin inside a surrogate pair
      obtain ⟨y, hy, hlo, hhi⟩ := exists_drop_codeUnits hk (Nat.lt_of_not_le hc)
      rw [hy, utf16_cons, hx, List.cons_append, List.cons_append, List.cons_prefix_cons] at h
      omega

end RecipeDiag.Text
