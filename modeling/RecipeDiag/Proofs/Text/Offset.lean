import RecipeDiag.Proofs.Text.Units

/-!
# Offsets and positions

Going from an offset to its position and back gives the offset again
(`offsetAt_positionAt`), for texts whose lines and units a position can count. Two kinds of offsets
are excepted: those inside a character, and those in the run of carriage returns that ends a line
(`InLineEnd`), which all count as the end of the line's content.
-/

namespace RecipeDiag.Text
variable {l a b pre post text : List Char} {c : Char} {p : Position} {n : UInt32}

/-! ### Counting in words -/

theorem toNat_counter_add {k : Nat} (h : n.toNat + k < UInt32.size) :
    (n + UInt32.ofNat k).toNat = n.toNat + k := by
  have hk : (UInt32.ofNat k).toNat = k := UInt32.toNat_ofNat_of_lt' (by omega)
  rw [UInt32.toNat_add, hk]
  exact Nat.mod_eq_of_lt h

theorem toNat_offset_add {o : UInt64} {k : Nat} (h : o.toNat + k < UInt64.size) :
    (o + UInt64.ofNat k).toNat = o.toNat + k := by
  have hk : (UInt64.ofNat k).toNat = k := UInt64.toNat_ofNat_of_lt' (by omega)
  rw [UInt64.toNat_add, hk]
  exact Nat.mod_eq_of_lt h

theorem toNat_ofNat_add_ofNat {m k : Nat} (h : m + k < UInt64.size) :
    (UInt64.ofNat m + UInt64.ofNat k).toNat = m + k := by
  have hm : (UInt64.ofNat m).toNat = m := UInt64.toNat_ofNat_of_lt' (by omega)
  rw [toNat_offset_add (by rwa [hm]), hm]

theorem counters_after_le (h : p.line.toNat + p.character.toNat + units c < UInt32.size) :
    (after p c).line.toNat + (after p c).character.toNat ≤ p.line.toNat + p.character.toNat + units c := by
  have hunits := units_pos c
  unfold after
  split
  · have hline : (p.line + 1).toNat = p.line.toNat + 1 := toNat_counter_add (k := 1) (by omega)
    simp only [hline, UInt32.toNat_zero]
    omega
  · have hcharacter : (p.character + UInt32.ofNat (units c)).toNat = p.character.toNat + units c :=
      toNat_counter_add (by omega)
    simp only [hcharacter]
    omega

/-- A text has at least as many units as what its lines and the units of one of them add up to. -/
theorem hasRoomFor_of_lt (h : p.line.toNat + p.character.toNat + size text < UInt32.size) :
    hasRoomFor p text := by
  induction text generalizing p with
  | nil => rfl
  | cons c cs ih =>
    rw [size] at h
    have hunits := units_pos c
    have hafter := counters_after_le (p := p) (c := c) (by omega)
    have hroom : hasRoom p c := by
      unfold hasRoom
      split <;> exact decide_eq_true (by omega)
    rw [hasRoomFor, hroom, Bool.true_and]
    exact ih (by omega)

/-- In a text with less than 2^32 units every position can be counted. -/
theorem countPosition_eq (h : size text < UInt32.size) (n : Nat) :
    countPosition text n = pure (positionAt text n) := by
  have hle := size_takeUnits_le n text
  have hzero : Position.origin.line.toNat + Position.origin.character.toNat = 0 := rfl
  refine Reckoned.eq_pure_iff.2 ⟨rfl, hasRoomFor_of_lt ?_⟩
  omega

theorem offsetSum_eq {m n : UInt64} (h : m.toNat + n.toNat < UInt64.size) :
    Reckoned.offsetSum m n = pure (m + n) :=
  Reckoned.eq_pure_iff.2 ⟨rfl, decide_eq_true h⟩

/-! ### Lines -/

/-- A line is followed by the lines of what comes behind its line feed. -/
theorem lines_append_newline (h : '\n' ∉ l) :
    lines (l ++ '\n' :: post) = (l ++ ['\n']) :: lines post := by
  induction l with
  | nil => simp [lines]
  | cons c cs ih =>
    have hc := List.ne_of_not_mem_cons h
    have hcs := List.not_mem_of_not_mem_cons h
    simp only [List.cons_append, lines, if_neg (Ne.symm hc), ih hcs]

/-- What comes before the first line feed. -/
def lineRest (text : List Char) : List Char := text.takeWhile (· ≠ '\n')

theorem newline_not_mem_lineRest : '\n' ∉ lineRest text := by
  intro h
  have := List.all_eq_true.1 List.all_takeWhile _ h
  simp at this

theorem lineRest_append (hl : '\n' ∉ l) : lineRest (l ++ post) = l ++ lineRest post := by
  refine List.takeWhile_append_of_pos fun c hc => ?_
  have : c ≠ '\n' := fun hcn => hl (hcn ▸ hc)
  simpa using this

/-- The first line is what comes before the first line feed, with it if there is one. -/
theorem exists_lines_eq_cons (h : text ≠ []) :
    ∃ e ls, lines text = (lineRest text ++ e) :: ls ∧ ∀ c ∈ e, c = '\n' := by
  induction text with
  | nil => exact absurd rfl h
  | cons c cs ih =>
    by_cases hc : c = '\n'
    · subst hc
      exact ⟨['\n'], lines cs, by simp [lines, lineRest], by simp⟩
    · by_cases hcs : cs = []
      · subst hcs
        exact ⟨[], [], by simp [lines, lineRest, hc], by simp⟩
      · obtain ⟨e, ls, hls, he⟩ := ih hcs
        exact ⟨e, ls, by simp [lines, lineRest, hc, hls], he⟩

/-- What ends a line begins behind the last character of its content. -/
theorem exists_lineContent_append_cons (hc : isLineEnd c = false) :
    ∃ b', lineContent (a ++ c :: b) = a ++ c :: b' := by
  have hrev : (a ++ c :: b).reverse = b.reverse ++ c :: a.reverse := by simp
  rw [lineContent, hrev, List.dropWhile_append]
  split
  · exact ⟨[], by simp [hc]⟩
  · exact ⟨(b.reverse.dropWhile isLineEnd).reverse, by simp⟩

/-- What stands behind `pre` ends the line, and `pre` itself ends with a carriage return. -/
def InLineEnd (pre post : List Char) : Prop :=
  (∃ a, pre = a ++ ['\r']) ∧ ∀ c ∈ lineRest post, c = '\r'

/-- What comes before an offset belongs to the content of the line, unless the line ends there. -/
theorem size_le_size_lineContent (hl : '\n' ∉ l) (h : ¬ InLineEnd l post) (e : List Char) :
    size l ≤ size (lineContent (l ++ lineRest post ++ e)) := by
  have notEnd {c : Char} (hn : c ≠ '\n') (hr : c ≠ '\r') : isLineEnd c = false := by
    simp [isLineEnd, hn, hr]
  rcases List.eq_nil_or_concat l with rfl | ⟨a, x, rfl⟩
  · exact Nat.zero_le _
  rw [List.concat_eq_append] at *
  by_cases hx : x = '\r'
  · -- some character of the line's content follows
    have hmore : ¬ ∀ c ∈ lineRest post, c = '\r' := fun hall => h ⟨⟨a, by rw [hx]⟩, hall⟩
    obtain ⟨c, hmore⟩ := Classical.not_forall.1 hmore
    obtain ⟨hc, hcr⟩ := Classical.not_imp.1 hmore
    have hcn : c ≠ '\n' := fun hcn => newline_not_mem_lineRest (hcn ▸ hc)
    obtain ⟨t, t', ht⟩ := List.append_of_mem hc
    obtain ⟨b', hb'⟩ := exists_lineContent_append_cons (a := a ++ [x] ++ t) (b := t' ++ e) (notEnd hcn hcr)
    have hline : a ++ [x] ++ lineRest post ++ e = a ++ [x] ++ t ++ c :: (t' ++ e) := by simp [ht]
    rw [hline, hb']
    simp only [size_append]
    omega
  · have hxn : x ≠ '\n' := fun hxn => hl (by simp [hxn])
    obtain ⟨b', hb'⟩ := exists_lineContent_append_cons (a := a) (b := lineRest post ++ e) (notEnd hxn hx)
    have hline : a ++ [x] ++ lineRest post ++ e = a ++ x :: (lineRest post ++ e) := by simp
    rw [hline, hb']
    simp only [size_append, size]
    omega

/-- Within the first line an offset is a column. -/
theorem offsetInLines_zero (hl : '\n' ∉ l) (h : ¬ InLineEnd l post) :
    offsetInLines (lines (l ++ post)) 0 (size l) = size l := by
  by_cases hne : l ++ post = []
  · rw [List.append_eq_nil_iff] at hne
    simp [hne, lines, offsetInLines, size]
  · obtain ⟨e, ls, hls, -⟩ := exists_lines_eq_cons hne
    rw [hls, lineRest_append hl, offsetInLines]
    exact Nat.min_eq_right (size_le_size_lineContent hl h e)

/-! ### Positions -/

theorem foldl_after_of_not_mem (hl : '\n' ∉ l) :
    l.foldl after p = ⟨p.line, p.character + UInt32.ofNat (size l)⟩ := by
  induction l generalizing p with
  | nil => simp [size]
  | cons c cs ih =>
    have hc := List.ne_of_not_mem_cons hl
    have hcs := List.not_mem_of_not_mem_cons hl
    rw [List.foldl_cons, ih hcs, after, if_neg (Ne.symm hc), size, UInt32.ofNat_add, UInt32.add_assoc]

theorem foldl_after_append_newline (hl : '\n' ∉ l) :
    (l ++ '\n' :: post).foldl after p = post.foldl after ⟨p.line + 1, 0⟩ := by
  rw [List.foldl_append, foldl_after_of_not_mem hl, List.foldl_cons, after, if_pos rfl]

/-- From the beginning of line `n` on, the position behind `pre` has the offset of `pre`. -/
theorem offsetInLines_foldl_after (hn : n.toNat + size pre < UInt32.size) (h : ¬ InLineEnd pre post) :
    n.toNat ≤ (pre.foldl after ⟨n, 0⟩).line.toNat ∧
      offsetInLines (lines (pre ++ post)) ((pre.foldl after ⟨n, 0⟩).line.toNat - n.toNat)
        (pre.foldl after ⟨n, 0⟩).character.toNat = size pre := by
  -- along the line feeds of `pre`
  induction hlen : pre.length using Nat.strongRecOn generalizing pre n with
  | ind len ih =>
  by_cases hnl : '\n' ∈ pre
  · obtain ⟨l, pre', rfl, hl⟩ := List.eq_append_cons_of_mem hnl
    have hsize : size (l ++ '\n' :: pre') = size (l ++ ['\n']) + size pre' := by
      simp only [size_append, size]
      omega
    have hpos : 0 < size (l ++ ['\n']) := Nat.lt_of_lt_of_le (by simp) (length_le_size _)
    have hnext : (n + 1).toNat = n.toNat + 1 := toNat_counter_add (k := 1) (by omega)
    have h' : ¬ InLineEnd pre' post := by
      rintro ⟨⟨a, ha⟩, hp⟩
      exact h ⟨⟨l ++ '\n' :: a, by simp [ha]⟩, hp⟩
    obtain ⟨hle, ho⟩ := ih pre'.length (by simp at hlen; omega) (n := n + 1) (by omega) h' rfl
    rw [foldl_after_append_newline hl, hsize, List.append_assoc, List.cons_append,
      lines_append_newline hl]
    dsimp only
    have hline : (pre'.foldl after ⟨n + 1, 0⟩).line.toNat - n.toNat =
        (pre'.foldl after ⟨n + 1, 0⟩).line.toNat - (n + 1).toNat + 1 := by omega
    exact ⟨by omega, by rw [hline, offsetInLines, ho]⟩
  · have hcol : (UInt32.ofNat (size pre)).toNat = size pre := UInt32.toNat_ofNat_of_lt' (by omega)
    rw [foldl_after_of_not_mem hnl]
    simp only [UInt32.zero_add, Nat.le_refl, Nat.sub_self, true_and, hcol]
    exact offsetInLines_zero hnl h

theorem positionAt_size_append (pre post : List Char) :
    positionAt (pre ++ post) (size pre) = endPosition pre := by
  rw [positionAt, takeUnits_size_append]

/-- The offset of the position of an offset is the offset. -/
theorem offsetAt_positionAt (hsize : size (pre ++ post) < UInt32.size) (h : ¬ InLineEnd pre post) :
    offsetAt (pre ++ post) (positionAt (pre ++ post) (size pre)) = size pre := by
  rw [size_append] at hsize
  have hpre : (0 : UInt32).toNat + size pre < UInt32.size := by
    change 0 + size pre < UInt32.size
    omega
  rw [positionAt_size_append]
  exact (offsetInLines_foldl_after hpre h).2

end RecipeDiag.Text
