import RecipeDiag.Proofs.Text.Order

/-!
# From offsets to positions and back

The lines of a text are numbered along its line feeds (`line?`), so that behind the last of them a line
stands too, if only an empty one. `Stands` says behind which part of the text a line stands; from it
follow the offset of a position on the line (`Stands.offsetInLines_eq`) and the position of an offset
(`Stands.endPosition_eq`). Each undoes the other where an offset has a position and a position an offset
(`offsets_and_positions_are_inverse`); the position of any other offset is less only by carriage returns
(`exists_offsetAt_positionAt`).
-/

namespace RecipeDiag.Text
variable {above line l e pre post text : List Char} {c : Char} {p : Position} {n k : Nat} {m : UInt32}

/-! ### Lines by number -/

/-- The line behind line feed number `n`, counted from one, up to the next. -/
def line? (text : List Char) (n : Nat) : Option (List Char) := (text.splitOn '\n')[n]?

theorem splitOn_append_newline (hl : '\n' ∉ l) :
    (l ++ '\n' :: post).splitOn '\n' = l :: post.splitOn '\n' := by
  have hsingle : l.splitOn '\n' = [l] := List.splitOn_eq_singleton hl
  rw [List.splitOn_eq_splitOnP] at *
  rw [List.splitOnP_append_cons l post (by simp), hsingle]
  rfl

/-- A line stands in a text behind as many line feeds as its number says. -/
inductive Stands : List Char → Nat → List Char → List Char → Prop where
  | first (text : List Char) : Stands text 0 [] (lineRest text)
  | next {l text above line : List Char} {n : Nat} (hl : '\n' ∉ l) (h : Stands text n above line) :
      Stands (l ++ '\n' :: text) (n + 1) (l ++ '\n' :: above) line

theorem lineRest_append_newline (hl : '\n' ∉ l) : lineRest (l ++ '\n' :: post) = l := by
  rw [lineRest_append hl]
  simp [lineRest]

theorem lineRest_of_not_mem (h : '\n' ∉ text) : lineRest text = text := by
  have hrest : lineRest (text ++ []) = text ++ lineRest [] := lineRest_append h
  simpa [lineRest] using hrest

theorem exists_stands_of_line? (h : line? text n = some line) : ∃ above, Stands text n above line := by
  unfold line? at h
  induction n generalizing text with
  | zero =>
    have hline : line = lineRest text := by
      by_cases hnl : '\n' ∈ text
      · obtain ⟨l, post, rfl, hl⟩ := List.eq_append_cons_of_mem hnl
        rw [splitOn_append_newline hl] at h
        rw [lineRest_append_newline hl]
        simpa using h.symm
      · rw [List.splitOn_eq_singleton hnl] at h
        rw [lineRest_of_not_mem hnl]
        simpa using h.symm
    rw [hline]
    exact ⟨[], .first text⟩
  | succ n ih =>
    by_cases hnl : '\n' ∈ text
    · obtain ⟨l, post, rfl, hl⟩ := List.eq_append_cons_of_mem hnl
      rw [splitOn_append_newline hl, List.getElem?_cons_succ] at h
      obtain ⟨above, hstands⟩ := ih h
      exact ⟨_, .next hl hstands⟩
    · rw [List.splitOn_eq_singleton hnl] at h
      simp at h

/-- Every offset stands on a line. -/
theorem exists_stands_append (pre post : List Char) :
    ∃ n above l, pre = above ++ l ∧ '\n' ∉ l ∧ Stands (pre ++ post) n above (l ++ lineRest post) := by
  induction hlen : pre.length using Nat.strongRecOn generalizing pre with
  | ind len ih =>
  by_cases hnl : '\n' ∈ pre
  · obtain ⟨l', pre', rfl, hl'⟩ := List.eq_append_cons_of_mem hnl
    obtain ⟨n, above, l, hpre, hl, hstands⟩ := ih pre'.length (by simp at hlen; omega) pre' rfl
    refine ⟨n + 1, l' ++ '\n' :: above, l, by simp [hpre], hl, ?_⟩
    simpa using hstands.next hl'
  · exact ⟨0, [], pre, rfl, hnl, lineRest_append hnl ▸ .first _⟩

/-! ### The content of a line -/

theorem lineContent_append_of_lineEnds (he : ∀ c ∈ e, isLineEnd c) :
    lineContent (line ++ e) = lineContent line := by
  have hrev : ∀ c ∈ e.reverse, isLineEnd c := by simpa using he
  rw [lineContent, List.reverse_append, List.dropWhile_append_of_pos hrev, lineContent]

/-- A line is its content and its line ends. -/
theorem exists_eq_lineContent_append (line : List Char) :
    ∃ e, line = lineContent line ++ e ∧ ∀ c ∈ e, isLineEnd c := by
  refine ⟨(line.reverse.takeWhile isLineEnd).reverse, ?_, fun c hc => ?_⟩
  · rw [lineContent, ← List.reverse_append, List.takeWhile_append_dropWhile, List.reverse_reverse]
  · exact List.all_eq_true.1 List.all_takeWhile c (List.mem_reverse.1 hc)

/-! ### Offsets and positions on a line -/

namespace Stands

theorem exists_eq_append (h : Stands text n above line) : ∃ below, text = above ++ line ++ below := by
  induction h with
  | first text => exact ⟨text.dropWhile (· ≠ '\n'), List.takeWhile_append_dropWhile.symm⟩
  | next hl h ih =>
    obtain ⟨below, rfl⟩ := ih
    exact ⟨below, by simp⟩

theorem newline_not_mem (h : Stands text n above line) : '\n' ∉ line := by
  induction h with
  | first text => exact newline_not_mem_lineRest
  | next hl h ih => exact ih

/-- A position on the line is as far behind its beginning as its unit says, but not behind its content. -/
theorem offsetInLines_eq (h : Stands text n above line) (k : Nat) :
    offsetInLines (lines text) n k = size above + min (size (lineContent line)) k := by
  induction h with
  | first text =>
    by_cases hne : text = []
    · simp [hne, lines, lineRest, offsetInLines, lineContent, size]
    · obtain ⟨e, ls, hls, he⟩ := exists_lines_eq_cons hne
      have hends : ∀ c ∈ e, isLineEnd c := fun c hc => by simp [he c hc, isLineEnd]
      rw [hls, offsetInLines, lineContent_append_of_lineEnds hends, size, Nat.zero_add]
  | @next l text above line n hl h ih =>
    rw [lines_append_newline hl, offsetInLines, ih]
    simp only [size_append, size]
    omega

theorem foldl_after_eq (h : Stands text n above line) (hl : '\n' ∉ l) :
    (above ++ l).foldl after ⟨m, 0⟩ = ⟨m + UInt32.ofNat n, UInt32.ofNat (size l)⟩ := by
  induction h generalizing m with
  | first text => simp [foldl_after_of_not_mem hl]
  | @next l' text above line n hl' h ih =>
    rw [List.append_assoc, List.cons_append, foldl_after_append_newline hl', ih, UInt32.ofNat_add,
      UInt32.add_assoc, UInt32.add_comm 1]
    rfl

theorem endPosition_eq (h : Stands text n above line) (hl : '\n' ∉ l) :
    endPosition (above ++ l) = ⟨UInt32.ofNat n, UInt32.ofNat (size l)⟩ := by
  have := h.foldl_after_eq (m := 0) hl
  rwa [UInt32.zero_add] at this

theorem le_size_above (h : Stands text n above line) : n ≤ size above := by
  induction h with
  | first text => exact Nat.zero_le _
  | next hl h ih =>
    simp only [size_append, size]
    have := units_pos '\n'
    omega

theorem offsetAt_eq (h : Stands text p.line.toNat above line) :
    offsetAt text p = size above + min (size (lineContent line)) p.character.toNat :=
  h.offsetInLines_eq _

theorem positionAt_eq (h : Stands text n above line) (hl : '\n' ∉ l) (hcut : takeUnits k text = above ++ l) :
    positionAt text k = ⟨UInt32.ofNat n, UInt32.ofNat (size l)⟩ := by
  rw [positionAt, hcut]
  exact h.endPosition_eq hl

end Stands

/-! ### There and back -/

theorem takeUnits_inside (hk : 0 < k) (hc : k ≤ units c) :
    takeUnits (size pre + k) (pre ++ c :: post) = pre ++ [c] := by
  induction pre with
  | nil =>
    have hrest : size [] + k - units c = 0 := by
      rw [size]
      omega
    rw [List.nil_append, takeUnits_cons (by omega), hrest, takeUnits_zero]
    rfl
  | cons d ds ih =>
    have := units_pos d
    have hrest : size (d :: ds) + k - units d = size ds + k := by
      rw [size]
      omega
    rw [List.cons_append, takeUnits_cons (by omega), hrest, ih]
    rfl

/-- The position of an offset has that offset, less the carriage returns before it. -/
theorem exists_offsetAt_positionAt (hsize : size text < UInt32.size) (o : Nat) :
    ∃ a b, takeUnits o text = a ++ b ∧ (∀ c ∈ b, c = '\r') ∧ offsetAt text (positionAt text o) = size a := by
  obtain ⟨post, htext⟩ := takeUnits_prefix o text
  -- the line that the offset stands on, and how far along it
  obtain ⟨n, above, l, hpre, hl, hstands⟩ := exists_stands_append (takeUnits o text) post
  rw [htext] at hstands
  obtain ⟨e, he, hends⟩ := exists_eq_lineContent_append (l ++ lineRest post)
  -- neither the number of the line nor the unit wraps around
  have hsum : size above + size l ≤ size text := by
    rw [← htext, hpre]
    simp only [size_append]
    omega
  have hn : (UInt32.ofNat n).toNat = n :=
    UInt32.toNat_ofNat_of_lt' (by have := hstands.le_size_above; omega)
  have hk : (UInt32.ofNat (size l)).toNat = size l := UInt32.toNat_ofNat_of_lt' (by omega)
  have hoffset : offsetAt text (positionAt text o) =
      size above + min (size (lineContent (l ++ lineRest post))) (size l) := by
    rw [hstands.positionAt_eq hl hpre, offsetAt, hn, hk]
    exact hstands.offsetInLines_eq _
  rcases List.append_eq_append_iff.1 he with ⟨b, hcontent, -⟩ | ⟨b, hcontent, hb⟩
  · -- the offset is in the content of the line
    refine ⟨above ++ l, [], by simp [hpre], by simp, ?_⟩
    have hle : size l ≤ size (lineContent (l ++ lineRest post)) := by
      rw [hcontent, size_append]
      omega
    rw [hoffset, Nat.min_eq_right hle, size_append]
  · refine ⟨above ++ lineContent (l ++ lineRest post), b, ?_, ?_, ?_⟩
    · rw [List.append_assoc, ← hcontent]
      exact hpre
    · intro c hc
      have hend : isLineEnd c := hends c (hb ▸ List.mem_append_left _ hc)
      have hne : c ≠ '\n' := by
        rintro rfl
        exact hl (hcontent ▸ List.mem_append_right _ hc)
      simpa [isLineEnd, hne] using hend
    · have hle : size l = size (lineContent (l ++ lineRest post)) + size b := by
        rw [← size_append, ← hcontent]
      rw [hoffset, size_append]
      omega

/-- A character with an inside ends no line. -/
theorem isLineEnd_eq_false (h : 1 < units c) : isLineEnd c = false := by
  have hn : c ≠ '\n' := by
    rintro rfl
    exact absurd h (by decide)
  have hr : c ≠ '\r' := by
    rintro rfl
    exact absurd h (by decide)
  simp [isLineEnd, hn, hr]

theorem positionAt_offsetAt (hline : line? text p.line.toNat = some line)
    (hp : IsBoundary (lineContent line) p.character.toNat) : positionAt text (offsetAt text p) = p := by
  obtain ⟨l, l', hcontent, hl⟩ := hp
  obtain ⟨above, hstands⟩ := exists_stands_of_line? hline
  obtain ⟨e, he, -⟩ := exists_eq_lineContent_append line
  obtain ⟨below, htext⟩ := hstands.exists_eq_append
  have hline' : line = l ++ (l' ++ e) := by rw [← List.append_assoc, ← hcontent, ← he]
  have hnl : '\n' ∉ l := fun h => hstands.newline_not_mem (hline' ▸ List.mem_append_left _ h)
  have hle : size l ≤ size (lineContent line) := by
    rw [hcontent, size_append]
    omega
  have hcut : takeUnits (size above + size l) text = above ++ l := by
    have hsplit : text = (above ++ l) ++ (l' ++ e ++ below) := by simp [htext, hline']
    rw [← size_append, hsplit, takeUnits_size_append]
  rw [hstands.offsetAt_eq, ← hl, Nat.min_eq_right hle, hstands.positionAt_eq hnl hcut, hl,
    UInt32.ofNat_toNat, UInt32.ofNat_toNat]

theorem positionAt_offsetAt_inside (hline : line? text p.line.toNat = some (pre ++ c :: post))
    (hlt : size pre < p.character.toNat) (hgt : p.character.toNat < size (pre ++ [c])) :
    positionAt text (offsetAt text p) = ⟨p.line, UInt32.ofNat (size (pre ++ [c]))⟩ := by
  obtain ⟨above, hstands⟩ := exists_stands_of_line? hline
  obtain ⟨below, htext⟩ := hstands.exists_eq_append
  have hsize : size (pre ++ [c]) = size pre + units c := by simp [size]
  -- the character belongs to the content of the line
  have hc : isLineEnd c = false := isLineEnd_eq_false (by omega)
  obtain ⟨b, hcontent⟩ := exists_lineContent_append_cons (a := pre) (b := post) hc
  have hle : p.character.toNat ≤ size (lineContent (pre ++ c :: post)) := by
    rw [hcontent, size_append, size]
    omega
  have hnl : '\n' ∉ pre ++ [c] := by
    intro h
    refine hstands.newline_not_mem ?_
    rw [List.append_cons]
    exact List.mem_append_left _ h
  have hcut : takeUnits (size above + p.character.toNat) text = above ++ (pre ++ [c]) := by
    have hsplit : text = (above ++ pre) ++ c :: (post ++ below) := by simp [htext]
    have hk : size above + p.character.toNat = size (above ++ pre) + (p.character.toNat - size pre) := by
      rw [size_append]
      omega
    rw [hk, hsplit, takeUnits_inside (by omega) (by omega), List.append_assoc]
  rw [hstands.offsetAt_eq, Nat.min_eq_right hle, hstands.positionAt_eq hnl hcut, UInt32.ofNat_toNat]

/-- For texts with less than 2^32 units: an offset between two characters has a position with that
offset, unless it comes behind a carriage return of those that end a line; a position between two
characters of a line's content has an offset with that position; and a position inside a character has
one with the position behind it. -/
theorem offsets_and_positions_are_inverse (text : List Char) (hsize : size text < UInt32.size) :
    (∀ pre post, text = pre ++ post → ¬ InLineEnd pre post →
      offsetAt text (positionAt text (size pre)) = size pre) ∧
    (∀ p line, line? text p.line.toNat = some line → IsBoundary (lineContent line) p.character.toNat →
      positionAt text (offsetAt text p) = p) ∧
    ∀ p pre c post, line? text p.line.toNat = some (pre ++ c :: post) →
      size pre < p.character.toNat → p.character.toNat < size (pre ++ [c]) →
        (positionAt text (offsetAt text p)).line = p.line ∧
          (positionAt text (offsetAt text p)).character.toNat = size (pre ++ [c]) := by
  refine ⟨?_, fun p line => positionAt_offsetAt, ?_⟩
  · rintro pre post rfl h
    exact offsetAt_positionAt hsize h
  · intro p pre c post hline hlt hgt
    rw [positionAt_offsetAt_inside hline hlt hgt]
    refine ⟨rfl, UInt32.toNat_ofNat_of_lt' ?_⟩
    -- the character stands in the text, so it does not end behind unit 2^32
    obtain ⟨above, hstands⟩ := exists_stands_of_line? hline
    obtain ⟨below, htext⟩ := hstands.exists_eq_append
    have hle : size (pre ++ [c]) ≤ size text := by
      rw [htext]
      simp only [size_append, size]
      omega
    omega

/-! ### Two kinds of line ends and a pair of surrogates -/

namespace Sample

/-- Its first line has a carriage return within, its last one is ended by one alone. -/
def mixed : List Char := "a\r🐍b\r\n\nc\r".toList

end Sample

open Sample in
theorem offsets_and_positions_are_inverse_of_mixed :
    offsetAt mixed (positionAt mixed 2) = 2 ∧
    positionAt mixed (offsetAt mixed ⟨2, 1⟩) = ⟨2, 1⟩ ∧
    (positionAt mixed (offsetAt mixed ⟨0, 3⟩)).character.toNat = 4 := by
  obtain ⟨hoffset, hposition, hinside⟩ := offsets_and_positions_are_inverse mixed (by decide)
  refine ⟨?_, ?_, ?_⟩
  · refine hoffset "a\r".toList "🐍b\r\n\nc\r".toList (by decide) ?_
    rintro ⟨-, h⟩
    exact absurd (h '🐍' (by decide)) (by decide)
  · exact hposition ⟨2, 1⟩ "c\r".toList (by decide) ⟨['c'], [], by decide, by decide⟩
  · exact (hinside ⟨0, 3⟩ "a\r".toList '🐍' "b\r".toList (by decide) (by decide) (by decide)).2

end RecipeDiag.Text
