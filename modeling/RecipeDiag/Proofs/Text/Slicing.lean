import RecipeDiag.Proofs.Text.RoundTrip

/-!
# Slices between positions

A text is cut at a position by its UTF-8 bytes, after its offset was counted in UTF-16 units. The two
counts agree at every position, those past a line or the text and those inside a character included:
the cut falls between two characters, at the first such place that is not before the offset
(`RoundsUp`), and later positions never cut earlier. So every slice consists of whole characters, and
two slices that meet make up the slice across both (`slices_are_safe_and_add_up`).
-/

namespace RecipeDiag.Text
variable {text pre post a b : List Char} {p q : Position} {r : Range} {m n j k : Nat}
  {ls : List (List Char)}

/-! ### Offsets in order -/

theorem size_lineContent_le (line : List Char) : size (lineContent line) ≤ size line := by
  obtain ⟨e, he, -⟩ := exists_eq_lineContent_append line
  have hsize : size line = size (lineContent line) + size e := by rw [← size_append, ← he]
  omega

theorem offsetInLines_le (ls : List (List Char)) (n k : Nat) : offsetInLines ls n k ≤ size ls.flatten := by
  induction ls generalizing n with
  | nil => exact Nat.zero_le _
  | cons l ls ih =>
    have hl := size_lineContent_le l
    cases n with
    | zero =>
      rw [offsetInLines, List.flatten_cons, size_append]
      omega
    | succ n =>
      rw [offsetInLines, List.flatten_cons, size_append]
      have := ih n
      omega

/-- A later line begins behind the content of an earlier one. -/
theorem offsetInLines_mono (h : m < n ∨ m = n ∧ j ≤ k) : offsetInLines ls m j ≤ offsetInLines ls n k := by
  induction ls generalizing m n with
  | nil => exact Nat.le_refl _
  | cons l ls ih =>
    have hl := size_lineContent_le l
    cases n with
    | zero =>
      obtain ⟨rfl, hjk⟩ : m = 0 ∧ j ≤ k := by omega
      simp only [offsetInLines]
      omega
    | succ n =>
      cases m with
      | zero =>
        simp only [offsetInLines]
        omega
      | succ m =>
        have := ih (m := m) (n := n) (by omega)
        simp only [offsetInLines]
        omega

theorem flatten_lines (text : List Char) : (lines text).flatten = text := by
  induction text with
  | nil => rfl
  | cons c cs ih =>
    rw [lines]
    split
    · simp [ih]
    · split <;> simp_all

theorem offsetAt_le_size (text : List Char) (p : Position) : offsetAt text p ≤ size text := by
  have h := offsetInLines_le (lines text) p.line.toNat p.character.toNat
  rwa [flatten_lines] at h

theorem offsetAt_mono (text : List Char) (h : p ≤ q) : offsetAt text p ≤ offsetAt text q :=
  offsetInLines_mono (Position.le_iff.1 h)

/-! ### Cuts -/

/-- The first place between two characters that is not before the offset. -/
structure RoundsUp (text : List Char) (offset cut : Nat) : Prop where
  boundary : IsBoundary text cut
  le : offset ≤ cut
  least : ∀ n, IsBoundary text n → offset ≤ n → cut ≤ n

theorem le_size_takeUnits (h : n ≤ size text) : n ≤ size (takeUnits n text) := by
  induction text generalizing n with
  | nil =>
    rw [size] at h
    omega
  | cons c cs ih =>
    cases n with
    | zero => exact Nat.zero_le _
    | succ n =>
      rw [size] at h
      have := ih (n := n + 1 - units c) (by omega)
      rw [takeUnits, size]
      omega

theorem roundsUp_takeUnits (h : n ≤ size text) : RoundsUp text n (size (takeUnits n text)) where
  boundary := by
    obtain ⟨post, hpost⟩ := takeUnits_prefix n text
    exact ⟨_, post, hpost.symm, rfl⟩
  le := le_size_takeUnits h
  least := by
    rintro _ ⟨pre, post, rfl, rfl⟩ hle
    have hcut := takeUnits_prefix_takeUnits hle (pre ++ post)
    rw [takeUnits_size_append] at hcut
    exact size_le_of_prefix hcut

theorem before_isPrefix (text : List Char) (p : Position) : before text p <+: text :=
  takeUnits_prefix _ text

theorem before_mono (text : List Char) (h : p ≤ q) : before text p <+: before text q :=
  takeUnits_prefix_takeUnits (offsetAt_mono text h) text

theorem roundsUp_before (text : List Char) (p : Position) :
    RoundsUp text (offsetAt text p) (size (before text p)) :=
  roundsUp_takeUnits (offsetAt_le_size text p)

/-! ### Bytes -/

@[simp] theorem byteSize_append (a b : List Char) : byteSize (a ++ b) = byteSize a + byteSize b := by
  induction a with
  | nil => simp [byteSize]
  | cons c cs ih => simp only [List.cons_append, byteSize, ih]; omega

theorem byteSize_le_of_prefix (h : a <+: b) : byteSize a ≤ byteSize b := by
  obtain ⟨c, rfl⟩ := h
  rw [byteSize_append]
  omega

theorem size_utf8Encode (text : List Char) : text.utf8Encode.size = byteSize text := by
  induction text with
  | nil => rfl
  | cons c cs ih =>
    have hc : [c].utf8Encode.size = c.utf8Size := by
      rw [List.utf8Encode_singleton, List.size_toByteArray, String.length_utf8EncodeChar]
    rw [List.utf8Encode_cons, ByteArray.size_append, ih, byteSize, hc]

theorem extract_utf8Encode (pre mid post : List Char) :
    (pre ++ (mid ++ post)).utf8Encode.extract (byteSize pre) (byteSize pre + byteSize mid) =
      mid.utf8Encode := by
  have hpre := (size_utf8Encode pre).symm
  have hmid := (size_utf8Encode mid).symm
  rw [List.utf8Encode_append, List.utf8Encode_append]
  exact (ByteArray.extract_append_size_add' (i := 0) hpre).trans (ByteArray.extract_append_eq_left hmid)

theorem isValid_byteSize (h : pre <+: text) :
    (⟨byteSize pre⟩ : String.Pos.Raw).IsValid (String.ofList text) := by
  obtain ⟨post, rfl⟩ := h
  refine String.Pos.Raw.isValid_iff_exists_append.2
    ⟨String.ofList pre, String.ofList post, String.ofList_append, String.Pos.Raw.ext ?_⟩
  show byteSize pre = (String.ofList pre).toByteArray.size
  rw [String.toByteArray_ofList, size_utf8Encode]

theorem byteIndexAt_mono (text : List Char) (h : p ≤ q) : byteIndexAt text p ≤ byteIndexAt text q :=
  byteSize_le_of_prefix (before_mono text h)

theorem byteIndexAt_le (text : List Char) (p : Position) : byteIndexAt text p ≤ byteSize text :=
  byteSize_le_of_prefix (before_isPrefix text p)

/-! ### Slices -/

/-- Where the slice of a range ends, in bytes; never before it starts. -/
def sliceEnd (text : List Char) (r : Range) : Nat :=
  max (byteIndexAt text r.stop) (byteIndexAt text r.start)

theorem before_append_slice_of_le (text : List Char) (h : r.start ≤ r.stop) :
    before text r.start ++ slice text r = before text r.stop := by
  obtain ⟨mid, hmid⟩ := before_mono text h
  rw [slice, ← hmid, List.drop_left]

theorem slice_eq_nil (h : r.stop ≤ r.start) : slice text r = [] :=
  List.drop_eq_nil_of_le (before_mono text h).length_le

/-- A slice is what its bytes encode. -/
theorem utf8Encode_slice (text : List Char) (r : Range) : (slice text r).utf8Encode =
    text.utf8Encode.extract (byteIndexAt text r.start) (sliceEnd text r) := by
  rcases Position.le_total r.start r.stop with h | h
  · -- the text is what comes before the slice, the slice, and the rest
    obtain ⟨post, hpost⟩ := before_isPrefix text r.stop
    have hstop := before_append_slice_of_le text h
    have hend : sliceEnd text r = byteIndexAt text r.stop := Nat.max_eq_left (byteIndexAt_mono text h)
    have htext : text = before text r.start ++ (slice text r ++ post) := by
      rw [← List.append_assoc, hstop, hpost]
    have hsize : byteIndexAt text r.stop = byteIndexAt text r.start + byteSize (slice text r) := by
      rw [byteIndexAt, ← hstop, byteSize_append, byteIndexAt]
    have hbytes := extract_utf8Encode (before text r.start) (slice text r) post
    rw [← htext] at hbytes
    rw [hend, hsize]
    exact hbytes.symm
  · have hend : sliceEnd text r = byteIndexAt text r.start := Nat.max_eq_right (byteIndexAt_mono text h)
    rw [slice_eq_nil h, hend, ByteArray.extract_same, List.utf8Encode_nil]

theorem slice_append_slice (text : List Char) {u v w : Position} (huv : u ≤ v) (hvw : v ≤ w) :
    slice text ⟨u, v⟩ ++ slice text ⟨v, w⟩ = slice text ⟨u, w⟩ := by
  have hfirst := before_append_slice_of_le text (r := ⟨u, v⟩) huv
  have hsecond := before_append_slice_of_le text (r := ⟨v, w⟩) hvw
  have hboth := before_append_slice_of_le text (r := ⟨u, w⟩) (Position.le_trans huv hvw)
  dsimp only at hfirst hsecond hboth
  rw [← hfirst, ← hboth, List.append_assoc] at hsecond
  exact List.append_cancel_left hsecond

/-- At every position, wherever it lies, a text is cut between two characters, behind as many units as
its offset says, rounded up to the next such place; later positions do not cut earlier. So the bytes of
every range are cut out within the text and are whole characters, none if the range ends where it starts
or before, and the slices of two ranges that meet make up the slice of the range across both. -/
theorem slices_are_safe_and_add_up (text : List Char) :
    (∀ p, (⟨byteIndexAt text p⟩ : String.Pos.Raw).IsValid (String.ofList text) ∧
      ∃ pre post, text = pre ++ post ∧ byteSize pre = byteIndexAt text p ∧
        RoundsUp text (offsetAt text p) (size pre)) ∧
    (∀ p q, p ≤ q → byteIndexAt text p ≤ byteIndexAt text q) ∧
    (∀ r : Range, byteIndexAt text r.start ≤ sliceEnd text r ∧ sliceEnd text r ≤ byteSize text ∧
      (⟨sliceEnd text r⟩ : String.Pos.Raw).IsValid (String.ofList text) ∧
      (slice text r).utf8Encode = text.utf8Encode.extract (byteIndexAt text r.start) (sliceEnd text r)) ∧
    (∀ r : Range, r.stop ≤ r.start → slice text r = []) ∧
    ∀ u v w, u ≤ v → v ≤ w → slice text ⟨u, v⟩ ++ slice text ⟨v, w⟩ = slice text ⟨u, w⟩ := by
  have hvalid (p : Position) := isValid_byteSize (before_isPrefix text p)
  refine ⟨fun p => ⟨hvalid p, ?_⟩, fun p q => byteIndexAt_mono text, fun r => ?_, fun r => slice_eq_nil,
    fun u v w => slice_append_slice text⟩
  · obtain ⟨post, hpost⟩ := before_isPrefix text p
    exact ⟨before text p, post, hpost.symm, rfl, roundsUp_before text p⟩
  · refine ⟨Nat.le_max_right _ _, Nat.max_le.2 ⟨byteIndexAt_le text r.stop, byteIndexAt_le text r.start⟩, ?_,
      utf8Encode_slice text r⟩
    -- it is one of the two cuts
    rcases Nat.le_total (byteIndexAt text r.start) (byteIndexAt text r.stop) with h | h
    · rw [sliceEnd, Nat.max_eq_left h]
      exact hvalid r.stop
    · rw [sliceEnd, Nat.max_eq_right h]
      exact hvalid r.start

/-! ### A range that starts inside a pair of surrogates -/

namespace Sample

/-- The quoted character has two units and four bytes. -/
def quoted : List Char := "x = '🐍'\ny".toList

/-- From behind the first unit of the quoted character to a line that does not exist. -/
def overrun : Range := ⟨⟨0, 6⟩, ⟨9, 0⟩⟩

end Sample

open Sample in
theorem slices_are_safe_and_add_up_of_overrun :
    byteIndexAt quoted ⟨0, 5⟩ ≤ byteIndexAt quoted overrun.start ∧ byteIndexAt quoted overrun.start = 9 ∧
    slice quoted ⟨overrun.stop, overrun.start⟩ = [] ∧
    slice quoted ⟨⟨0, 5⟩, overrun.start⟩ ++ slice quoted overrun = slice quoted ⟨⟨0, 5⟩, overrun.stop⟩ := by
  obtain ⟨-, hmono, -, hempty, hadd⟩ := slices_are_safe_and_add_up quoted
  exact ⟨hmono _ _ (by decide), by decide, hempty ⟨overrun.stop, overrun.start⟩ (by decide),
    hadd ⟨0, 5⟩ overrun.start overrun.stop (by decide) (by decide)⟩

end RecipeDiag.Text
