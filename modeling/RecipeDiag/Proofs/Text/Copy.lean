import RecipeDiag.Proofs.Text.Offset
import RecipeDiag.Text.Origin

/-!
# Ranges of copied text

A stretch of a generated text is copied if the origin table maps its units one after the other and
the recipe has the same units there (`OriginTable.Copies`). Any range over such a stretch is mapped
onto a range of the recipe that covers the same text (`slice_mapRange_of_copies`), unless an end of
it comes directly behind a carriage return: no position lies between that and the end of its line.
-/

namespace RecipeDiag

namespace Text
variable {a b pre mid post text : List Char} {r : Range} {i : Nat}

/-- A range whose ends cut a text around a stretch covers the stretch. -/
theorem slice_of_offsetAt (hstart : offsetAt (pre ++ mid ++ post) r.start = size pre)
    (hstop : offsetAt (pre ++ mid ++ post) r.stop = size (pre ++ mid)) :
    slice (pre ++ mid ++ post) r = mid := by
  have hpre : before (pre ++ mid ++ post) r.start = pre := by
    rw [before, hstart, List.append_assoc, takeUnits_size_append]
  have hmid : before (pre ++ mid ++ post) r.stop = pre ++ mid := by
    rw [before, hstop, takeUnits_size_append]
  rw [slice, hpre, hmid, List.drop_left]

theorem getElem?_utf16_middle (hi : i < size mid) :
    (utf16 (pre ++ mid ++ post))[size pre + i]? = (utf16 mid)[i]? := by
  have hlt : size pre + i < (utf16 (pre ++ mid)).length := by
    rw [length_utf16, size_append]
    omega
  rw [utf16_append, List.getElem?_append_left hlt, utf16_append, List.getElem?_append_right (by simp),
    length_utf16, Nat.add_sub_cancel_left]

/-- An offset that does not come behind the unit of a carriage return is in no line's end. -/
theorem not_inLineEnd_of_unit
    (h : ∀ i, i + 1 = size pre → (utf16 (pre ++ post))[i]? ≠ some 0x0D) : ¬ InLineEnd pre post := by
  rintro ⟨⟨a, rfl⟩, -⟩
  refine h (size a) (by rw [size_append]; rfl) ?_
  have hunit : (utf16 (a ++ ['\r'] ++ post))[size a + 0]? = (utf16 ['\r'])[0]? :=
    getElem?_utf16_middle (by decide)
  exact hunit

end Text

namespace OriginTable
open Text

section
variable {t : OriginTable} {recipe pre mid post : List Char} {s e k : Nat}

/-- The units of the generated text from `s` up to `e` come from the recipe, where they stand from
`k` on. -/
structure Copies (t : OriginTable) (recipe generated : List Char) (s e k : Nat) : Prop where
  origin : ∀ i, s ≤ i → i < e → (t.get? i).map UInt64.toNat = some (k + (i - s))
  unit : ∀ i, s ≤ i → i < e → (utf16 generated)[i]? = (utf16 recipe)[k + (i - s)]?

/-- The characters that are copied stand in the recipe. -/
theorem Copies.exists_split (h : t.Copies recipe (pre ++ mid ++ post) (size pre) (size (pre ++ mid)) k)
    (hne : mid ≠ []) : ∃ pre' post', recipe = pre' ++ mid ++ post' ∧ size pre' = k := by
  refine exists_split_of_utf16_prefix hne (List.prefix_iff_getElem?.2 fun i hi => ?_)
  rw [length_utf16] at hi
  have hunit := h.unit (size pre + i) (by omega) (by rw [size_append]; omega)
  rw [getElem?_utf16_middle hi, Nat.add_sub_cancel_left] at hunit
  rw [List.getElem?_drop, ← hunit, List.getElem?_eq_getElem]

/-- The ends of what is copied are mapped onto its ends in the recipe. -/
theorem Copies.mapRange_eq {generated : List Char} {r : Range}
    (h : t.Copies recipe generated (offsetAt generated r.start) (offsetAt generated r.stop) k)
    (hlt : offsetAt generated r.start < offsetAt generated r.stop) (hsize : size recipe < UInt32.size)
    (hk : k + (offsetAt generated r.stop - offsetAt generated r.start) < UInt64.size) :
    t.mapRange recipe generated r = pure (some ⟨positionAt recipe k,
      positionAt recipe (k + (offsetAt generated r.stop - offsetAt generated r.start))⟩) := by
  obtain ⟨o, ho, hok⟩ := Option.map_eq_some_iff.1 (h.origin _ (Nat.le_refl _) hlt)
  obtain ⟨o', ho', hok'⟩ :=
    Option.map_eq_some_iff.1 (h.origin (offsetAt generated r.stop - 1) (by omega) (by omega))
  have hstart : o.toNat = k := by omega
  have hsum : o'.toNat + (1 : UInt64).toNat < UInt64.size := by
    change o'.toNat + 1 < UInt64.size
    omega
  have hnext : (o' + 1).toNat = o'.toNat + 1 := toNat_offset_add (k := 1) hsum
  have hstop : (o' + 1).toNat = k + (offsetAt generated r.stop - offsetAt generated r.start) := by omega
  refine Reckoned.eq_pure_iff.2 ?_
  simp only [mapRange, ho, ho', if_neg (Nat.not_le.2 hlt), countPosition_eq hsize, offsetSum_eq hsum,
    hstart, hstop, Reckoned.value_bind, Reckoned.fits_bind, Reckoned.value_pure, Reckoned.fits_pure,
    Bool.and_self, and_self]

/-- A range over a copied stretch is mapped onto a range of the recipe that covers the same text, for
recipes with less than 2^32 units. -/
theorem slice_mapRange_of_copies (t : OriginTable) (recipe generated : List Char) (r : Range) (k : Nat)
    (hsize : size recipe < UInt32.size)
    (hstart : IsBoundary generated (offsetAt generated r.start))
    (hstop : IsBoundary generated (offsetAt generated r.stop))
    (hlt : offsetAt generated r.start < offsetAt generated r.stop)
    (hcopy : t.Copies recipe generated (offsetAt generated r.start) (offsetAt generated r.stop) k)
    (hreturn : ∀ i, (i + 1 = k ∨
      i + 1 = k + (offsetAt generated r.stop - offsetAt generated r.start)) →
        (utf16 recipe)[i]? ≠ some 0x0D) :
    ∃ r', t.mapRange recipe generated r = pure (some r') ∧ slice recipe r' = slice generated r := by
  obtain ⟨pre, mid, post, rfl, hs, he⟩ := exists_split_of_isBoundary hstart hstop (Nat.le_of_lt hlt)
  have hmid : mid ≠ [] := by
    rintro rfl
    have : size (pre ++ []) = size pre := by rw [List.append_nil]
    omega
  -- the same characters in the recipe, with the same sizes
  obtain ⟨pre', post', rfl, hk⟩ : ∃ pre' post', recipe = pre' ++ mid ++ post' ∧ size pre' = k := by
    rw [← hs, ← he] at hcopy
    exact hcopy.exists_split hmid
  have hk' : k + (offsetAt (pre ++ mid ++ post) r.stop - offsetAt (pre ++ mid ++ post) r.start) =
      size (pre' ++ mid) := by
    rw [← hs, ← he, size_append, size_append, hk]
    omega
  rw [hk', ← hk] at hreturn
  have hmap : t.mapRange (pre' ++ mid ++ post') (pre ++ mid ++ post) r =
      pure (some ⟨positionAt (pre' ++ mid ++ post') (size pre'),
        positionAt (pre' ++ mid ++ post') (size (pre' ++ mid))⟩) := by
    rw [hcopy.mapRange_eq hlt hsize, hk', hk]
    rw [size_append] at hsize
    exact Nat.lt_of_lt_of_le (by omega) (by decide : UInt32.size ≤ UInt64.size)
  refine ⟨_, hmap, ?_⟩
  rw [slice_of_offsetAt hs.symm he.symm]
  -- both ends of the image cut the recipe around the copied characters
  refine slice_of_offsetAt ?_ (offsetAt_positionAt hsize (not_inLineEnd_of_unit fun i hi => ?_))
  · rw [List.append_assoc] at hsize hreturn ⊢
    exact offsetAt_positionAt hsize (not_inLineEnd_of_unit fun i hi => hreturn i (.inl hi))
  · exact hreturn i (.inr hi)

end

/-! ### A copied stretch of two lines -/

namespace Sample

def recipe : List Char := "do() (\r\n x 🐍\r\n)".toList

def generated : List Char := "#!\n(\r\n x 🐍\r\n".toList

/-- The first line is synthetic, what follows comes from offset 5 of the recipe on. -/
def table : OriginTable :=
  ⟨[none, none, none] ++ (List.range 10).map fun i => some (UInt64.ofNat (5 + i))⟩

/-- From the bracket up to the end of the second line's content. -/
def range : Range := ⟨⟨1, 0⟩, ⟨2, 5⟩⟩

end Sample

open Sample in
theorem slice_mapRange_of_copies_sample : ∃ r', table.mapRange recipe generated range = pure (some r') ∧
    slice recipe r' = "(\r\n x 🐍".toList := by
  have horigin : ∀ i < 11, 3 ≤ i → (table.get? i).map UInt64.toNat = some (5 + (i - 3)) := by decide
  have hunit : ∀ i < 11, 3 ≤ i → (utf16 generated)[i]? = (utf16 recipe)[5 + (i - 3)]? := by decide
  have hcopy : table.Copies recipe generated 3 11 5 :=
    ⟨fun i h h' => horigin i h' h, fun i h h' => hunit i h' h⟩
  have hs : offsetAt generated range.start = 3 := by decide
  have he : offsetAt generated range.stop = 11 := by decide
  obtain ⟨r', hr', hslice⟩ := slice_mapRange_of_copies table recipe generated range 5 (by decide)
    (hs ▸ ⟨"#!\n".toList, _, rfl, by decide⟩)
    (he ▸ ⟨"#!\n(\r\n x 🐍".toList, _, rfl, by decide⟩) (by rw [hs, he]; decide)
    (by rw [hs, he]; exact hcopy) (by
      rw [hs, he]
      rintro i (hi | hi)
      · cases Nat.succ.inj hi
        decide
      · cases Nat.succ.inj hi
        decide)
  exact ⟨r', hr', hslice.trans (by decide)⟩

end OriginTable
end RecipeDiag
