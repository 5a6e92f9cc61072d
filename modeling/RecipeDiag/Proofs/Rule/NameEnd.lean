import RecipeDiag.Proofs.Text.RoundTrip
import RecipeDiag.Rule.ShellVariable

/-!
# Where the name of a variable ends

`FirstName` takes a text apart at the first name in it. If a range covers something before that name,
`nameEnd` is a position from which to the start of the range there is just this and the name
(`nameEnd_ends_first_name`). A range that starts at the position of an offset may still begin, by its
offset, with carriage returns that stand before that position; a name never has any, so its end comes
behind the start all the same.
-/

namespace RecipeDiag

/-! ### The text of a range -/

namespace Text
variable {c : Char} {p : Position} {text pre post : List Char} {r : Range} {n : Nat}

/-- A cut is the shortest that has so many units: any part of it has less. -/
theorem size_lt_of_takeUnits_eq (h : takeUnits n text = pre ++ c :: post) : size pre < n := by
  induction text generalizing n pre with
  | nil => cases n <;> simp [takeUnits] at h
  | cons d ds ih =>
    cases n with
    | zero => simp [takeUnits] at h
    | succ n =>
      rw [takeUnits] at h
      cases pre with
      | nil => exact Nat.succ_pos n
      | cons x xs =>
        obtain ⟨rfl, hrest⟩ := List.cons.inj h
        have := ih hrest
        rw [size]
        omega

/-- What a range covers stands between its ends. -/
theorem before_append_slice (h : slice text r ≠ []) :
    before text r.start ++ slice text r = before text r.stop := by
  have hstart : before text r.start <+: text := takeUnits_prefix _ text
  have hstop : before text r.stop <+: text := takeUnits_prefix _ text
  rcases List.prefix_or_prefix_of_prefix hstart hstop with ⟨mid, hmid⟩ | hle
  · rw [slice, ← hmid, List.drop_left]
  · exact absurd (List.drop_eq_nil_of_le hle.length_le) h

theorem advance_eq (hsize : size text < UInt32.size) (h : offsetAt text p + n < UInt64.size) :
    advance text p (UInt64.ofNat n) = pure (positionAt text (offsetAt text p + n)) := by
  have hoffset : (UInt64.ofNat (offsetAt text p)).toNat = offsetAt text p :=
    UInt64.toNat_ofNat_of_lt' (by omega)
  have hn : (UInt64.ofNat n).toNat = n := UInt64.toNat_ofNat_of_lt' (by omega)
  have hsum : Reckoned.offsetSum (UInt64.ofNat (offsetAt text p)) (UInt64.ofNat n) =
      pure (UInt64.ofNat (offsetAt text p) + UInt64.ofNat n) := offsetSum_eq (by rwa [hoffset, hn])
  refine Reckoned.eq_pure_iff.2 ?_
  simp only [advance, hsum, countPosition_eq hsize, Reckoned.value_bind, Reckoned.fits_bind,
    Reckoned.value_pure, Reckoned.fits_pure, toNat_ofNat_add_ofNat h, Bool.and_self, and_self]

theorem offsetAt_positionAt_of_eq (htext : text = pre ++ post) (hsize : size text < UInt32.size)
    (h : ¬ InLineEnd pre post) : offsetAt text (positionAt text (size pre)) = size pre := by
  subst htext
  exact offsetAt_positionAt hsize h

/-- A position that comes from an offset comes, by its own offset, before some carriage returns at most. -/
theorem exists_before_positionAt (hsize : size text < UInt32.size) (o : Nat) :
    ∃ b, takeUnits o text = before text (positionAt text o) ++ b ∧ (∀ c ∈ b, c = '\r') ∧
      size (before text (positionAt text o)) = offsetAt text (positionAt text o) := by
  obtain ⟨a, b, hcut, hb, hoffset⟩ := exists_offsetAt_positionAt hsize o
  obtain ⟨post, htext⟩ := takeUnits_prefix o text
  have hbefore : before text (positionAt text o) = a := by
    rw [before, hoffset, ← htext, hcut, List.append_assoc, takeUnits_size_append]
  rw [hbefore]
  exact ⟨b, hcut, hb, hoffset.symm⟩

end Text

namespace ShellVariable
open Text
variable {c : Char} {t lead name rest recipe : List Char} {r : Range}

/-! ### The first name of a text -/

/-- A text consists of what stands before its first name, of the name, and of what stands behind it. -/
structure FirstName (t lead name rest : List Char) : Prop where
  text_eq : t = lead ++ name ++ rest
  lead_free : ∀ c ∈ lead, isNameChar c = false
  name_ne_nil : name ≠ []
  all_name : ∀ c ∈ name, isNameChar c = true
  stops : ∀ c, rest.head? = some c → isNameChar c = false

theorem FirstName.cons (h : FirstName t lead name rest) (hc : isNameChar c = false) :
    FirstName (c :: t) (c :: lead) name rest where
  text_eq := by rw [h.text_eq]; rfl
  lead_free d hd := by
    rcases List.mem_cons.1 hd with rfl | hd
    · exact hc
    · exact h.lead_free d hd
  name_ne_nil := h.name_ne_nil
  all_name := h.all_name
  stops := h.stops

theorem firstName_of_head (hc : isNameChar c = true) :
    FirstName (c :: t) [] (c :: t.takeWhile isNameChar) (t.dropWhile isNameChar) where
  text_eq := by rw [List.nil_append, List.cons_append, List.takeWhile_append_dropWhile]
  lead_free d hd := nomatch hd
  name_ne_nil := by simp
  all_name d hd := by
    rcases List.mem_cons.1 hd with rfl | hd
    · exact hc
    · exact List.all_eq_true.1 List.all_takeWhile d hd
  stops d hd := by
    have hstop := List.head?_dropWhile_not isNameChar t
    rw [hd] at hstop
    exact hstop

theorem exists_firstName (h : ∃ c ∈ t, isNameChar c = true) : ∃ lead name rest, FirstName t lead name rest := by
  obtain ⟨x, hx, hname⟩ := h
  induction t with
  | nil => cases hx
  | cons c cs ih =>
    by_cases hc : isNameChar c = true
    · exact ⟨_, _, _, firstName_of_head hc⟩
    · have hcs : x ∈ cs := by
        rcases List.mem_cons.1 hx with rfl | hcs
        · exact absurd hname hc
        · exact hcs
      obtain ⟨lead, name, rest, hfirst⟩ := ih hcs
      exact ⟨c :: lead, name, rest, hfirst.cons (Bool.eq_false_iff.2 hc)⟩

/-- The first name is the one that is looked for. -/
theorem FirstName.uptoName?_eq (h : FirstName t lead name rest) : uptoName? t = some (lead ++ name) := by
  have hlead : ∀ c ∈ lead, (!isNameChar c) = true := fun c hc => by simp [h.lead_free c hc]
  have hname : (name ++ rest).dropWhile (!isNameChar ·) = name ++ rest ∧
      (name ++ rest).takeWhile (!isNameChar ·) = [] := by
    obtain ⟨c, cs, hcs⟩ := List.exists_cons_of_ne_nil h.name_ne_nil
    have hc : isNameChar c = true := h.all_name c (by simp [hcs])
    simp [hcs, hc]
  have hrest : rest.takeWhile isNameChar = [] := by
    cases hrest : rest with
    | nil => rfl
    | cons c cs => simp [h.stops c (by simp [hrest])]
  have htext : t = lead ++ (name ++ rest) := by rw [h.text_eq, List.append_assoc]
  rw [uptoName?, htext, List.dropWhile_append_of_pos hlead, List.takeWhile_append_of_pos hlead, hname.1,
    hname.2, List.takeWhile_append_of_pos h.all_name, hrest]
  simp [h.name_ne_nil]

theorem uptoName?_eq_none (h : ∀ c ∈ t, isNameChar c = false) : uptoName? t = none := by
  have hall : ∀ c ∈ t, (!isNameChar c) = true := fun c hc => by simp [h c hc]
  have hnone : (t ++ []).dropWhile (!isNameChar ·) = [] := List.dropWhile_append_of_pos hall
  rw [List.append_nil] at hnone
  rw [uptoName?, hnone]
  rfl

/-! ### The end of the name in a range -/

theorem nameEnd_of_no_name (h : ∀ c ∈ slice recipe r, isNameChar c = false) : nameEnd recipe r = pure r.stop := by
  unfold nameEnd
  dsimp only
  rw [uptoName?_eq_none h]
  cases slice recipe r <;> rfl

theorem nameEnd_of_name_at_start (h : (slice recipe r).head? = some c) (hc : isNameChar c = true) :
    nameEnd recipe r = pure r.stop := by
  obtain ⟨cs, hcs⟩ := List.head?_eq_some_iff.1 h
  unfold nameEnd
  dsimp only
  rw [hcs, (firstName_of_head hc).uptoName?_eq]
  exact if_pos hc

theorem nameEnd_of_firstName (h : FirstName (slice recipe r) lead name rest) (hne : lead ≠ []) :
    nameEnd recipe r = advance recipe r.start (UInt64.ofNat (size (lead ++ name))) := by
  obtain ⟨c, cs, hcs⟩ := List.exists_cons_of_ne_nil hne
  have hc : isNameChar c = false := h.lead_free c (by simp [hcs])
  have hslice : slice recipe r = c :: (cs ++ name ++ rest) := by simp [h.text_eq, hcs]
  have hupto := h.uptoName?_eq
  unfold nameEnd
  dsimp only
  rw [hslice] at hupto ⊢
  rw [hupto]
  exact if_neg (by simp [hc])

/-! ### Where the name stands in the recipe -/

/-- The characters of names are ASCII. -/
theorem units_of_isNameChar (h : isNameChar c = true) : units c = 1 := by
  have hlt : c.toNat < 0x10000 := by
    change c.val.toNat < 0x10000
    rcases Bool.or_eq_true_iff.1 h with halnum | hline
    · rcases Bool.or_eq_true_iff.1 halnum with halpha | hdigit
      · rcases Bool.or_eq_true_iff.1 halpha with hupper | hlower
        · have hle : c.val ≤ 90 := (of_decide_eq_true hupper : c.val ≥ 65 ∧ c.val ≤ 90).2
          exact Nat.lt_of_le_of_lt (UInt32.le_iff_toNat_le.1 hle) (by decide)
        · have hle : c.val ≤ 122 := of_decide_eq_true (Bool.and_eq_true_iff.1 hlower).2
          exact Nat.lt_of_le_of_lt (UInt32.le_iff_toNat_le.1 hle) (by decide)
      · have hle : c.val ≤ 57 := of_decide_eq_true (Bool.and_eq_true_iff.1 hdigit).2
        exact Nat.lt_of_le_of_lt (UInt32.le_iff_toNat_le.1 hle) (by decide)
    · rw [beq_iff_eq.1 hline]
      decide
  rw [units, if_pos hlt]

theorem ne_return_of_isNameChar (h : isNameChar c = true) : c ≠ '\r' := by
  rintro rfl
  exact absurd h (by decide)

theorem not_inLineEnd_of_name (hne : name ≠ []) (hall : ∀ c ∈ name, isNameChar c = true) :
    ¬ InLineEnd (lead ++ name) rest := by
  rintro ⟨⟨a, ha⟩, -⟩
  rcases List.eq_nil_or_concat name with rfl | ⟨cs, c, rfl⟩
  · exact hne rfl
  · rw [List.concat_eq_append, ← List.append_assoc] at ha
    have hc : c = '\r' := by simpa using List.append_inj_right' ha rfl
    exact ne_return_of_isNameChar (hall c (by simp)) hc

namespace FirstName

theorem slice_ne_nil (h : FirstName t lead name rest) : t ≠ [] := by
  rw [h.text_eq]
  simp [h.name_ne_nil]

theorem exists_recipe_eq (h : FirstName (slice recipe r) lead name rest) :
    ∃ post, recipe = before recipe r.start ++ lead ++ name ++ post := by
  obtain ⟨post, hpost⟩ := takeUnits_prefix (offsetAt recipe r.stop) recipe
  refine ⟨rest ++ post, ?_⟩
  have hstop := before_append_slice h.slice_ne_nil
  rw [h.text_eq] at hstop
  simp only [← List.append_assoc] at hstop ⊢
  rw [hstop]
  exact hpost.symm

theorem takeUnits_eq (h : FirstName (slice recipe r) lead name rest) :
    takeUnits (size (before recipe r.start ++ lead ++ name)) recipe =
      before recipe r.start ++ lead ++ name := by
  obtain ⟨post, hrecipe⟩ := h.exists_recipe_eq
  exact (congrArg (takeUnits _) hrecipe).trans (takeUnits_size_append _ post)

theorem size_le (h : FirstName (slice recipe r) lead name rest) :
    size (before recipe r.start ++ lead ++ name) ≤ size recipe := by
  obtain ⟨post, hrecipe⟩ := h.exists_recipe_eq
  have := congrArg size hrecipe
  rw [size_append] at this
  omega

/-- The name ends before the range does. -/
theorem size_le_offsetAt_stop (h : FirstName (slice recipe r) lead name rest) :
    size (before recipe r.start ++ lead ++ name) ≤ offsetAt recipe r.stop := by
  have hstop := before_append_slice h.slice_ne_nil
  rcases List.eq_nil_or_concat name with hnil | ⟨cs, c, hcs⟩
  · exact absurd hnil h.name_ne_nil
  rw [List.concat_eq_append] at hcs
  have hcut : takeUnits (offsetAt recipe r.stop) recipe =
      (before recipe r.start ++ lead ++ cs) ++ c :: rest := by
    rw [h.text_eq, hcs] at hstop
    rw [← before, ← hstop]
    simp
  have hlt := size_lt_of_takeUnits_eq hcut
  have hunits : units c = 1 := units_of_isNameChar (h.all_name c (by simp [hcs]))
  simp only [hcs, size_append, size, hunits] at hlt ⊢
  omega

section
variable {o : Nat} (h : FirstName (slice recipe r) lead name rest) (hsize : size recipe < UInt32.size)
  (hstart : r.start = positionAt recipe o)
include h hsize hstart

theorem nameEnd_eq (hlead : lead ≠ []) :
    nameEnd recipe r = pure (positionAt recipe (size (before recipe r.start ++ lead ++ name))) := by
  obtain ⟨b, -, -, hoffset⟩ := exists_before_positionAt hsize o
  rw [← hstart] at hoffset
  have hsum : offsetAt recipe r.start + size (lead ++ name) =
      size (before recipe r.start ++ lead ++ name) := by
    rw [← hoffset]
    simp only [size_append]
    omega
  have hle := h.size_le
  have hword : UInt32.size ≤ UInt64.size := by decide
  rw [nameEnd_of_firstName h hlead, advance_eq hsize (by omega), hsum]

theorem offsetAt_nameEnd (hlead : lead ≠ []) :
    offsetAt recipe (nameEnd recipe r).value = size (before recipe r.start ++ lead ++ name) := by
  obtain ⟨post, hrecipe⟩ := h.exists_recipe_eq
  have hend : ¬ InLineEnd (before recipe r.start ++ lead ++ name) post :=
    not_inLineEnd_of_name h.name_ne_nil h.all_name
  rw [h.nameEnd_eq hsize hstart hlead, Reckoned.value_pure]
  exact offsetAt_positionAt_of_eq hrecipe hsize hend

theorem before_nameEnd (hlead : lead ≠ []) :
    before recipe (nameEnd recipe r).value = before recipe r.start ++ lead ++ name := by
  rw [before, h.offsetAt_nameEnd hsize hstart hlead, h.takeUnits_eq]

/-- What stands between the offset of the start and the start does not reach into the name. -/
theorem start_le_nameEnd (hlead : lead ≠ []) : r.start ≤ (nameEnd recipe r).value := by
  obtain ⟨post, hrecipe⟩ := h.exists_recipe_eq
  obtain ⟨b, hcut, hb, -⟩ := exists_before_positionAt hsize o
  rw [← hstart] at hcut
  have hprefix : takeUnits o recipe <+: before recipe r.start ++ lead ++ name := by
    have hname : before recipe r.start ++ lead ++ name <+: recipe := ⟨post, hrecipe.symm⟩
    have hstart : takeUnits o recipe <+: recipe := takeUnits_prefix o recipe
    rcases List.prefix_or_prefix_of_prefix hstart hname with hle | hge
    · exact hle
    · -- the name would consist of carriage returns
      rw [hcut, List.append_assoc, List.prefix_append_right_inj] at hge
      obtain ⟨c, cs, hcs⟩ := List.exists_cons_of_ne_nil h.name_ne_nil
      have hc : c = '\r' := hb c (hge.subset (by simp [hcs]))
      exact absurd hc (ne_return_of_isNameChar (h.all_name c (by simp [hcs])))
  have hposition : (nameEnd recipe r).value = endPosition (before recipe r.start ++ lead ++ name) := by
    rw [h.nameEnd_eq hsize hstart hlead, Reckoned.value_pure, positionAt, h.takeUnits_eq]
  have hle := endPosition_le_of_prefix hprefix (Nat.lt_of_le_of_lt h.size_le hsize)
  rwa [← positionAt, ← hstart, ← hposition] at hle

theorem slice_start_nameEnd (hlead : lead ≠ []) :
    slice recipe ⟨r.start, (nameEnd recipe r).value⟩ = lead ++ name := by
  rw [slice, h.before_nameEnd hsize hstart hlead, List.append_assoc, List.drop_left]

end

end FirstName

/-- For recipes with less than 2^32 units and a range that starts at the position of an offset: if the
range covers no name, or starts with one, the tooling is asked at its end; otherwise at a position within
it, and from its start to there stands its text up to the end of the first name. No sum on the way there
exceeds its word. -/
theorem nameEnd_ends_first_name (recipe : List Char) (r : Range) (o : Nat) (hsize : size recipe < UInt32.size)
    (hstart : r.start = positionAt recipe o) :
    ((∀ c ∈ slice recipe r, isNameChar c = false) → nameEnd recipe r = pure r.stop) ∧
    (∀ c, (slice recipe r).head? = some c → isNameChar c = true → nameEnd recipe r = pure r.stop) ∧
    ((∃ c ∈ slice recipe r, isNameChar c = true) →
      (∀ c, (slice recipe r).head? = some c → isNameChar c = false) →
        ∃ position lead name rest, nameEnd recipe r = pure position ∧
          FirstName (slice recipe r) lead name rest ∧ r.start ≤ position ∧
          offsetAt recipe position ≤ offsetAt recipe r.stop ∧
          slice recipe ⟨r.start, position⟩ = lead ++ name) := by
  refine ⟨nameEnd_of_no_name, fun c => nameEnd_of_name_at_start, ?_⟩
  intro hsome hhead
  obtain ⟨lead, name, rest, hfirst⟩ := exists_firstName hsome
  have hlead : lead ≠ [] := by
    rintro rfl
    obtain ⟨c, cs, hcs⟩ := List.exists_cons_of_ne_nil hfirst.name_ne_nil
    have hname := hfirst.all_name c (by simp [hcs])
    have hno := hhead c (by simp [hfirst.text_eq, hcs])
    exact absurd (hname.symm.trans hno) (by decide)
  have hend : nameEnd recipe r = pure (nameEnd recipe r).value := by
    rw [hfirst.nameEnd_eq hsize hstart hlead, Reckoned.value_pure]
  refine ⟨(nameEnd recipe r).value, lead, name, rest, hend, hfirst,
    hfirst.start_le_nameEnd hsize hstart hlead, ?_, hfirst.slice_start_nameEnd hsize hstart hlead⟩
  rw [hfirst.offsetAt_nameEnd hsize hstart hlead]
  exact hfirst.size_le_offsetAt_stop

/-! ### A name on the next line -/

namespace Sample

def crossing : List Char := "a\r\n🐍$FOO/b\n".toList

/-- From behind the carriage return up to behind the slash. -/
def range : Range := ⟨⟨0, 2⟩, ⟨1, 7⟩⟩

end Sample

open Sample in
theorem nameEnd_ends_first_name_of_next_line :
    range.start = positionAt crossing 2 ∧ ∃ position, nameEnd crossing range = pure position ∧
      range.start ≤ position ∧ slice crossing ⟨range.start, position⟩ = "\r\n🐍$FOO".toList := by
  have hslice : slice crossing range = "\r\n🐍$FOO/".toList := by decide
  have hstart : range.start = positionAt crossing 2 := by decide
  have hsome : ∃ c ∈ slice crossing range, isNameChar c = true := ⟨'F', by rw [hslice]; decide, by decide⟩
  have hhead : ∀ c, (slice crossing range).head? = some c → isNameChar c = false := by
    rw [hslice]
    rintro c ⟨⟩
    decide
  obtain ⟨position, lead, name, rest, hend, hfirst, hle, -, hcovers⟩ :=
    (nameEnd_ends_first_name crossing range 2 (by decide) hstart).2.2 hsome hhead
  have hupto : uptoName? (slice crossing range) = some "\r\n🐍$FOO".toList := by decide
  refine ⟨hstart, position, hend, hle, hcovers.trans ?_⟩
  exact Option.some.inj (hfirst.uptoName?_eq.symm.trans hupto)

end ShellVariable
end RecipeDiag
