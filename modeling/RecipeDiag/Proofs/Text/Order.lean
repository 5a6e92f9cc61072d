import RecipeDiag.Proofs.Text.Copy

/-!
# Offsets and positions in order

Going from offsets to positions keeps their order (`positionAt_le_positionAt`), for texts whose lines
and units a position can count: behind a longer prefix no position is smaller. An origin table whose
entries increase therefore carries ranges over in order, also when the recipe has become too short for
its entries (`mapRange_keeps_order`): one within another, or before it, stays so.
-/

namespace RecipeDiag

namespace Position
variable {p q r : Position}

theorem le_iff : p ≤ q ↔ p.line.toNat < q.line.toNat ∨
    p.line.toNat = q.line.toNat ∧ p.character.toNat ≤ q.character.toNat := by
  change p.line < q.line ∨ (p.line = q.line ∧ p.character ≤ q.character) ↔ _
  rw [UInt32.lt_iff_toNat_lt, UInt32.le_iff_toNat_le, ← UInt32.toNat_inj]

theorem le_refl (p : Position) : p ≤ p := .inr ⟨rfl, UInt32.le_refl _⟩

theorem le_trans (hpq : p ≤ q) (hqr : q ≤ r) : p ≤ r := by
  rw [le_iff] at *
  omega

theorem le_total (p q : Position) : p ≤ q ∨ q ≤ p := by
  rw [le_iff, le_iff]
  omega

end Position

namespace Text
variable {c : Char} {p : Position} {text pre : List Char} {m n : Nat}

/-! ### Prefixes -/

theorem takeUnits_prefix_takeUnits (h : m ≤ n) (text : List Char) : takeUnits m text <+: takeUnits n text := by
  induction text generalizing m n with
  | nil => cases m <;> exact List.nil_prefix
  | cons c cs ih =>
    cases m with
    | zero => exact List.nil_prefix
    | succ m =>
      obtain ⟨n, rfl⟩ : ∃ k, n = k + 1 := ⟨n - 1, by omega⟩
      exact List.cons_prefix_cons.2 ⟨rfl, ih (by omega)⟩

/-! ### Positions behind prefixes -/

theorem le_after (h : p.line.toNat + p.character.toNat + units c < UInt32.size) :
    p ≤ after p c ∧
      (after p c).line.toNat + (after p c).character.toNat ≤ p.line.toNat + p.character.toNat + units c := by
  -- neither counter is exhausted
  refine ⟨?_, counters_after_le h⟩
  have hunits := units_pos c
  rw [Position.le_iff]
  unfold after
  split
  · have hline : (p.line + 1).toNat = p.line.toNat + 1 := toNat_counter_add (k := 1) (by omega)
    simp only [hline]
    omega
  · have hcharacter : (p.character + UInt32.ofNat (units c)).toNat = p.character.toNat + units c :=
      toNat_counter_add (by omega)
    simp only [hcharacter, true_and]
    omega

theorem le_foldl_after (h : p.line.toNat + p.character.toNat + size text < UInt32.size) :
    p ≤ text.foldl after p ∧ (text.foldl after p).line.toNat + (text.foldl after p).character.toNat ≤
      p.line.toNat + p.character.toNat + size text := by
  induction text generalizing p with
  | nil => exact ⟨Position.le_refl p, Nat.le_refl _⟩
  | cons c cs ih =>
    rw [size] at h ⊢
    obtain ⟨hle, hsum⟩ := le_after (p := p) (c := c) (by omega)
    obtain ⟨hle', hsum'⟩ := ih (p := after p c) (by omega)
    rw [List.foldl_cons]
    exact ⟨Position.le_trans hle hle', by omega⟩

/-- Behind a longer prefix no position is smaller. -/
theorem endPosition_le_of_prefix (h : pre <+: text) (hsize : size text < UInt32.size) :
    endPosition pre ≤ endPosition text := by
  obtain ⟨rest, rfl⟩ := h
  rw [size_append] at hsize
  have hzero : Position.origin.line.toNat + Position.origin.character.toNat = 0 := rfl
  have hpre : Position.origin.line.toNat + Position.origin.character.toNat + size pre < UInt32.size := by
    omega
  obtain ⟨-, hsum⟩ := le_foldl_after hpre
  rw [endPosition, endPosition, List.foldl_append]
  exact (le_foldl_after (by omega)).1

theorem positionAt_le_positionAt (hsize : size text < UInt32.size) (h : m ≤ n) :
    positionAt text m ≤ positionAt text n := by
  refine endPosition_le_of_prefix (takeUnits_prefix_takeUnits h text) ?_
  obtain ⟨rest, hrest⟩ := takeUnits_prefix n text
  have hsplit : size text = size (takeUnits n text) + size rest := by rw [← size_append, hrest]
  omega

end Text

namespace OriginTable
open Text

section
variable {t : OriginTable} {recipe generated : List Char} {r r' : Range}

/-- The units that come from the recipe come from it in order. -/
structure Increasing (t : OriginTable) : Prop where
  lt : ∀ i j o o', i < j → t.get? i = some o → t.get? j = some o' → o.toNat < o'.toNat
  /-- An offset has a next one. -/
  bound : ∀ i o, t.get? i = some o → o.toNat + 1 < UInt64.size

theorem Increasing.le {i j : Nat} {o o' : UInt64} (h : t.Increasing) (hij : i ≤ j) (ho : t.get? i = some o)
    (ho' : t.get? j = some o') : o.toNat ≤ o'.toNat := by
  rcases Nat.lt_or_eq_of_le hij with hlt | rfl
  · exact Nat.le_of_lt (h.lt i j o o' hlt ho ho')
  · exact Nat.le_of_eq (congrArg UInt64.toNat (Option.some.inj (ho.symm.trans ho')))

theorem Increasing.toNat_add_one {i : Nat} {o : UInt64} (h : t.Increasing) (ho : t.get? i = some o) :
    (o + 1).toNat = o.toNat + 1 :=
  toNat_offset_add (k := 1) (h.bound i o ho)

theorem start_of_mapRange (h : (t.mapRange recipe generated r).value = some r') :
    ∃ o, t.get? (offsetAt generated r.start) = some o ∧ r'.start = positionAt recipe o.toNat := by
  unfold mapRange at h
  split at h
  · cases h
  · next o ho =>
    refine ⟨o, ho, ?_⟩
    rw [Reckoned.value_bind] at h
    dsimp only at h
    split at h
    · cases h
      rfl
    · split at h <;> cases h
      rfl

theorem stop_of_mapRange (h : (t.mapRange recipe generated r).value = some r')
    (hlt : offsetAt generated r.start < offsetAt generated r.stop) :
    ∃ o, t.get? (offsetAt generated r.stop - 1) = some o ∧ r'.stop = positionAt recipe (o + 1).toNat := by
  unfold mapRange at h
  split at h
  · cases h
  · rw [Reckoned.value_bind, if_neg (Nat.not_le.2 hlt)] at h
    split at h
    · cases h
    · next o ho =>
      cases h
      exact ⟨o, ho, rfl⟩

theorem stop_eq_start_of_mapRange (h : (t.mapRange recipe generated r).value = some r')
    (hle : offsetAt generated r.stop ≤ offsetAt generated r.start) : r'.stop = r'.start := by
  unfold mapRange at h
  split at h
  · cases h
  · rw [Reckoned.value_bind, if_pos hle] at h
    cases h
    rfl

/-- A range is mapped if its first unit has an origin and so has the last one, if there is one. -/
theorem exists_mapRange_iff : (∃ r', (t.mapRange recipe generated r).value = some r') ↔
    (∃ first, t.get? (offsetAt generated r.start) = some first) ∧
      (offsetAt generated r.start < offsetAt generated r.stop →
        ∃ last, t.get? (offsetAt generated r.stop - 1) = some last) := by
  constructor
  · rintro ⟨r', h⟩
    obtain ⟨first, hfirst, -⟩ := start_of_mapRange h
    refine ⟨⟨first, hfirst⟩, fun hlt => ?_⟩
    obtain ⟨last, hlast, -⟩ := stop_of_mapRange h hlt
    exact ⟨last, hlast⟩
  · rintro ⟨⟨first, hfirst⟩, hlast⟩
    simp only [mapRange, hfirst, Reckoned.value_bind]
    split
    · exact ⟨_, rfl⟩
    · next hle =>
      obtain ⟨last, hlast⟩ := hlast (Nat.not_le.1 hle)
      simp only [hlast, Reckoned.value_bind]
      exact ⟨_, rfl⟩

/-- If positions of the recipe can be counted, the one sum that may not fit is the offset behind the last
unit. -/
theorem fits_mapRange_iff (hsize : size recipe < UInt32.size) : (t.mapRange recipe generated r).fits = true ↔
    ∀ first last, t.get? (offsetAt generated r.start) = some first →
      offsetAt generated r.start < offsetAt generated r.stop →
      t.get? (offsetAt generated r.stop - 1) = some last → last.toNat + 1 < UInt64.size := by
  unfold mapRange
  split
  · next hnone => simp [hnone]
  · next first hfirst =>
    rw [Reckoned.fits_bind, countPosition_eq hsize, Reckoned.fits_pure, Bool.true_and]
    dsimp only
    split
    · next hle => simp [Nat.not_lt.2 hle]
    · next hlt =>
      split
      · next hnone => simp [hnone]
      · next last hlast =>
        have hone : (1 : UInt64).toNat = 1 := rfl
        simp [hfirst, hlast, Nat.not_le.1 hlt, countPosition_eq hsize, Reckoned.offsetSum, hone]

theorem start_le_stop_of_mapRange (ht : t.Increasing) (hsize : size recipe < UInt32.size)
    (h : (t.mapRange recipe generated r).value = some r') : r'.start ≤ r'.stop := by
  rcases Nat.lt_or_ge (offsetAt generated r.start) (offsetAt generated r.stop) with hlt | hle
  · obtain ⟨o, ho, hstart⟩ := start_of_mapRange h
    obtain ⟨o', ho', hstop⟩ := stop_of_mapRange h hlt
    have hoo' := ht.le (Nat.le_sub_one_of_lt hlt) ho ho'
    rw [hstart, hstop, ht.toNat_add_one ho']
    exact positionAt_le_positionAt hsize (by omega)
  · rw [stop_eq_start_of_mapRange h hle]
    exact Position.le_refl _

/-- With entries that increase, for recipes with less than 2^32 units, every range that is mapped
starts and ends at positions of the recipe, in this order. Of two ranges that cover something, if one
lies within the other or ends before the other starts, so do their images. All sums on the way fit. -/
theorem mapRange_keeps_order (t : OriginTable) (recipe generated : List Char) (ht : t.Increasing)
    (hsize : size recipe < UInt32.size) :
    (∀ r, (t.mapRange recipe generated r).fits = true) ∧
    (∀ r r', (t.mapRange recipe generated r).value = some r' → r'.start ≤ r'.stop ∧
      (∃ o : UInt64, r'.start = positionAt recipe o.toNat) ∧
        ∃ o : UInt64, r'.stop = positionAt recipe o.toNat) ∧
    ∀ r₁ r₂ r₁' r₂', offsetAt generated r₁.start < offsetAt generated r₁.stop →
      offsetAt generated r₂.start < offsetAt generated r₂.stop →
      (t.mapRange recipe generated r₁).value = some r₁' →
      (t.mapRange recipe generated r₂).value = some r₂' →
      (offsetAt generated r₂.start ≤ offsetAt generated r₁.start →
        offsetAt generated r₁.stop ≤ offsetAt generated r₂.stop →
          r₂'.start ≤ r₁'.start ∧ r₁'.stop ≤ r₂'.stop) ∧
      (offsetAt generated r₁.stop ≤ offsetAt generated r₂.start → r₁'.stop ≤ r₂'.start) := by
  refine ⟨?_, ?_, ?_⟩
  · intro r
    exact (fits_mapRange_iff hsize).2 fun _ last _ _ hlast => ht.bound _ last hlast
  · intro r r' h
    obtain ⟨o, -, hstart⟩ := start_of_mapRange h
    refine ⟨start_le_stop_of_mapRange ht hsize h, ⟨o, hstart⟩, ?_⟩
    rcases Nat.lt_or_ge (offsetAt generated r.start) (offsetAt generated r.stop) with hlt | hle
    · obtain ⟨o', -, hstop⟩ := stop_of_mapRange h hlt
      exact ⟨o' + 1, hstop⟩
    · exact ⟨o, (stop_eq_start_of_mapRange h hle).trans hstart⟩
  · intro r₁ r₂ r₁' r₂' hlt₁ hlt₂ h₁ h₂
    obtain ⟨a₁, ha₁, hstart₁⟩ := start_of_mapRange h₁
    obtain ⟨a₂, ha₂, hstart₂⟩ := start_of_mapRange h₂
    obtain ⟨b₁, hb₁, hstop₁⟩ := stop_of_mapRange h₁ hlt₁
    obtain ⟨b₂, hb₂, hstop₂⟩ := stop_of_mapRange h₂ hlt₂
    rw [ht.toNat_add_one hb₁] at hstop₁
    rw [ht.toNat_add_one hb₂] at hstop₂
    rw [hstart₁, hstart₂, hstop₁, hstop₂]
    constructor
    · intro hstart hstop
      have ha := ht.le hstart ha₂ ha₁
      have hb := ht.le (Nat.sub_le_sub_right hstop 1) hb₁ hb₂
      exact ⟨positionAt_le_positionAt hsize ha, positionAt_le_positionAt hsize (by omega)⟩
    · intro hbefore
      -- the last unit of the first range comes before the first unit of the second
      have hba := ht.lt _ _ b₁ a₂ (by omega) hb₁ ha₂
      exact positionAt_le_positionAt hsize hba

end

/-! ### A recipe that was shortened -/

namespace Sample

/-- The recipe as it is once its second line was deleted. -/
def shortened : List Char := "do() (\r\n".toList

/-- The letter in the second line of the script. -/
def letter : Range := ⟨⟨2, 1⟩, ⟨2, 2⟩⟩

theorem toNat_of_get?_table {i : Nat} {o : UInt64} (h : table.get? i = some o) : o.toNat = i + 2 ∧ i < 13 := by
  have hlt : i < 13 := by
    rcases Nat.lt_or_ge i 13 with hlt | hge
    · exact hlt
    · have hnone : table.get? i = none := by
        rw [get?, List.getElem?_eq_none hge]
        rfl
      exact nomatch hnone.symm.trans h
  have hall : ∀ i < 13, (table.get? i).all (fun o => o.toNat = i + 2) = true := by decide
  exact ⟨by simpa [h] using hall i hlt, hlt⟩

theorem increasing_table : table.Increasing where
  lt i j o o' hij ho ho' := by
    have hi := toNat_of_get?_table ho
    have hj := toNat_of_get?_table ho'
    omega
  bound i o ho := by
    have hi := toNat_of_get?_table ho
    exact Nat.lt_trans (by omega : o.toNat + 1 < 16) (by decide)

end Sample

open Sample in
theorem mapRange_keeps_order_of_shortened :
    ∃ r' s', table.mapRange shortened generated letter = pure (some r') ∧
      table.mapRange shortened generated range = pure (some s') ∧ s'.start ≤ r'.start ∧ r'.stop ≤ s'.stop := by
  have hletter : (table.mapRange shortened generated letter).value = some ⟨⟨1, 0⟩, ⟨1, 0⟩⟩ := by decide
  have hrange : (table.mapRange shortened generated range).value = some ⟨⟨0, 5⟩, ⟨1, 0⟩⟩ := by decide
  obtain ⟨hfits, -, hkeeps⟩ := mapRange_keeps_order table shortened generated increasing_table (by decide)
  exact ⟨_, _, Reckoned.eq_pure_iff.2 ⟨hletter, hfits letter⟩, Reckoned.eq_pure_iff.2 ⟨hrange, hfits range⟩,
    (hkeeps letter range _ _ (by decide) (by decide) hletter hrange).1 (by decide) (by decide)⟩

end OriginTable
end RecipeDiag
