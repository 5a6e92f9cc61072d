import RecipeDiag.Proofs.Reconciler.Judgement
import RecipeDiag.Proofs.Rule.NameEnd
import RecipeDiag.Proofs.Text.Slicing

/-!
# Sums that fit a word

Positions are counted in 32-bit words and offsets in 64-bit words. On a recipe that leaves room for one
more unit than it has, no counter of a position is exhausted (`toNat_line_add_one`,
`toNat_character_add_units`), a position that a range is carried over to has a next one
(`fits_insideStart`), and an offset can be moved up to the end of a name in the range (`fits_nameEnd`).
The entries of an origin table are not bounded by any text, so the offset behind an entry is the one sum
that may not fit: no offset comes behind the greatest word, and a program that checks its sums ends there
(`only_greatest_offset_overflows`).
-/

namespace RecipeDiag

namespace Text
variable {text pre post : List Char} {c : Char} {n : Nat}

/-! ### The counters of a position -/

theorem counters_endPosition_le (h : size pre < UInt32.size) :
    (endPosition pre).line.toNat + (endPosition pre).character.toNat ≤ size pre := by
  have hzero : Position.origin.line.toNat + Position.origin.character.toNat = 0 := rfl
  have hroom : Position.origin.line.toNat + Position.origin.character.toNat + size pre < UInt32.size := by
    omega
  obtain ⟨-, hsum⟩ := le_foldl_after hroom
  rwa [hzero, Nat.zero_add] at hsum

theorem counters_positionAt_le (h : size text < UInt32.size) (n : Nat) :
    (positionAt text n).line.toNat + (positionAt text n).character.toNat ≤ size text := by
  have hcut := size_takeUnits_le n text
  exact Nat.le_trans (counters_endPosition_le (Nat.lt_of_le_of_lt hcut h)) hcut

/-- What has been gone through leaves room for the next character. -/
theorem counters_add_units_lt (htext : text = pre ++ c :: post) (h : size text < UInt32.size) :
    (endPosition pre).line.toNat + (endPosition pre).character.toNat + units c < UInt32.size := by
  have hsize : size text = size pre + (units c + size post) := by rw [htext, size_append, size]
  have hpre : size pre < UInt32.size := by omega
  have hle := counters_endPosition_le hpre
  omega

theorem toNat_line_add_one (htext : text = pre ++ c :: post) (h : size text < UInt32.size) :
    ((endPosition pre).line + 1).toNat = (endPosition pre).line.toNat + 1 := by
  have hlt := counters_add_units_lt htext h
  have hunits := units_pos c
  exact toNat_counter_add (k := 1) (by omega)

theorem toNat_character_add_units (htext : text = pre ++ c :: post) (h : size text < UInt32.size) :
    ((endPosition pre).character + UInt32.ofNat (units c)).toNat =
      (endPosition pre).character.toNat + units c := by
  have hlt := counters_add_units_lt htext h
  exact toNat_counter_add (by omega)

/-! ### Offsets behind the end -/

theorem takeUnits_of_size_le (h : size text ≤ n) : takeUnits n text = text := by
  induction text generalizing n with
  | nil => cases n <;> rfl
  | cons c cs ih =>
    have hunits := units_pos c
    rw [size] at h
    rw [takeUnits_cons (by omega), ih (by omega)]

theorem positionAt_of_size_le (h : size text ≤ n) : positionAt text n = endPosition text := by
  rw [positionAt, takeUnits_of_size_le h]

end Text

/-! ### The end of a name -/

namespace ShellVariable
open Text
variable {t upto lead name rest recipe : List Char} {r : Range}

theorem exists_firstName_of_uptoName? (h : uptoName? t = some upto) :
    ∃ lead name rest, FirstName t lead name rest ∧ upto = lead ++ name := by
  by_cases hname : ∃ c ∈ t, isNameChar c = true
  · obtain ⟨lead, name, rest, hfirst⟩ := exists_firstName hname
    exact ⟨lead, name, rest, hfirst, Option.some.inj (h.symm.trans hfirst.uptoName?_eq)⟩
  · have hnone : uptoName? t = none := by
      refine uptoName?_eq_none fun c hc => Bool.eq_false_iff.2 fun hcn => hname ⟨c, hc, hcn⟩
    cases hnone.symm.trans h

/-- From the start of a range up to the end of the first name in it the recipe is not left. -/
theorem FirstName.offsetAt_add_size_le (h : FirstName (slice recipe r) lead name rest) :
    offsetAt recipe r.start + size (lead ++ name) ≤ size recipe := by
  have hstart := (roundsUp_before recipe r.start).le
  have hend := h.size_le
  simp only [size_append] at hend ⊢
  omega

theorem toNat_offsetAt_add_size (hsize : size recipe < UInt32.size) (h : uptoName? (slice recipe r) = some upto) :
    (UInt64.ofNat (offsetAt recipe r.start) + UInt64.ofNat (size upto)).toNat =
      offsetAt recipe r.start + size upto := by
  obtain ⟨lead, name, rest, hfirst, rfl⟩ := exists_firstName_of_uptoName? h
  have hle := hfirst.offsetAt_add_size_le
  have hword : UInt32.size ≤ UInt64.size := by decide
  exact toNat_ofNat_add_ofNat (by omega)

theorem fits_nameEnd (hsize : size recipe < UInt32.size) (r : Range) : (nameEnd recipe r).fits = true := by
  by_cases hname : ∃ c ∈ slice recipe r, isNameChar c = true
  · obtain ⟨lead, name, rest, hfirst⟩ := exists_firstName hname
    have hle := hfirst.offsetAt_add_size_le
    have hword : UInt32.size ≤ UInt64.size := by decide
    by_cases hlead : lead = []
    · subst hlead
      obtain ⟨c, cs, hcs⟩ := List.exists_cons_of_ne_nil hfirst.name_ne_nil
      have hhead : (slice recipe r).head? = some c := by simp [hfirst.text_eq, hcs]
      rw [nameEnd_of_name_at_start hhead (hfirst.all_name c (by simp [hcs]))]
      rfl
    · rw [nameEnd_of_firstName hfirst hlead, advance_eq hsize (by omega)]
      rfl
  · have hnone : ∀ c ∈ slice recipe r, isNameChar c = false := fun c hc =>
      Bool.eq_false_iff.2 fun hcn => hname ⟨c, hc, hcn⟩
    rw [nameEnd_of_no_name hnone]
    rfl

end ShellVariable

/-! ### Sums of an inquiry -/

namespace Rule
variable {p : PlacedFinding} {s : LanguageService} {recipe : Uri}

theorem fits_applies (hinside : (insideStart p.range).fits = true)
    (hname : (ShellVariable.nameEnd p.recipeText p.range).fits = true) (rule : Rule) :
    (rule.applies p).fits s recipe = true := by
  cases rule with
  | alwaysIgnoredCode => rfl
  | anonymousFunction => rfl
  | definedVariable =>
    simp only [applies]
    split
    · rw [Inquiry.fits_bind, Inquiry.fits_definitionsAt, hinside]
      split <;> rfl
    · rfl
  | assignedShellVariable =>
    simp only [applies]
    split
    · rw [Inquiry.fits_bind, Inquiry.fits_definitionsAt, hname]
      split <;> rfl
    · rfl

theorem fits_firstOf (hinside : (insideStart p.range).fits = true)
    (hname : (ShellVariable.nameEnd p.recipeText p.range).fits = true) (rules : List Rule) :
    (firstOf p rules).fits s recipe = true := by
  induction rules with
  | nil => rfl
  | cons rule rules ih =>
    rw [firstOf, Inquiry.fits_bind, fits_applies hinside hname, Bool.true_and]
    split
    · split
      · rfl
      · exact ih
    · rfl

end Rule

/-! ### The offset behind an entry -/

namespace Assignment
open Text
variable {a : Assignment} {r r' : Range} {f : Finding}

/-- Where the range starts there is an origin, and so there is for the last unit, if the range covers something. -/
structure HasOrigins (a : Assignment) (r : Range) : Prop where
  first : ∃ first, a.origins.get? (offsetAt a.generatedText r.start) = some first
  last : offsetAt a.generatedText r.start < offsetAt a.generatedText r.stop →
    ∃ last, a.origins.get? (offsetAt a.generatedText r.stop - 1) = some last

/-- The range covers something, and the last unit of it is said to come from the greatest of all offsets. -/
structure EndsAtGreatest (a : Assignment) (r : Range) : Prop where
  first : ∃ first, a.origins.get? (offsetAt a.generatedText r.start) = some first
  covers : offsetAt a.generatedText r.start < offsetAt a.generatedText r.stop
  last : ∃ last, a.origins.get? (offsetAt a.generatedText r.stop - 1) = some last ∧
    last.toNat + 1 = UInt64.size

/-- Where a range of the generated document ends up in the recipe. An entry beyond the recipe stands for its
end. -/
structure Carries (a : Assignment) (r r' : Range) : Prop where
  start : ∃ first, a.origins.get? (offsetAt a.generatedText r.start) = some first ∧
    r'.start = positionAt a.recipeText first.toNat ∧
    (size a.recipeText ≤ first.toNat → r'.start = endPosition a.recipeText)
  stop_of_empty : offsetAt a.generatedText r.stop ≤ offsetAt a.generatedText r.start → r'.stop = r'.start
  stop : offsetAt a.generatedText r.start < offsetAt a.generatedText r.stop →
    ∃ last, a.origins.get? (offsetAt a.generatedText r.stop - 1) = some last ∧
      (last + 1).toNat = last.toNat + 1 ∧ r'.stop = positionAt a.recipeText (last.toNat + 1) ∧
      (size a.recipeText ≤ last.toNat → r'.stop = endPosition a.recipeText)

section
variable (hsize : size a.recipeText < UInt32.size)
include hsize

theorem fits_mapRange_eq_false_iff :
    (a.origins.mapRange a.recipeText a.generatedText r).fits = false ↔ a.EndsAtGreatest r := by
  rw [← Bool.not_eq_true, OriginTable.fits_mapRange_iff hsize]
  constructor
  · intro h
    obtain ⟨first, h⟩ := Classical.not_forall.1 h
    obtain ⟨last, h⟩ := Classical.not_forall.1 h
    obtain ⟨hfirst, h⟩ := Classical.not_imp.1 h
    obtain ⟨hcovers, h⟩ := Classical.not_imp.1 h
    obtain ⟨hlast, h⟩ := Classical.not_imp.1 h
    have hlt : last.toNat < UInt64.size := last.toNat_lt_size
    exact ⟨⟨first, hfirst⟩, hcovers, last, hlast, by omega⟩
  · rintro ⟨⟨first, hfirst⟩, hcovers, last, hlast, hgreatest⟩ h
    exact absurd (h first last hfirst hcovers hlast) (by omega)

theorem exists_checked_mapRange_iff :
    (∃ r', (a.origins.mapRange a.recipeText a.generatedText r).checked? = some (some r')) ↔
      a.HasOrigins r ∧ ¬ a.EndsAtGreatest r := by
  have hmapped : (∃ r', (a.origins.mapRange a.recipeText a.generatedText r).value = some r') ↔ a.HasOrigins r :=
    OriginTable.exists_mapRange_iff.trans ⟨fun h => ⟨h.1, h.2⟩, fun h => ⟨h.first, h.last⟩⟩
  simp only [Reckoned.checked?_eq_some_iff, Reckoned.eq_pure_iff, exists_and_right, hmapped]
  rw [← fits_mapRange_eq_false_iff hsize, Bool.not_eq_false]

theorem carries_of_mapRange (h : a.origins.mapRange a.recipeText a.generatedText r = pure (some r')) :
    a.Carries r r' where
  start := by
    obtain ⟨first, hfirst, hstart⟩ := OriginTable.start_of_mapRange (Reckoned.eq_pure_iff.1 h).1
    refine ⟨first, hfirst, hstart, fun hle => ?_⟩
    rw [hstart, positionAt_of_size_le hle]
  stop_of_empty := OriginTable.stop_eq_start_of_mapRange (Reckoned.eq_pure_iff.1 h).1
  stop hlt := by
    obtain ⟨hvalue, hfits⟩ := Reckoned.eq_pure_iff.1 h
    obtain ⟨first, hfirst, -⟩ := OriginTable.start_of_mapRange hvalue
    obtain ⟨last, hlast, hstop⟩ := OriginTable.stop_of_mapRange hvalue hlt
    have hroom := (OriginTable.fits_mapRange_iff hsize).1 hfits first last hfirst hlt hlast
    have hnext : (last + 1).toNat = last.toNat + 1 := toNat_offset_add (k := 1) hroom
    rw [hnext] at hstop
    refine ⟨last, hlast, hnext, hstop, fun hle => ?_⟩
    rw [hstop, positionAt_of_size_le (Nat.le_succ_of_le hle)]

end

section
variable (hsize : size a.recipeText < UInt32.size - 1)
include hsize

/-- A position that a range is carried over to is not the last one of its line that can be counted. -/
theorem character_start_lt (h : (a.origins.mapRange a.recipeText a.generatedText r).value = some r') :
    r'.start.character.toNat + 1 < UInt32.size := by
  obtain ⟨first, -, hstart⟩ := OriginTable.start_of_mapRange h
  have hroom : size a.recipeText < UInt32.size := by omega
  have hle := counters_positionAt_le hroom first.toNat
  rw [← hstart] at hle
  omega

theorem fits_insideStart (h : (a.origins.mapRange a.recipeText a.generatedText r).value = some r') :
    (Rule.insideStart r').fits = true := by
  rw [Rule.insideStart, Reckoned.fits_bind, Reckoned.fits_pure, Bool.and_true]
  exact decide_eq_true (character_start_lt hsize h)

theorem fits_judgeAt (s : LanguageService) (recipe : Uri) :
    (a.judgeAt f (a.origins.mapRange a.recipeText a.generatedText f.range).value).fits s recipe = true := by
  cases hm : (a.origins.mapRange a.recipeText a.generatedText f.range).value with
  | none => rfl
  | some range =>
    have hname := ShellVariable.fits_nameEnd (by omega : size a.recipeText < UInt32.size) range
    rw [judgeAt, Inquiry.fits_bind, Inquiry.fits_languageAt, Bool.true_and]
    split
    · split
      · rw [judgeByRules, Inquiry.fits_bind, Rule.first,
          Rule.fits_firstOf (p := ⟨f, range, a.recipeText⟩) (fits_insideStart hsize hm) hname, Bool.true_and]
        split
        · split <;> rfl
        · rfl
      · rfl
    · rfl

/-- The way to a verdict has one sum that may not fit. -/
theorem fits_judge_eq_false_iff (s : LanguageService) (recipe : Uri) :
    (a.judge f).fits s recipe = false ↔ f.isRecognized ∧ a.EndsAtGreatest f.range := by
  by_cases hr : f.isRecognized
  · rw [judge_of_recognized hr, Inquiry.fits_bind, Inquiry.fits_reckon, Inquiry.run_reckon]
    dsimp only
    rw [fits_judgeAt hsize, Bool.and_true, fits_mapRange_eq_false_iff (by omega)]
    exact ⟨fun h => ⟨hr, h⟩, And.right⟩
  · rw [judge_of_unrecognized hr]
    exact ⟨fun h => (nomatch h), fun h => absurd h.1 hr⟩

end

/-- For texts with less than 2^32 - 1 units, whatever the entries of the origin table are and wherever a
finding is: the sums that count lines and units, the offsets, the step inside the start of a mapped range and
the one to the end of a name in it all fit their words. The offset behind the last unit that is covered fits
unless that unit is said to come from the greatest of all offsets; only then does a program end that checks
its sums. Otherwise every range with origins is mapped, and an entry beyond the recipe stands for its end, at the
start of a range as at its end. -/
theorem only_greatest_offset_overflows (a : Assignment) (hrecipe : size a.recipeText < UInt32.size - 1)
    (hgenerated : size a.generatedText < UInt32.size - 1) :
    (∀ pre c post, a.recipeText = pre ++ c :: post →
      ((endPosition pre).line + 1).toNat = (endPosition pre).line.toNat + 1 ∧
      ((endPosition pre).character + UInt32.ofNat (units c)).toNat =
        (endPosition pre).character.toNat + units c) ∧
    (∀ n, (countPosition a.recipeText n).checked? = some (positionAt a.recipeText n)) ∧
    (∀ p, offsetAt a.recipeText p < UInt64.size ∧ offsetAt a.generatedText p < UInt64.size) ∧
    ∀ f : Finding,
      ((a.origins.mapRange a.recipeText a.generatedText f.range).checked? = none ↔
        a.EndsAtGreatest f.range) ∧
      ((∃ r, (a.origins.mapRange a.recipeText a.generatedText f.range).checked? = some (some r)) ↔
        a.HasOrigins f.range ∧ ¬ a.EndsAtGreatest f.range) ∧
      (∀ s recipe, (a.judge f).fits s recipe = false ↔ f.isRecognized ∧ a.EndsAtGreatest f.range) ∧
      ∀ r, (a.origins.mapRange a.recipeText a.generatedText f.range).checked? = some (some r) →
        a.Carries f.range r ∧
        (Rule.insideStart r).checked? = some ⟨r.start.line, r.start.character + 1⟩ ∧
        (r.start.character + 1).toNat = r.start.character.toNat + 1 ∧
        (∃ position, (ShellVariable.nameEnd a.recipeText r).checked? = some position) ∧
        ∀ upto, ShellVariable.uptoName? (slice a.recipeText r) = some upto →
          (UInt64.ofNat (offsetAt a.recipeText r.start) + UInt64.ofNat (size upto)).toNat =
            offsetAt a.recipeText r.start + size upto := by
  have hsize : size a.recipeText < UInt32.size := by omega
  have hword : UInt32.size ≤ UInt64.size := by decide
  refine ⟨fun pre c post htext => ?_, fun n => ?_, fun p => ?_, fun f => ⟨?_, ?_, ?_, fun r h => ?_⟩⟩
  · exact ⟨toNat_line_add_one htext hsize, toNat_character_add_units htext hsize⟩
  · exact Reckoned.checked?_eq_some_iff.2 (countPosition_eq hsize n)
  · have hp := offsetAt_le_size a.recipeText p
    have hp' := offsetAt_le_size a.generatedText p
    omega
  · rw [Reckoned.checked?_eq_none_iff, fits_mapRange_eq_false_iff hsize]
  · exact exists_checked_mapRange_iff hsize
  · exact fits_judge_eq_false_iff hrecipe
  · have hmap := Reckoned.checked?_eq_some_iff.1 h
    obtain ⟨hvalue, -⟩ := Reckoned.eq_pure_iff.1 hmap
    have hinside := Reckoned.eq_pure_iff.2 ⟨rfl, fits_insideStart hrecipe hvalue⟩
    have hname := Reckoned.eq_pure_iff.2 ⟨rfl, ShellVariable.fits_nameEnd hsize r⟩
    exact ⟨carries_of_mapRange hsize hmap, Reckoned.checked?_eq_some_iff.2 hinside,
      toNat_counter_add (k := 1) (character_start_lt hrecipe hvalue),
      ⟨_, Reckoned.checked?_eq_some_iff.2 hname⟩, fun upto => ShellVariable.toNat_offsetAt_add_size hsize⟩

/-! ### A use of a variable that ends beyond the recipe -/

namespace Sample

/-- The script is the first line of the recipe, and its last unit is said to come from `last`. -/
def script (last : UInt64) : Assignment where
  recipe := ⟨"file", some ⟨"", "", none⟩, "/a.bb", none, none⟩
  language := .bash
  recipeText := "cp $A\r\nmv".toList
  generatedText := "cp $A".toList
  origins := ⟨[some 0, some 1, some 2, some 3, some last]⟩
  importLineThreshold := 7

/-- The variable is not assigned. -/
def unassigned : Finding :=
  ⟨⟨⟨0, 3⟩, ⟨0, 5⟩⟩, some 2, some (.plain (.text "SC2154")), some "shellcheck",
    "A is referenced but not assigned.", none⟩

end Sample

open Sample in
theorem only_greatest_offset_overflows_of_script :
    size (script 18446744073709551614).recipeText < UInt32.size - 1 ∧
    (script 18446744073709551614).Carries unassigned.range ⟨⟨0, 3⟩, ⟨1, 2⟩⟩ ∧
    (Rule.insideStart ⟨⟨0, 3⟩, ⟨1, 2⟩⟩).checked? = some ⟨0, 4⟩ ∧
    (UInt64.ofNat (offsetAt (script 18446744073709551614).recipeText ⟨0, 3⟩) +
      UInt64.ofNat (size ['$', 'A'])).toNat = 3 + 2 := by
  have hsize : size (script 18446744073709551614).recipeText < UInt32.size - 1 := by decide
  obtain ⟨-, -, -, hfinding⟩ := only_greatest_offset_overflows (script 18446744073709551614) hsize (by decide)
  obtain ⟨-, -, -, hmapped⟩ := hfinding unassigned
  obtain ⟨hcarries, hinside, -, -, hname⟩ := hmapped ⟨⟨0, 3⟩, ⟨1, 2⟩⟩ (by decide)
  exact ⟨hsize, hcarries, hinside, hname ['$', 'A'] (by decide)⟩

open Sample in
/-- With the greatest word as its last entry, a range that starts within the recipe is mapped nowhere: the
program ends, and the range does not end at the end of the recipe. -/
theorem no_offset_behind_greatest :
    size (script 18446744073709551615).recipeText < UInt32.size - 1 ∧
    size (script 18446744073709551615).generatedText < UInt32.size - 1 ∧
    (script 18446744073709551615).origins.get? 4 = some 18446744073709551615 ∧
    ¬ (18446744073709551615 : UInt64).toNat + 1 < UInt64.size ∧
    size (script 18446744073709551615).recipeText ≤ (18446744073709551615 : UInt64).toNat ∧
    endPosition (script 18446744073709551615).recipeText = ⟨1, 2⟩ ∧
    ((script 18446744073709551615).origins.mapRange (script 18446744073709551615).recipeText
      (script 18446744073709551615).generatedText unassigned.range).checked? ≠ some (some ⟨⟨0, 3⟩, ⟨1, 2⟩⟩) ∧
    ((script 18446744073709551615).origins.mapRange (script 18446744073709551615).recipeText
      (script 18446744073709551615).generatedText unassigned.range).checked? = none := by
  decide

end Assignment
end RecipeDiag
