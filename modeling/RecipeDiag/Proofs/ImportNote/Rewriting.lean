import Mathlib.Data.List.Nodup
import Mathlib.Data.Nat.Digits.Defs
import Mathlib.Data.Option.Basic
import RecipeDiag.ImportNote
import RecipeDiag.Proofs.Rule.Exclusion

/-!
# Which messages get a note

A warning cites a line at the end of its message (`Warning.Cites`), and `citation?` finds just that
(`citation?_eq_some_iff`). No message is a citation in two ways, in one form or in two
(`Cites.unique`), and a note at its end is none (`not_cites_note`). So a finding's message gives way to a
note exactly if it cites a line up to the threshold (`message_notes_cited_imports`), and what came out is
never reworded again.
-/

namespace RecipeDiag

theorem Finding.exists_code_of_isReport {f : Finding} {tool id : String} (h : f.isReport tool id = true) :
    ∃ c, f.code = some c ∧ c.isNamed id = true := by
  obtain ⟨-, hcode⟩ := Bool.and_eq_true_iff.1 h
  exact (Option.any_eq_true ..).1 hcode

namespace ImportNote
open Text
variable {w w' : Warning} {f : Finding} {c c' : Citation} {m : List Char} {T T' : UInt32}

/-! ### The number of a line -/

/-- The number that ASCII digits write. -/
def decimal (digits : List Char) : Nat :=
  Nat.ofDigits 10 (digits.reverse.map fun d => d.toNat - '0'.toNat)

/-- The line that a citation counts as: a number that is not written in ASCII, or that does not fit a
word, counts as the greatest. -/
def Citation.line (c : Citation) : Nat :=
  if c.digits.all Char.isDigit ∧ decimal c.digits < 2 ^ 32 then decimal c.digits else 2 ^ 32 - 1

theorem decimal_eq_foldl (digits : List Char) :
    decimal digits = digits.foldl (fun n d => 10 * n + (d.toNat - '0'.toNat)) 0 := by
  rw [decimal, Nat.ofDigits_eq_foldr, List.foldr_map, List.foldr_reverse]
  simp only [Nat.cast_id, Nat.add_comm]

theorem toNat_lineNumber (c : Citation) : (lineNumber c.digits).toNat = c.line := by
  unfold lineNumber Citation.line
  rw [decimal_eq_foldl]
  by_cases hall : c.digits.all Char.isDigit = true
  · simp only [hall, if_true, true_and]
    split
    · next hlt => exact (UInt32.toNat_ofNat_of_lt' hlt).trans (if_pos hlt).symm
    · next hge => exact (if_neg hge).symm
  · simp only [hall, Bool.false_eq_true, if_false, false_and]
    rfl

/-! ### Citations -/

theorem eq_of_code_eq (hw : w ∈ warnings) (hw' : w' ∈ warnings) (h : w.code = w'.code) : w = w' :=
  List.inj_on_of_nodup_map (by decide) hw hw' h

/-- With the same closing no opening ends another. -/
theorem eq_of_opening_suffix (hw : w ∈ warnings) (hw' : w' ∈ warnings)
    (hclosing : w.closing.toList = w'.closing.toList) (h : w.opening.toList <:+ w'.opening.toList) : w = w' := by
  have hall : ∀ w ∈ warnings, ∀ w' ∈ warnings, w.closing.toList = w'.closing.toList →
      w.opening.toList <:+ w'.opening.toList → w.code = w'.code := by decide
  exact eq_of_code_eq hw hw' (hall w hw w' hw' hclosing h)

/-- The message ends with a citation in the form of a warning. -/
structure Warning.Cites (w : Warning) (m : List Char) (c : Citation) : Prop where
  message_eq : m = c.statement ++ w.opening.toList ++ c.digits ++ w.closing.toList
  statement_ne_nil : c.statement ≠ []
  newline_not_mem : '\n' ∉ c.statement
  digits_ne_nil : c.digits ≠ []
  all_digit : ∀ d ∈ c.digits, isDecimalDigit d = true

/-- No digit stands before the digits of a citation. -/
theorem exists_opening_eq (hw : w ∈ warnings) : ∃ o, w.opening.toList = o ++ [' '] := by
  have hall : ∀ w ∈ warnings, w.opening.toList = w.opening.toList.dropLast ++ [' '] := by decide
  exact ⟨_, hall w hw⟩

theorem not_digit_of_mem_closing (hw : w ∈ warnings) {x : Char} (hx : x ∈ w.closing.toList) :
    isDecimalDigit x = false := by
  have hall : ∀ w ∈ warnings, w.closing.toList.all (fun x => !isDecimalDigit x) = true := by decide
  simpa using List.all_eq_true.1 (hall w hw) x hx

namespace Warning.Cites

/-- The digits of a citation are the last run of digits before the closing. -/
theorem run_eq (h : w.Cites m c) (hw : w ∈ warnings) :
    (c.statement ++ w.opening.toList ++ c.digits).reverse.takeWhile isDecimalDigit = c.digits.reverse ∧
      (c.statement ++ w.opening.toList ++ c.digits).reverse.dropWhile isDecimalDigit =
        (c.statement ++ w.opening.toList).reverse := by
  obtain ⟨o, ho⟩ := exists_opening_eq hw
  have hdigits : ∀ d ∈ c.digits.reverse, isDecimalDigit d = true := by simpa using h.all_digit
  have hspace : isDecimalDigit ' ' = false := by decide
  rw [List.reverse_append, List.takeWhile_append_of_pos hdigits, List.dropWhile_append_of_pos hdigits, ho]
  simp [hspace]

end Warning.Cites

theorem citation?_eq_some_iff (hw : w ∈ warnings) : w.citation? m = some c ↔ w.Cites m c := by
  unfold Warning.citation?
  simp only [Option.bind_eq_bind, Option.bind_eq_some_iff, dropSuffix?_eq_some_iff, Option.guard_eq_some',
    exists_const, Option.pure_def, Option.some.injEq]
  constructor
  · rintro ⟨body, hbody, hdigits, statement, hfront, hstatement, rfl⟩
    have hcut : body = (body.reverse.dropWhile isDecimalDigit).reverse ++
        (body.reverse.takeWhile isDecimalDigit).reverse := by
      rw [← List.reverse_append, List.takeWhile_append_dropWhile, List.reverse_reverse]
    have hst : statement ≠ [] ∧ '\n' ∉ statement := by simpa using hstatement
    refine ⟨?_, hst.1, hst.2, by simpa using hdigits, ?_⟩
    · show m = statement ++ w.opening.toList ++ (body.reverse.takeWhile isDecimalDigit).reverse ++ _
      rw [← hfront, ← hcut]
      exact hbody
    · intro d hd
      exact List.all_eq_true.1 List.all_takeWhile d (List.mem_reverse.1 hd)
  · intro h
    obtain ⟨htake, hdrop⟩ := h.run_eq hw
    refine ⟨c.statement ++ w.opening.toList ++ c.digits, h.message_eq, ?_, c.statement, ?_, ?_, ?_⟩
    · rw [htake]
      simpa using h.digits_ne_nil
    · rw [hdrop, List.reverse_reverse]
    · simp [h.statement_ne_nil, h.newline_not_mem]
    · rw [htake, List.reverse_reverse]

namespace Warning.Cites

/-- The digits of a citation come last before the closing, whatever its form. -/
theorem closing_suffix (h : w.Cites m c) (h' : w'.Cites m c') (hw' : w' ∈ warnings)
    (hle : w.closing.toList <:+ w'.closing.toList) : w.closing.toList = w'.closing.toList := by
  obtain ⟨k, hk⟩ := hle
  rcases List.eq_nil_or_concat k with rfl | ⟨k', x, rfl⟩
  · exact hk
  · -- the last digit of the one would stand in the closing of the other
    have hm := h.message_eq.symm.trans h'.message_eq
    rw [← hk, ← List.append_assoc] at hm
    have hbody := List.append_cancel_right hm
    rcases List.eq_nil_or_concat c.digits with hnil | ⟨ds, d, hds⟩
    · exact absurd hnil h.digits_ne_nil
    have hlast : d = x := by
      simp only [hds, List.concat_eq_append, ← List.append_assoc] at hbody
      simpa using List.append_inj_right' hbody rfl
    have hd : isDecimalDigit d = true := h.all_digit d (by simp [hds])
    have hx : isDecimalDigit x = false := not_digit_of_mem_closing hw' (by simp [← hk])
    rw [hlast, hx] at hd
    cases hd

theorem unique (h : w.Cites m c) (h' : w'.Cites m c') (hw : w ∈ warnings) (hw' : w' ∈ warnings) :
    w = w' ∧ c = c' := by
  have hclosing : w.closing.toList = w'.closing.toList := by
    have hend : w.closing.toList <:+ m := ⟨_, h.message_eq.symm⟩
    have hend' : w'.closing.toList <:+ m := ⟨_, h'.message_eq.symm⟩
    rcases List.suffix_or_suffix_of_suffix hend hend' with hle | hle
    · exact h.closing_suffix h' hw' hle
    · exact (h'.closing_suffix h hw hle).symm
  have hbody : c.statement ++ w.opening.toList ++ c.digits = c'.statement ++ w'.opening.toList ++ c'.digits := by
    have hm := h.message_eq.symm.trans h'.message_eq
    rw [hclosing] at hm
    exact List.append_cancel_right hm
  obtain ⟨htake, hdrop⟩ := h.run_eq hw
  obtain ⟨htake', hdrop'⟩ := h'.run_eq hw'
  rw [hbody] at htake hdrop
  have hdigits : c.digits = c'.digits := List.reverse_inj.1 (htake.symm.trans htake')
  have hfront : c.statement ++ w.opening.toList = c'.statement ++ w'.opening.toList :=
    List.reverse_inj.1 (hdrop.symm.trans hdrop')
  obtain rfl : w = w' := by
    have hend : w.opening.toList <:+ c'.statement ++ w'.opening.toList := ⟨_, hfront⟩
    have hend' : w'.opening.toList <:+ c'.statement ++ w'.opening.toList := ⟨_, rfl⟩
    rcases List.suffix_or_suffix_of_suffix hend hend' with hle | hle
    · exact eq_of_opening_suffix hw hw' hclosing hle
    · exact (eq_of_opening_suffix hw' hw hclosing.symm hle).symm
  have hstatement : c.statement = c'.statement := List.append_cancel_right hfront
  refine ⟨rfl, ?_⟩
  cases c
  cases c'
  simp_all

end Warning.Cites

/-- Nothing that ends with a note is a citation. -/
theorem not_cites_note (hw : w ∈ warnings) (s : List Char) : ¬ w.Cites (String.ofList s ++ note).toList c := by
  intro h
  have hm : s ++ note.toList = c.statement ++ w.opening.toList ++ c.digits ++ w.closing.toList := by
    simpa using h.message_eq
  rcases List.eq_nil_or_concat c.digits with hnil | ⟨ds, d, hds⟩
  · exact h.digits_ne_nil hnil
  have hd : isDecimalDigit d = true := h.all_digit d (by simp [hds])
  -- the last two characters of the note are no digits
  have hnote : ∃ n, note.toList = n ++ ['e', ')'] := ⟨note.toList.dropLast.dropLast, by decide⟩
  have hclosing : ∀ w ∈ warnings, w.closing.toList = [] ∨ w.closing.toList = [')'] := by decide
  obtain ⟨n, hn⟩ := hnote
  have hlast : d = ')' ∨ d = 'e' := by
    have hrev := congrArg List.reverse hm
    rcases hclosing w hw with hc | hc
    · simp only [hn, hds, hc, List.concat_eq_append, List.append_nil, List.reverse_append, List.reverse_cons,
        List.reverse_nil, List.nil_append, List.cons_append, List.cons.injEq] at hrev
      exact .inl hrev.1.symm
    · simp only [hn, hds, hc, List.concat_eq_append, List.reverse_append, List.reverse_cons,
        List.reverse_nil, List.nil_append, List.cons_append, List.cons.injEq, true_and] at hrev
      exact .inr hrev.1.symm
  rcases hlast with rfl | rfl
  · exact absurd hd (by decide)
  · exact absurd hd (by decide)

/-! ### Warnings and their codes -/

/-- A finding is one kind of warning at most. -/
theorem eq_of_isReport (hw : w ∈ warnings) (hw' : w' ∈ warnings)
    (h : f.isReport w.checker.name w.code = true) (h' : f.isReport w'.checker.name w'.code = true) : w = w' := by
  obtain ⟨code, hcode, hnamed⟩ := Finding.exists_code_of_isReport h
  obtain ⟨code', hcode', hnamed'⟩ := Finding.exists_code_of_isReport h'
  cases hcode.symm.trans hcode'
  have hcolon : ∀ w ∈ warnings, ':' ∉ w.code.toList := by decide
  exact eq_of_code_eq hw hw' (Code.eq_of_isNamed hnamed hnamed' (hcolon w hw) (hcolon w' hw'))

theorem isReport_of_find? (h : warnings.find? (fun w => f.isReport w.checker.name w.code) = some w) :
    w ∈ warnings ∧ f.isReport w.checker.name w.code = true := by
  have hreport := List.find?_some (p := fun w : Warning => f.isReport w.checker.name w.code) h
  exact ⟨List.mem_of_find?_eq_some h, hreport⟩

theorem find?_isReport (hw : w ∈ warnings) (h : f.isReport w.checker.name w.code = true) :
    warnings.find? (fun w => f.isReport w.checker.name w.code) = some w := by
  cases hfind : warnings.find? (fun w => f.isReport w.checker.name w.code) with
  | none => exact absurd h (List.find?_eq_none.1 hfind w hw)
  | some w' =>
    obtain ⟨hw', h'⟩ := isReport_of_find? hfind
    rw [eq_of_isReport hw hw' h h']

/-! ### Messages -/

/-- The finding is one of the warnings and cites a line up to the threshold. -/
def CitesUpTo (f : Finding) (T : UInt32) (c : Citation) : Prop :=
  ∃ w ∈ warnings, f.isReport w.checker.name w.code = true ∧ w.Cites f.message.toList c ∧ c.line ≤ T.toNat

theorem message_of_citesUpTo (h : CitesUpTo f T c) : message f T = String.ofList c.statement ++ note := by
  obtain ⟨w, hw, hreport, hcites, hline⟩ := h
  unfold message
  rw [find?_isReport hw hreport]
  dsimp only
  rw [(citation?_eq_some_iff hw).2 hcites]
  exact if_pos (by rw [UInt32.le_iff_toNat_le, toNat_lineNumber]; exact hline)

theorem message_of_not_citesUpTo (h : ¬ ∃ c, CitesUpTo f T c) : message f T = f.message := by
  unfold message
  split
  · rfl
  · next w hfind =>
    obtain ⟨hw, hreport⟩ := isReport_of_find? hfind
    split
    · rfl
    · next c hc =>
      refine if_neg fun hle => h ⟨c, w, hw, hreport, (citation?_eq_some_iff hw).1 hc, ?_⟩
      · rwa [UInt32.le_iff_toNat_le, toNat_lineNumber] at hle

theorem CitesUpTo.mono (h : CitesUpTo f T c) (hle : T ≤ T') : CitesUpTo f T' c := by
  obtain ⟨w, hw, hreport, hcites, hline⟩ := h
  exact ⟨w, hw, hreport, hcites, Nat.le_trans hline (UInt32.le_iff_toNat_le.1 hle)⟩

/-- A message with a note stays as it is. -/
theorem message_of_note {s : List Char} (h : f.message = String.ofList s ++ note) : message f T = f.message := by
  refine message_of_not_citesUpTo ?_
  rintro ⟨c, w, hw, -, hcites, -⟩
  rw [h] at hcites
  exact not_cites_note hw s hcites

theorem message_ne_of_citesUpTo (h : CitesUpTo f T c) : message f T ≠ f.message := by
  intro heq
  rw [message_of_citesUpTo h] at heq
  obtain ⟨w, hw, -, hcites, -⟩ := h
  rw [← heq] at hcites
  exact not_cites_note hw c.statement hcites

/-- A message that cites a line is reworded up to the threshold if its kind of warning is meant. -/
theorem message_of_cites (hw : w ∈ warnings) (hcites : w.Cites f.message.toList c) :
    message f T = if f.isReport w.checker.name w.code = true ∧ c.line ≤ T.toNat
      then String.ofList c.statement ++ note else f.message := by
  split
  · next hup => exact message_of_citesUpTo ⟨w, hw, hup.1, hcites, hup.2⟩
  · next hnot =>
    refine message_of_not_citesUpTo ?_
    rintro ⟨c', w', hw', hreport, hcites', hline⟩
    obtain ⟨rfl, rfl⟩ := hcites.unique hcites' hw hw'
    exact hnot ⟨hreport, hline⟩

theorem message_eq_iff (hw : w ∈ warnings) (hcites : w.Cites f.message.toList c) :
    message f T = String.ofList c.statement ++ note ↔
      f.isReport w.checker.name w.code = true ∧ c.line ≤ T.toNat := by
  rw [message_of_cites hw hcites]
  constructor
  · intro h
    by_contra hnot
    rw [if_neg hnot] at h
    rw [h] at hcites
    exact not_cites_note hw c.statement hcites
  · intro h
    exact if_pos h

/-- No message cites a line in two ways. A finding's message gives way to what it says besides and a note
exactly if the finding is the kind of warning whose citation it is, for a line up to the threshold; any
other stays as it is. A second rewording at the same threshold does nothing, a message with a note is
not reworded at any threshold, and one that has a note at a threshold has it at every greater one. -/
theorem message_notes_cited_imports (f : Finding) :
    (∀ m, ∀ w ∈ warnings, ∀ w' ∈ warnings, ∀ c c', w.Cites m c → w'.Cites m c' → w = w' ∧ c = c') ∧
    (∀ T, ∀ w ∈ warnings, ∀ c, w.Cites f.message.toList c →
      (message f T = String.ofList c.statement ++ note ↔
        f.isReport w.checker.name w.code = true ∧ c.line ≤ T.toNat)) ∧
    (∀ T, (¬ ∃ c, CitesUpTo f T c) → message f T = f.message) ∧
    (∀ T, message { f with message := message f T } T = message f T) ∧
    ∀ T c, CitesUpTo f T c → message f T ≠ f.message ∧
      (∀ T', message { f with message := message f T } T' = message f T) ∧
      ∀ T', T ≤ T' → message f T' = message f T := by
  refine ⟨?_, ?_, fun T => message_of_not_citesUpTo, ?_, ?_⟩
  · intro m w hw w' hw' c c' h h'
    exact h.unique h' hw hw'
  · intro T w hw c hcites
    exact message_eq_iff hw hcites
  · intro T
    by_cases hsome : ∃ c, CitesUpTo f T c
    · obtain ⟨c, hc⟩ := hsome
      exact message_of_note (message_of_citesUpTo hc)
    · rw [message_of_not_citesUpTo hsome]
      exact message_of_not_citesUpTo hsome
  · intro T c hc
    refine ⟨message_ne_of_citesUpTo hc, fun T' => message_of_note (message_of_citesUpTo hc), ?_⟩
    intro T' hle
    rw [message_of_citesUpTo hc, message_of_citesUpTo (hc.mono hle)]

/-! ### A message with two clauses -/

namespace Sample

/-- The clause at its end is a citation, the one before it is part of what it says. -/
def twice : Finding :=
  { range := ⟨⟨3, 0⟩, ⟨3, 2⟩⟩, severity := none, code := some (.linked (.text "F811:redefined") none),
    source := some "Flake8", message := "'os' from line 9 from line 007", tags := none }

theorem cites_twice :
    CitesUpTo twice 7 ⟨"'os' from line 9".toList, "007".toList⟩ :=
  ⟨⟨.flake8, "F811", " from line ", ""⟩, List.mem_cons_self .., by decide,
    ⟨by decide, by decide, by decide, by decide, List.all_eq_true.1 (by decide)⟩, by decide⟩

end Sample

open Sample in
theorem message_notes_cited_imports_of_twice :
    message twice 7 = "'os' from line 9 (imported by BitBake)" ∧
    message { twice with message := message twice 7 } 9 = message twice 7 ∧
    message twice 100 = message twice 7 := by
  obtain ⟨-, hexact, -, -, hstays⟩ := message_notes_cited_imports twice
  obtain ⟨-, hnote, hmore⟩ := hstays 7 _ cites_twice
  obtain ⟨w, hw, hreport, hcites, hline⟩ := cites_twice
  exact ⟨(hexact 7 w hw _ hcites).2 ⟨hreport, hline⟩, hnote 9, hmore 100 (by decide)⟩

end ImportNote
end RecipeDiag
