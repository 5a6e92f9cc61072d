import Mathlib.Data.Option.Basic
import RecipeDiag.Json.Token
import RecipeDiag.Json.Writer

/-!
# Scanning what was written

The text of a value is scanned into the tokens it was put together from. A word or a numeral is only
known to be complete at the character behind it, so `Scans` says what was scanned once the text ends or
a mark follows, and texts are joined at marks (`Scans.mark`).
-/

namespace RecipeDiag.Json

/-! ### Numerals -/

namespace Numeral
variable {n : Nat} {i : Int} {ds : List Char}

/-- The digits of a natural number as they are written. -/
structure IsWhole (ds : List Char) : Prop where
  ne_nil : ds ≠ []
  digit : ∀ c ∈ ds, c.isDigit
  no_zero : ds.length = 1 ∨ ds.head? ≠ some '0'

theorem head?_toDigits_ne_zero (h : 0 < n) : (Nat.toDigits 10 n).head? ≠ some '0' := by
  induction n using Nat.strongRecOn with
  | ind n ih =>
  rcases Nat.lt_or_ge n 10 with hlt | hge
  · have hall : ∀ n < 10, 0 < n → (Nat.toDigits 10 n).head? ≠ some '0' := by decide
    exact hall n hlt h
  · have hhead := ih (n / 10) (by omega) (by omega)
    rw [Nat.toDigits_of_base_le (by decide) hge]
    rcases List.exists_cons_of_ne_nil (Nat.toDigits_ne_nil (n := n / 10) (b := 10)) with ⟨d, ds, hds⟩
    rw [hds] at hhead ⊢
    exact hhead

theorem isWhole_toDigits (n : Nat) : IsWhole (Nat.toDigits 10 n) where
  ne_nil := Nat.toDigits_ne_nil
  digit _ hc := Nat.isDigit_of_mem_toDigits (by decide) (by decide) hc
  no_zero := by
    rcases Nat.eq_zero_or_pos n with rfl | hn
    · exact .inl rfl
    · exact .inr (head?_toDigits_ne_zero hn)

theorem digitsValue_toDigits (n : Nat) : digitsValue (Nat.toDigits 10 n) = n := by
  have h := Nat.ofDigitChars_ten_toDigits (n := n)
  rwa [Nat.ofDigitChars_eq_foldl] at h

namespace IsWhole

theorem digits?_eq (h : IsWhole ds) : digits? ds = some ds := by
  have hall : ds.all Char.isDigit := List.all_eq_true.2 h.digit
  have hne : ds.isEmpty = false := by simpa using h.ne_nil
  rw [digits?, hall, hne]
  rfl

theorem takeWhile_eq (h : IsWhole ds) {p : Char → Bool} (hp : ∀ c, c.isDigit → p c) :
    ds.takeWhile p = ds ∧ ds.dropWhile p = [] := by
  have hall : ∀ c ∈ ds, p c := fun c hc => hp c (h.digit c hc)
  constructor
  · rw [← List.append_nil ds, List.takeWhile_append_of_pos hall, List.takeWhile_nil]
  · rw [← List.append_nil ds, List.dropWhile_append_of_pos hall, List.dropWhile_nil]

theorem no_exponent (h : IsWhole ds) : ds.takeWhile (fun c => !(c == 'e') && !(c == 'E')) = ds ∧
    ds.dropWhile (fun c => !(c == 'e') && !(c == 'E')) = [] := by
  refine h.takeWhile_eq fun c hc => ?_
  have he : c ≠ 'e' := by rintro rfl; cases hc
  have hE : c ≠ 'E' := by rintro rfl; cases hc
  simp [he, hE]

theorem no_fraction (h : IsWhole ds) : ds.takeWhile (· != '.') = ds ∧ ds.dropWhile (· != '.') = [] := by
  refine h.takeWhile_eq fun c hc => ?_
  have hpoint : c ≠ '.' := by rintro rfl; cases hc
  simp [hpoint]

theorem ofChars?_neg (h : IsWhole ds) : ofChars? ('-' :: ds) = some ⟨true, ds, none, none⟩ := by
  simp [ofChars?, guard, h.no_exponent, h.no_fraction, h.digits?_eq, h.no_zero]

theorem ofChars?_eq (h : IsWhole ds) : ofChars? ds = some ⟨false, ds, none, none⟩ := by
  obtain ⟨d, rest, rfl⟩ := List.exists_cons_of_ne_nil h.ne_nil
  have hsign : d ≠ '-' := by
    rintro rfl
    cases h.digit _ List.mem_cons_self
  have hzero : rest = [] ∨ d ≠ '0' := by simpa using h.no_zero
  simp [ofChars?, guard, hsign, hzero, h.no_exponent, h.no_fraction, h.digits?_eq]

end IsWhole

/-! ### Integers -/

/-- The integers that a numeral can denote. -/
def Fits (i : Int) : Prop := -(UInt64.size : Int) ≤ 2 * i ∧ i < UInt64.size

/-- The text of an integer: digits, behind a sign if it is negative. -/
theorem toList_toString (i : Int) : (toString i).toList =
    if 0 ≤ i then Nat.toDigits 10 i.toNat else '-' :: Nat.toDigits 10 (-i).toNat := by
  rw [Int.toString_eq_repr, Int.repr_eq_if]
  split
  · simp [Nat.repr_eq_ofList_toDigits]
  · simp [Nat.repr_eq_ofList_toDigits]

theorem ofChars?_toString (h : Fits i) :
    ∃ n, ofChars? (toString i).toList = some n ∧ n.toJson = .integer i := by
  obtain ⟨hlow, hhigh⟩ := h
  rw [toList_toString]
  split
  · refine ⟨_, (isWhole_toDigits i.toNat).ofChars?_eq, ?_⟩
    have hlt : i.toNat < UInt64.size := by omega
    have hi : (i.toNat : Int) = i := by omega
    simp [toJson, integer?, digitsValue_toDigits, hlt, hi]
  · refine ⟨_, (isWhole_toDigits (-i).toNat).ofChars?_neg, ?_⟩
    have hpos : 0 < (-i).toNat := by omega
    have hle : 2 * (-i).toNat ≤ UInt64.size := by omega
    simp only [toJson, integer?, digitsValue_toDigits, hpos, hle]
    simp
    omega

end Numeral

/-! ### Texts between marks -/

namespace Scanner
variable {s : Scanner} {ts ts' us : List Token} {a b : List Char} {c : Char} {t : Token}

/-- The characters that may stand behind a value or a name. -/
def marks : List Char := [',', ':', ']', '\x7d']

/-- The tokens are complete: no mark or end of the text behind them adds to the last. -/
structure Settles (s : Scanner) (ts : List Token) : Prop where
  flush : s.flush = some ⟨ts, .between⟩
  step : ∀ c ∈ marks, s.step c = begin ts c

/-- Behind the tokens `ts`, latest first, a text is scanned so that `us` are there. -/
def Scans (text : List Char) (ts us : List Token) : Prop :=
  ∃ s, text.foldlM step ⟨ts, .between⟩ = some s ∧ s.Settles us

theorem settles_between (ts : List Token) : Settles ⟨ts, .between⟩ ts := ⟨rfl, fun _ _ => rfl⟩

namespace Scans

theorem nil (ts : List Token) : Scans [] ts ts := ⟨_, rfl, settles_between ts⟩

theorem cons (hbegin : begin ts c = some ⟨t :: ts, .between⟩) (h : Scans a (t :: ts) us) :
    Scans (c :: a) ts us := by
  obtain ⟨s, hs, hsettles⟩ := h
  refine ⟨s, ?_, hsettles⟩
  rw [List.foldlM_cons]
  show (begin ts c).bind _ = _
  rw [hbegin]
  exact hs

/-- What stands before a mark and what stands behind it are scanned one after the other. -/
theorem mark (ha : Scans a ts ts') (hc : c ∈ marks) (hbegin : begin ts' c = some ⟨t :: ts', .between⟩)
    (hb : Scans b (t :: ts') us) : Scans (a ++ c :: b) ts us := by
  obtain ⟨s, hs, hsettles⟩ := ha
  obtain ⟨s', hs', hsettles'⟩ := hb
  refine ⟨s', ?_, hsettles'⟩
  rw [List.foldlM_append, hs, Option.bind_eq_bind, Option.bind_some, List.foldlM_cons, hsettles.step c hc,
    hbegin]
  exact hs'

theorem comma (ha : Scans a ts ts') (hb : Scans b (.comma :: ts') us) : Scans (a ++ ',' :: b) ts us :=
  ha.mark (by decide) rfl hb

theorem colon (ha : Scans a ts ts') (hb : Scans b (.colon :: ts') us) : Scans (a ++ ':' :: b) ts us :=
  ha.mark (by decide) rfl hb

theorem array (ha : Scans a (.openArray :: ts) ts') : Scans ('[' :: (a ++ [']'])) ts (.closeArray :: ts') :=
  cons rfl (ha.mark (by decide) rfl (nil _))

theorem object (ha : Scans a (.openObject :: ts) ts') :
    Scans ('\x7b' :: (a ++ ['\x7d'])) ts (.closeObject :: ts') :=
  cons rfl (ha.mark (by decide) rfl (nil _))

end Scans

/-! ### Words and numerals -/

theorem settles_word {rev : List Char} (h : (Scanner.mk ts (.word rev)).flush = some ⟨us, .between⟩) :
    Settles ⟨ts, .word rev⟩ us where
  flush := h
  step c hc := by
    have hlower : c.isLower = false := by
      simp only [marks, List.mem_cons, List.not_mem_nil, or_false] at hc
      rcases hc with rfl | rfl | rfl | rfl <;> rfl
    show (if c.isLower then _ else _) = _
    rw [hlower, h]
    rfl

theorem scans_null (ts : List Token) : Scans "null".toList ts (.scalar .null :: ts) :=
  ⟨⟨ts, .word "llun".toList⟩, rfl, settles_word rfl⟩

theorem scans_bool (b : Bool) (ts : List Token) : Scans (render (.bool b)).toList ts (.scalar (.bool b) :: ts) := by
  cases b with
  | true => exact ⟨⟨ts, .word "eurt".toList⟩, rfl, settles_word rfl⟩
  | false => exact ⟨⟨ts, .word "eslaf".toList⟩, rfl, settles_word rfl⟩

theorem settles_numeral {rev : List Char} {n : Numeral} (h : Numeral.ofChars? rev.reverse = some n) :
    Settles ⟨ts, .numeral rev⟩ (.scalar n.toJson :: ts) := by
  have hflush : (Scanner.mk ts (.numeral rev)).flush = some ⟨.scalar n.toJson :: ts, .between⟩ := by
    show (Numeral.ofChars? rev.reverse).bind _ = _
    rw [h]
    rfl
  refine ⟨hflush, fun c hc => ?_⟩
  have hnumeral : ∀ c ∈ marks, isNumeralChar c = false := by simp [marks, isNumeralChar]
  show (if isNumeralChar c then _ else _) = _
  rw [hnumeral c hc, hflush]
  rfl

theorem foldlM_numeral {ds rev : List Char} (h : ∀ c ∈ ds, isNumeralChar c) :
    ds.foldlM step ⟨ts, .numeral rev⟩ = some ⟨ts, .numeral (ds.reverse ++ rev)⟩ := by
  induction ds generalizing rev with
  | nil => rfl
  | cons d ds ih =>
    have hd : step ⟨ts, .numeral rev⟩ d = some ⟨ts, .numeral (d :: rev)⟩ :=
      if_pos (h d List.mem_cons_self)
    rw [List.foldlM_cons, hd, Option.bind_eq_bind, Option.bind_some, ih fun c hc => h c (List.mem_cons_of_mem _ hc)]
    simp

theorem scans_numeral {n : Numeral} (hc : isSpace c = false ∧ c.isLower = false ∧ (c.isDigit ∨ c = '-'))
    (ha : ∀ c ∈ a, c.isDigit) (h : Numeral.ofChars? (c :: a) = some n) :
    Scans (c :: a) ts (.scalar n.toJson :: ts) := by
  obtain ⟨hspace, hlower, hdigit⟩ := hc
  have hbegin : begin ts c = some ⟨ts, .numeral [c]⟩ := by
    simp [begin, hspace, hlower, hdigit]
  refine ⟨⟨ts, .numeral (a.reverse ++ [c])⟩, ?_, settles_numeral (by simpa using h)⟩
  rw [List.foldlM_cons]
  show (begin ts c).bind _ = _
  rw [hbegin]
  exact foldlM_numeral fun c hc => by simp [isNumeralChar, ha c hc]

theorem not_space_of_isDigit (h : c.isDigit) : isSpace c = false ∧ c.isLower = false := by
  constructor
  · have hne : c ≠ ' ' ∧ c ≠ '\t' ∧ c ≠ '\n' ∧ c ≠ '\r' := by
      refine ⟨?_, ?_, ?_, ?_⟩ <;> (rintro rfl; cases h)
    simp [isSpace, hne]
  · simp only [Char.isDigit, Bool.and_eq_true, decide_eq_true_eq] at h
    show (decide (97 ≤ c.val) && decide (c.val ≤ 122)) = false
    have hlt : ¬ 97 ≤ c.val := by grind
    rw [decide_eq_false hlt]
    rfl

theorem scans_integer {i : Int} (h : Numeral.Fits i) (ts : List Token) :
    Scans (toString i).toList ts (.scalar (.integer i) :: ts) := by
  obtain ⟨n, hn, hi⟩ := Numeral.ofChars?_toString h
  rw [← hi]
  rw [Numeral.toList_toString] at hn ⊢
  split at hn
  · next hpos =>
    rw [if_pos hpos]
    obtain ⟨hne, hdigit, -⟩ := Numeral.isWhole_toDigits i.toNat
    obtain ⟨d, ds, hds⟩ := List.exists_cons_of_ne_nil hne
    rw [hds] at hn hdigit ⊢
    have hd := hdigit d List.mem_cons_self
    obtain ⟨hspace, hlower⟩ := not_space_of_isDigit hd
    exact scans_numeral ⟨hspace, hlower, .inl hd⟩ (fun c hc => hdigit c (List.mem_cons_of_mem _ hc)) hn
  · next hneg =>
    rw [if_neg hneg]
    exact scans_numeral ⟨rfl, rfl, .inr rfl⟩ (Numeral.isWhole_toDigits _).digit hn

/-! ### Strings -/

theorem hexValue?_hexDigit : ∀ n < 16, Text.hexValue? (hexDigit n) = some n := by decide

/-- A character in a string is scanned back from what it is written as. -/
theorem foldlM_escapeChar (ts : List Token) (cs : List Char) (c : Char) :
    (escapeChar c).foldlM step ⟨ts, .string ⟨cs, none, false⟩⟩ =
      some ⟨ts, .string ⟨c :: cs, none, false⟩⟩ := by
  by_cases hquote : c = '"'
  · subst hquote
    rfl
  by_cases hslash : c = '\\'
  · subst hslash
    rfl
  rw [escapeChar]
  · split
    · next hlow =>
      have hhigh := hexValue?_hexDigit (c.toNat / 16) (by omega)
      have hdigit := hexValue?_hexDigit (c.toNat % 16) (by omega)
      have hvalue : 16 * (c.toNat / 16) + c.toNat % 16 = c.toNat := Nat.div_add_mod _ _
      have hzero : Text.hexValue? '0' = some 0 := rfl
      have hunit : OpenText.pushUnit ⟨cs, none, false⟩ c.toNat = ⟨c :: cs, none, false⟩ := by
        have hlead : ¬ 0xD800 ≤ c.toNat := by omega
        have htrail : ¬ 0xDC00 ≤ c.toNat := by omega
        simp [OpenText.pushUnit, hlead, htrail, OpenText.push]
      simp [step, hzero, hhigh, hdigit, hvalue, hunit]
    · next hhigh =>
      simp [step, hquote, hslash, hhigh, OpenText.push]
  · exact hquote
  · exact hslash

theorem foldlM_escapeChars (ts : List Token) (cs rev : List Char) :
    (cs.flatMap escapeChar).foldlM step ⟨ts, .string ⟨rev, none, false⟩⟩ =
      some ⟨ts, .string ⟨cs.reverse ++ rev, none, false⟩⟩ := by
  induction cs generalizing rev with
  | nil => rfl
  | cons c cs ih =>
    rw [List.flatMap_cons, List.foldlM_append, foldlM_escapeChar, Option.bind_eq_bind, Option.bind_some, ih]
    simp

theorem scans_quote (x : String) (ts : List Token) : Scans (quote x).toList ts (.text (some x) :: ts) := by
  refine ⟨_, ?_, settles_between _⟩
  rw [quote, String.toList_ofList, List.cons_append, List.foldlM_cons]
  show ((x.toList.flatMap escapeChar ++ ['"']).foldlM step ⟨ts, .string ⟨[], none, false⟩⟩) = _
  rw [List.foldlM_append, foldlM_escapeChars]
  show some (Scanner.mk (OpenText.close _ :: ts) _) = _
  simp [OpenText.close]

end Scanner

end RecipeDiag.Json
