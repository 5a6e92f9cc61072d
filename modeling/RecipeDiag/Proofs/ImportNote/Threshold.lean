import RecipeDiag.Configuration
import RecipeDiag.Proofs.ImportNote.Rewriting

/-!
# The threshold that is set

A threshold is a word, and of a setting beyond that only the low half is kept
(`importLineThreshold_apply`). So a message cites a line up to the threshold if the line, counted no
further than a word goes, is at most the remainder of the setting (`message_under_setting`): for settings
below 2^32 this is the setting itself, but a greater one can act like a small one.
-/

namespace RecipeDiag

namespace Configuration
variable {c : Configuration} {settings : Json} {n : Nat}

theorem count?_eq_of_integer {name : String} (h : settings.member? name = some (.integer n))
    (hn : n < UInt64.size) : count? settings name = some (UInt32.ofNat n) := by
  unfold count?
  rw [h]
  dsimp only
  rw [Int.toNat_natCast]
  exact if_pos ⟨Int.natCast_nonneg n, hn⟩

theorem importLineThreshold_apply (h : (relevant settings).member? "importLineThreshold" = some (.integer n))
    (hn : n < UInt64.size) : (c.apply settings).importLineThreshold.toNat = n % 2 ^ 32 := by
  show ((count? (relevant settings) "importLineThreshold").getD c.importLineThreshold).toNat = _
  rw [count?_eq_of_integer h hn, Option.getD_some, UInt32.toNat_ofNat']

end Configuration

namespace ImportNote
variable {c : Citation}

theorem line_eq_min (h : c.digits.all Char.isDigit = true) : c.line = min (decimal c.digits) (2 ^ 32 - 1) := by
  unfold Citation.line
  simp only [h, true_and]
  split <;> omega

/-- A setting `n` counts as its remainder by 2^32, and a line beyond the greatest word as that. Below 2^32
the setting means the number that it is, unless it is the greatest word and the line is beyond it. -/
theorem message_under_setting (config : Configuration) (settings : Json) (n : Nat) (w : Warning) (f : Finding)
    (c : Citation) (hset : (Configuration.relevant settings).member? "importLineThreshold" = some (.integer n))
    (hn : n < UInt64.size) (hw : w ∈ warnings) (hreport : f.isReport w.checker.name w.code = true)
    (hcites : w.Cites f.message.toList c) (hdigits : c.digits.all Char.isDigit = true) :
    (message f (config.apply settings).importLineThreshold =
      if min (decimal c.digits) (2 ^ 32 - 1) ≤ n % 2 ^ 32 then String.ofList c.statement ++ note
      else f.message) ∧
    (n < 2 ^ 32 → (n < 2 ^ 32 - 1 ∨ decimal c.digits < 2 ^ 32) →
      message f (config.apply settings).importLineThreshold =
        if decimal c.digits ≤ n then String.ofList c.statement ++ note else f.message) := by
  have hmessage : message f (config.apply settings).importLineThreshold =
      if min (decimal c.digits) (2 ^ 32 - 1) ≤ n % 2 ^ 32 then String.ofList c.statement ++ note
      else f.message := by
    rw [message_of_cites hw hcites, Configuration.importLineThreshold_apply hset hn, line_eq_min hdigits]
    simp only [hreport, true_and]
  refine ⟨hmessage, fun hlt hline => ?_⟩
  have hle : min (decimal c.digits) (2 ^ 32 - 1) ≤ n % 2 ^ 32 ↔ decimal c.digits ≤ n := by
    rw [Nat.mod_eq_of_lt hlt]
    omega
  rw [hmessage]
  simp only [hle]

/-! ### A setting beyond every word -/

namespace Sample

def settings (n : Nat) : Json := .object [("importLineThreshold", .integer n)]

/-- What the recipe imports again is imported in line 3. -/
def imported : Finding :=
  { range := ⟨⟨0, 7⟩, ⟨0, 9⟩⟩, severity := some 2, code := some (.plain (.text "F811")),
    source := some "Flake8", message := "redefinition of unused 'os' from line 3", tags := none }

def flake8 : Warning := ⟨.flake8, "F811", " from line ", ""⟩

theorem flake8_mem : flake8 ∈ warnings := List.mem_cons_self ..

def line3 : Citation := ⟨"redefinition of unused 'os'".toList, ['3']⟩

theorem cites_imported : flake8.Cites imported.message.toList line3 :=
  ⟨by decide, by decide, by decide, by decide, List.all_eq_true.1 (by decide)⟩

end Sample

open Sample in
theorem message_under_setting_of_nine :
    message imported (Configuration.default.apply (settings 9)).importLineThreshold =
      "redefinition of unused 'os' (imported by BitBake)" := by
  have hsetting := (message_under_setting Configuration.default (settings 9) 9 flake8 imported _ rfl
    (by decide) flake8_mem (by decide) cites_imported (by decide)).2 (by decide) (.inl (by decide))
  rw [if_pos (by decide)] at hsetting
  exact hsetting

open Sample in
/-- The setting 2^32 acts like the setting zero. So a citation of line 3 stays, although a setting of 7
replaced it. -/
theorem citation_stays_at_greater_setting :
    (Configuration.relevant (settings 4294967296)).member? "importLineThreshold" = some (.integer 4294967296) ∧
    flake8 ∈ warnings ∧ imported.isReport flake8.checker.name flake8.code = true ∧
    flake8.Cites imported.message.toList line3 ∧ line3.digits.all Char.isDigit = true ∧
    decimal line3.digits ≤ 7 ∧
    message imported (Configuration.default.apply (settings 7)).importLineThreshold =
      String.ofList line3.statement ++ note ∧
    message imported (Configuration.default.apply (settings 4294967296)).importLineThreshold =
      imported.message ∧
    imported.message ≠ String.ofList line3.statement ++ note := by
  refine ⟨rfl, flake8_mem, by decide, cites_imported, by decide, by decide, ?_, ?_, by decide⟩
  · rw [message_of_cites flake8_mem cites_imported]
    exact if_pos (by decide)
  · rw [message_of_cites flake8_mem cites_imported]
    exact if_neg (by decide)

end ImportNote
end RecipeDiag
