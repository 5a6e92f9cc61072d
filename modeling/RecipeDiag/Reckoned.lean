/-! # Sums in machine words

A sum may not fit its word. A program that checks its sums ends there; one that does not goes on with
what is left modulo the size of the word. A `Reckoned` value is what such a program comes to, together
with whether all the sums on the way fit: `value` is the result without checks, `checked?` the one with
them. -/

namespace RecipeDiag

structure Reckoned (α : Type) where
  /-- The result if every sum is taken modulo the size of its word. -/
  value : α
  /-- Whether every sum fits its word. -/
  fits : Bool
  deriving DecidableEq, Repr

namespace Reckoned
variable {α β : Type}

/-- The result if sums are checked, none if the program ends at one of them. -/
def checked? (a : Reckoned α) : Option α := if a.fits then some a.value else none

instance : Monad Reckoned where
  pure a := ⟨a, true⟩
  bind a f := ⟨(f a.value).value, a.fits && (f a.value).fits⟩

/-- The sum of two positions' counters. -/
def counterSum (m n : UInt32) : Reckoned UInt32 := ⟨m + n, m.toNat + n.toNat < UInt32.size⟩

/-- The sum of two offsets. -/
def offsetSum (m n : UInt64) : Reckoned UInt64 := ⟨m + n, m.toNat + n.toNat < UInt64.size⟩

/-! ### Results with and without checks -/

variable {a : Reckoned α} {b : α}

@[simp] theorem value_pure : (pure b : Reckoned α).value = b := rfl

@[simp] theorem fits_pure : (pure b : Reckoned α).fits = true := rfl

@[simp] theorem value_bind (f : α → Reckoned β) : (a >>= f).value = (f a.value).value := rfl

@[simp] theorem fits_bind (f : α → Reckoned β) : (a >>= f).fits = (a.fits && (f a.value).fits) := rfl

theorem eq_pure_iff : a = pure b ↔ a.value = b ∧ a.fits = true := by
  obtain ⟨value, fits⟩ := a
  exact Reckoned.mk.injEq .. ▸ Iff.rfl

theorem checked?_eq_some_iff : a.checked? = some b ↔ a = pure b := by
  rw [eq_pure_iff, checked?]
  split <;> simp_all

theorem checked?_eq_none_iff : a.checked? = none ↔ a.fits = false := by
  rw [checked?]
  split <;> simp_all

end Reckoned
end RecipeDiag
