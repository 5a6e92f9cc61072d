/-! # Tables

A table maps keys to values; every key occurs once. Only `get?` and the set of keys are ever asked
for, so the order of the entries means nothing. -/

namespace RecipeDiag

structure Table (α β : Type) where
  entries : List (α × β)
  deriving DecidableEq

namespace Table
variable {α β : Type} [DecidableEq α]

def empty : Table α β := ⟨[]⟩

instance : Inhabited (Table α β) := ⟨empty⟩

def get? (t : Table α β) (k : α) : Option β := t.entries.lookup k

/-- The keys that have a value. -/
def keys (t : Table α β) : List α := t.entries.map Prod.fst

def erase (t : Table α β) (k : α) : Table α β := ⟨t.entries.filter fun e => e.1 ≠ k⟩

/-- Gives a key a value, in place of the one it had. -/
def insert (t : Table α β) (k : α) (v : β) : Table α β := ⟨(k, v) :: (t.erase k).entries⟩

/-- The table of a list; of entries with one key the last counts. -/
def ofList (es : List (α × β)) : Table α β := es.foldl (fun t e => t.insert e.1 e.2) empty

@[simp] theorem get?_empty (k : α) : (empty : Table α β).get? k = none := rfl

theorem get?_erase (t : Table α β) (k k' : α) :
    (t.erase k).get? k' = if k' = k then none else t.get? k' := by
  obtain ⟨es⟩ := t
  simp only [get?, erase]
  induction es with
  | nil => simp
  | cons e es ih =>
    by_cases he : e.1 = k <;> by_cases hk : k' = e.1 <;> grind

theorem get?_insert (t : Table α β) (k k' : α) (v : β) :
    (t.insert k v).get? k' = if k' = k then some v else t.get? k' := by
  have h := get?_erase t k k'
  simp only [get?, insert] at h ⊢
  grind

/-! ### Tables that differ in one key -/

theorem erase_comm (t : Table α β) (k k' : α) : (t.erase k).erase k' = (t.erase k').erase k := by
  simp only [erase, List.filter_filter, Bool.and_comm]

theorem erase_insert_self (t : Table α β) (k : α) (v : β) : (t.insert k v).erase k = t.erase k := by
  simp [erase, insert]

theorem erase_erase_self (t : Table α β) (k : α) : (t.erase k).erase k = t.erase k := by
  simp [erase]

theorem erase_insert_of_ne (t : Table α β) {k k' : α} (h : k ≠ k') (v : β) :
    (t.insert k v).erase k' = (t.erase k').insert k v := by
  have hcomm := congrArg entries (erase_comm t k k')
  simp only [erase] at hcomm
  simp only [erase, insert, List.filter_cons, h, ne_eq, not_false_eq_true, decide_true, if_true, hcomm]

variable {t t' : Table α β} {k : α}

theorem insert_eq_of_erase_eq (h : t.erase k = t'.erase k) (v : β) : t.insert k v = t'.insert k v := by
  rw [insert, insert, h]

theorem get?_eq_of_erase_eq (h : t.erase k = t'.erase k) {k' : α} (hk : k' ≠ k) : t.get? k' = t'.get? k' := by
  have hget := congrArg (fun t => t.get? k') h
  simp only [get?_erase, hk, if_false] at hget
  exact hget

end Table
end RecipeDiag
