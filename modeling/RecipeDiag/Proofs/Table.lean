import RecipeDiag.Table

/-!
# The keys of a table

Inserting and erasing keep every key once (`nodup_keys_insert`, `nodup_keys_erase`). The keys are those
under which something is found (`mem_keys_iff`). Where keys are listed, they are sorted
(`pairwise_mergeSort_le`).
-/

namespace RecipeDiag

theorem pairwise_mergeSort_le {α : Type} [LE α] [DecidableLE α]
    (htrans : ∀ a b c : α, a ≤ b → b ≤ c → a ≤ c) (htotal : ∀ a b : α, a ≤ b ∨ b ≤ a) (l : List α) :
    (l.mergeSort fun a b => decide (a ≤ b)).Pairwise (· ≤ ·) := by
  have hsorted : (l.mergeSort fun a b => decide (a ≤ b)).Pairwise fun a b => decide (a ≤ b) := by
    apply List.pairwise_mergeSort
    · intro a b c hab hbc
      simp only [decide_eq_true_eq] at hab hbc ⊢
      exact htrans a b c hab hbc
    · intro a b
      simpa using htotal a b
  exact hsorted.imp of_decide_eq_true

namespace Table
variable {α β : Type} [DecidableEq α] {t : Table α β} {k k' : α} {v : β}

theorem mem_keys_iff : k ∈ t.keys ↔ t.get? k ≠ none := by
  rw [keys, get?, Ne, List.lookup_eq_none_iff, List.mem_map]
  constructor
  · rintro ⟨e, he, rfl⟩ hnone
    simpa using hnone e he
  · intro h
    apply Decidable.byContradiction
    intro hnot
    refine h fun e he => bne_iff_ne.2 ?_
    rintro rfl
    exact hnot ⟨e, he, rfl⟩

theorem keys_erase (t : Table α β) (k : α) : (t.erase k).keys = t.keys.filter (· ≠ k) := by
  rw [keys, erase, keys, List.filter_map]
  rfl

theorem mem_keys_insert : k' ∈ (t.insert k v).keys ↔ k' = k ∨ k' ∈ t.keys := by
  rw [mem_keys_iff, get?_insert, mem_keys_iff]
  by_cases hk : k' = k <;> simp [hk]

theorem nodup_keys_erase (h : t.keys.Nodup) (k : α) : (t.erase k).keys.Nodup := by
  rw [keys_erase]
  exact h.filter _

theorem nodup_keys_insert (h : t.keys.Nodup) (k : α) (v : β) : (t.insert k v).keys.Nodup := by
  show (k :: (t.erase k).keys).Nodup
  refine List.nodup_cons.2 ⟨?_, nodup_keys_erase h k⟩
  simp [keys_erase]

end Table
end RecipeDiag
