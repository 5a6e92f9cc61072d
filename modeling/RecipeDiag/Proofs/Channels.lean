import RecipeDiag.Channels
import RecipeDiag.Proofs.Table

/-!
# The recipes of the channels

The recipes listed are those with an entry (`mem_recipes_iff`), in ascending order, and each once
(`nodup_recipes`), as no channel comes to have two entries for one (`Distinct.set`).
-/

namespace RecipeDiag.Channels
variable {c : Channels} {recipe : Uri}

/-- No channel has two entries for a recipe. -/
def Distinct (c : Channels) : Prop := ∀ l, (c.channel l).keys.Nodup

/-- One of the channels has an entry for the recipe. -/
def HasEntry (c : Channels) (recipe : Uri) : Prop := ∃ l, (c.channel l).get? recipe ≠ none

theorem distinct_empty : empty.Distinct := by
  intro l
  cases l <;> exact List.nodup_nil

theorem Distinct.set (h : c.Distinct) (l : Language) (recipe : Uri) (ds : List Diagnostic) :
    (c.set l recipe ds).Distinct := by
  intro l'
  have hset := Table.nodup_keys_insert (h l) recipe ds
  cases l with
  | bash =>
    cases l' with
    | bash => exact hset
    | python => exact h .python
  | python =>
    cases l' with
    | bash => exact h .bash
    | python => exact hset

theorem hasEntry_set {l : Language} {recipe' : Uri} {ds : List Diagnostic} :
    (c.set l recipe ds).HasEntry recipe' ↔ recipe' = recipe ∨ c.HasEntry recipe' := by
  simp only [HasEntry, get?_channel_set]
  constructor
  · rintro ⟨l', hl'⟩
    split at hl'
    · next hr => exact .inl hr.2
    · exact .inr ⟨l', hl'⟩
  · rintro (rfl | ⟨l', hl'⟩)
    · exact ⟨l, by simp⟩
    · refine ⟨l', ?_⟩
      split
      · simp
      · exact hl'

theorem mem_recipes_iff : recipe ∈ c.recipes ↔ c.HasEntry recipe := by
  rw [recipes, Uri.sort, List.mem_mergeSort, List.mem_append, List.mem_filter]
  constructor
  · rintro (hb | ⟨hp, -⟩)
    · exact ⟨.bash, Table.mem_keys_iff.1 hb⟩
    · exact ⟨.python, Table.mem_keys_iff.1 hp⟩
  · rintro ⟨l, hl⟩
    have hkey := Table.mem_keys_iff.2 hl
    cases l with
    | bash => exact .inl hkey
    | python =>
      by_cases hb : recipe ∈ c.bash.keys
      · exact .inl hb
      · exact .inr ⟨hkey, by simpa using hb⟩

theorem mem_recipes_of_get? {l : Language} {ds : List Diagnostic} (h : (c.channel l).get? recipe = some ds) :
    recipe ∈ c.recipes := mem_recipes_iff.2 ⟨l, h ▸ Option.some_ne_none ds⟩

/-- A recipe with entries in both channels is listed once all the same. -/
theorem nodup_recipes (h : c.Distinct) : c.recipes.Nodup := by
  rw [recipes, Uri.sort, (List.mergeSort_perm ..).nodup_iff, List.nodup_append]
  refine ⟨h .bash, (h .python).filter _, fun u hu v hv huv => ?_⟩
  subst huv
  simp [hu] at hv

theorem ascending_recipes (c : Channels) : c.recipes.Pairwise (· ≤ ·) := by
  have htrans (u v w : Uri) (huv : u ≤ v) (hvw : v ≤ w) : u ≤ w := String.le_trans huv hvw
  have htotal (u v : Uri) : u ≤ v ∨ v ≤ u := String.le_total u.text v.text
  exact pairwise_mergeSort_le htrans htotal _

end RecipeDiag.Channels
