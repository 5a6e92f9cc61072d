import RecipeDiag.Wire.Basic

/-!
# Reading back what was written

A record whose members have different names is read back member by member, those without a value being
absent (`record?_ofMembers`); so are numbers, lists, positions and ranges.
-/

namespace RecipeDiag
namespace Json
variable {α : Type} {ms : List (String × Option Json)} {m : String × Option Json} {n : String}

/-! ### Records -/

/-- The members that have a value, as they are written. -/
def present (ms : List (String × Option Json)) : List (String × Json) :=
  ms.filterMap fun m => m.2.map fun j => (m.1, j)

theorem ofMembers_eq (ms : List (String × Option Json)) : ofMembers ms = object (present ms) := rfl

theorem mem_present_iff {e : String × Json} : e ∈ present ms ↔ (e.1, some e.2) ∈ ms := by
  rw [present, List.mem_filterMap]
  constructor
  · rintro ⟨⟨k, o⟩, hmem, hm⟩
    obtain ⟨j, rfl, rfl⟩ := Option.map_eq_some_iff.1 hm
    exact hmem
  · intro hmem
    exact ⟨_, hmem, rfl⟩

theorem filter_present_of_not_mem (h : n ∉ ms.map Prod.fst) :
    (present ms).filter (fun e => e.1 == n) = [] := by
  refine List.filter_eq_nil_iff.2 fun e he hn => h ?_
  exact List.mem_map.2 ⟨_, mem_present_iff.1 he, by simpa using hn⟩

/-- Of members with different names each is found under its own, if it has a value. -/
theorem filter_present (hnodup : (ms.map Prod.fst).Nodup) (hm : m ∈ ms) :
    (present ms).filter (fun e => e.1 == m.1) = (m.2.map fun j => (m.1, j)).toList := by
  induction ms with
  | nil => simp at hm
  | cons d ds ih =>
    rw [List.map_cons, List.nodup_cons] at hnodup
    obtain ⟨hnot, hnodup⟩ := hnodup
    rcases List.mem_cons.1 hm with rfl | hmem
    · have hrest := filter_present_of_not_mem hnot
      obtain ⟨k, _ | j⟩ := m
      · exact hrest
      · show List.filter _ ((k, j) :: present ds) = _
        simp [hrest]
    · have hne : d.1 ≠ m.1 := by
        intro hd
        exact hnot (hd ▸ List.mem_map_of_mem hmem)
      obtain ⟨k, _ | j⟩ := d
      · exact ih hnodup hmem
      · show List.filter _ ((k, j) :: present ds) = _
        rw [List.filter_cons_of_neg (by simpa using hne), ih hnodup hmem]

theorem record?_ofMembers (hnodup : (ms.map Prod.fst).Nodup) :
    record? (ms.map Prod.fst) (ofMembers ms) = some (ms.map Prod.snd) := by
  rw [ofMembers_eq, record?, if_pos, List.map_map, Option.some.injEq]
  · refine List.map_congr_left fun m hm => ?_
    rw [Function.comp_apply, ← List.head?_filter, filter_present hnodup hm]
    cases m.2 <;> rfl
  · rw [List.all_eq_true]
    intro n hn
    obtain ⟨m, hm, rfl⟩ := List.mem_map.1 hn
    rw [filter_present hnodup hm]
    cases m.2 <;> simp

/-- What is written as a record is read back under the same names. -/
theorem record?_zip (names : List String) (values : List (Option Json)) (hnodup : names.Nodup)
    (hlength : names.length = values.length) :
    record? names (ofMembers (names.zip values)) = some values := by
  have hnames : (names.zip values).map Prod.fst = names := List.map_fst_zip (Nat.le_of_eq hlength)
  have hvalues : (names.zip values).map Prod.snd = values := List.map_snd_zip (Nat.le_of_eq hlength.symm)
  have h : record? ((names.zip values).map Prod.fst) (ofMembers (names.zip values)) =
      some ((names.zip values).map Prod.snd) := record?_ofMembers (hnames.symm ▸ hnodup)
  rwa [hnames, hvalues] at h

/-! ### Values -/

theorem u32?_integer (n : UInt32) : u32? (.integer n.toNat) = some n := by
  have hlt : n.toNat < UInt32.size := n.toNat_lt_size
  simp [u32?, hlt]

theorem i32?_integer (n : Int32) : i32? (.integer n.toInt) = some n := by
  have hmin : Int32.minValue.toInt ≤ n.toInt := n.minValue_le_toInt
  have hmax : n.toInt ≤ Int32.maxValue.toInt := n.toInt_le
  rw [i32?, if_pos ⟨hmin, hmax⟩, Int32.ofInt_toInt]

theorem list?_array {write : α → Json} {read : Json → Option α} (h : ∀ a, read (write a) = some a)
    (as : List α) : list? read (.array (as.map write)) = some as := by
  rw [list?]
  induction as with
  | nil => rfl
  | cons a as ih => rw [List.map_cons, List.mapM_cons, h, ih]; rfl

/-- An optional member that gives a value is there and not null. -/
theorem eq_some_of_optional? {read : Json → Option α} {j : Json} {a : α}
    (h : optional? read (some j) = some (some a)) : read j = some a := by
  rw [optional?, nullable?.eq_def] at h
  split at h
  · cases h
  · obtain ⟨a', ha, hsome⟩ := Option.map_eq_some_iff.1 h
    cases hsome
    exact ha

/-- An optional member is read back if what is written for its value is not null. -/
theorem optional?_map {write : α → Json} {read : Json → Option α} {o : Option α}
    (h : ∀ a, o = some a → read (write a) = some a) (hnull : ∀ a, write a ≠ .null) :
    optional? read (o.map write) = some o := by
  cases o with
  | none => rfl
  | some a =>
    rw [Option.map_some, optional?, nullable?.eq_def]
    split
    · next hw => exact absurd hw (hnull a)
    · rw [h a rfl]; rfl

end Json

theorem Position.ofJson?_toJson (p : Position) : ofJson? p.toJson = some p := by
  have h : Json.record? ["line", "character"] p.toJson =
      some [some (.integer p.line.toNat), some (.integer p.character.toNat)] :=
    Json.record?_zip ["line", "character"] [some (.integer p.line.toNat), some (.integer p.character.toNat)]
      (by decide) rfl
  simp [ofJson?, h, Json.u32?_integer]

theorem Range.ofJson?_toJson (r : Range) : ofJson? r.toJson = some r := by
  have h : Json.record? ["start", "end"] r.toJson = some [some r.start.toJson, some r.stop.toJson] :=
    Json.record?_zip ["start", "end"] [some r.start.toJson, some r.stop.toJson] (by decide) rfl
  simp [ofJson?, h, Position.ofJson?_toJson]

end RecipeDiag
