import RecipeDiag.Json.Reader
import RecipeDiag.Proofs.Json.Scan

/-!
# Reading what was written

A value is read back from its text (`read?_render`) if it is made of what a text can denote: no float,
integers that fit, nothing unreadable, and no nesting beyond what is read (`Plain`).
-/

namespace RecipeDiag.Json

/-- Values without floats, nested at most so deep, whose numbers can be read. -/
inductive Plain : Nat → Json → Prop where
  | null (d : Nat) : Plain d .null
  | bool (d : Nat) (b : Bool) : Plain d (.bool b)
  | integer (d : Nat) {i : Int} (h : Numeral.Fits i) : Plain d (.integer i)
  | string (d : Nat) (s : String) : Plain d (.string s)
  | array {d : Nat} {items : List Json} (h : ∀ j ∈ items, Plain d j) : Plain (d + 1) (.array items)
  | object {d : Nat} {ms : List (String × Json)} (h : ∀ m ∈ ms, Plain d m.2) : Plain (d + 1) (.object ms)

mutual
/-- The tokens that the text of a value consists of. -/
def tokens : Json → List Token
  | string s => [.text (some s)]
  | array items => .openArray :: itemTokens items ++ [.closeArray]
  | object members => .openObject :: memberTokens members ++ [.closeObject]
  | j => [.scalar j]

def itemTokens : List Json → List Token
  | [] => []
  | [j] => tokens j
  | j :: js => tokens j ++ .comma :: itemTokens js

def memberTokens : List (String × Json) → List Token
  | [] => []
  | [(n, j)] => .text (some n) :: .colon :: tokens j
  | (n, j) :: ms => .text (some n) :: .colon :: tokens j ++ .comma :: memberTokens ms
end

variable {d : Nat} {j : Json} {items : List Json} {ms : List (String × Json)} {ts : List Token}

/-! ### Scanning -/

open Scanner (Scans)

theorem scans_items (h : ∀ j ∈ items, ∀ ts, Scans (render j).toList ts ((tokens j).reverse ++ ts))
    (ts : List Token) : Scans (renderItems items).toList ts ((itemTokens items).reverse ++ ts) := by
  induction items generalizing ts with
  | nil => exact Scans.nil ts
  | cons j js ih =>
    have hj := h j List.mem_cons_self ts
    cases js with
    | nil => exact hj
    | cons k ks =>
      have hrest := ih (fun j hj => h j (List.mem_cons_of_mem _ hj)) (.comma :: ((tokens j).reverse ++ ts))
      have hall := hj.comma hrest
      simpa [renderItems, itemTokens] using hall

theorem scans_members (h : ∀ m ∈ ms, ∀ ts, Scans (render m.2).toList ts ((tokens m.2).reverse ++ ts))
    (ts : List Token) : Scans (renderMembers ms).toList ts ((memberTokens ms).reverse ++ ts) := by
  induction ms generalizing ts with
  | nil => exact Scans.nil ts
  | cons m ms ih =>
    obtain ⟨n, j⟩ := m
    have hj := h (n, j) List.mem_cons_self (.colon :: .text (some n) :: ts)
    have hm := (Scanner.scans_quote n ts).colon hj
    cases ms with
    | nil => simpa [renderMembers, memberTokens] using hm
    | cons m' ms =>
      have hrest := ih (fun m hm => h m (List.mem_cons_of_mem _ hm))
        (.comma :: ((tokens j).reverse ++ .colon :: .text (some n) :: ts))
      have hall := hm.comma hrest
      simpa [renderMembers, memberTokens] using hall

theorem scans_render (h : Plain d j) (ts : List Token) :
    Scans (render j).toList ts ((tokens j).reverse ++ ts) := by
  induction h generalizing ts with
  | null d => exact Scanner.scans_null ts
  | bool d b => exact Scanner.scans_bool b ts
  | integer d h => exact Scanner.scans_integer h ts
  | string d s => exact Scanner.scans_quote s ts
  | array h ih =>
    have hall := (scans_items ih (.openArray :: ts)).array
    simpa [render, tokens] using hall
  | object h ih =>
    have hall := (scans_members ih (.openObject :: ts)).object
    simpa [render, tokens] using hall

theorem scan?_render (h : Plain d j) : Token.scan? (render j).toList = some (tokens j) := by
  obtain ⟨s, hs, hflush, -⟩ := scans_render h []
  rw [Token.scan?, Scanner.start, hs]
  show s.flush.bind _ = _
  rw [hflush]
  simp

/-! ### Reading -/

namespace Reader
variable {fs : List Frame} {n : String}

theorem put_top (j : Json) : put false [] j = some ⟨[], .next, some j⟩ := by
  cases j <;> rfl

theorem put_array (fs : List Frame) (acc : List Json) (j : Json) :
    put false (.array acc :: fs) j = some ⟨.array (j :: acc) :: fs, .next, none⟩ := by
  cases j <;> rfl

theorem put_object (fs : List Frame) (acc : List (String × Json)) (n : String) (j : Json) :
    put false (.object acc n false :: fs) j = some ⟨.object ((n, j) :: acc) n false :: fs, .next, none⟩ := by
  cases j <;> rfl

theorem foldlM_cons_of_step {r r' : Reader} {t : Token} (h : step false r t = some r') :
    (t :: ts).foldlM (step false) r = ts.foldlM (step false) r' := by
  rw [List.foldlM_cons, h]
  rfl

theorem foldlM_append_of_fold {r r' : Reader} {us : List Token} (h : us.foldlM (step false) r = some r') :
    (us ++ ts).foldlM (step false) r = ts.foldlM (step false) r' := by
  rw [List.foldlM_append, h]
  rfl

/-- Where a value may stand, its tokens put it there. -/
def Reads (depth : Nat) (ts : List Token) (j : Json) : Prop :=
  ∀ fs b, fs.length + depth ≤ maxDepth → ts.foldlM (step false) ⟨fs, .value b, none⟩ = put false fs j

theorem foldlM_itemTokens (hne : items ≠ []) (h : ∀ j ∈ items, Reads d (tokens j) j)
    (hdepth : fs.length + 1 + d ≤ maxDepth) (acc : List Json) (b : Bool) :
    (itemTokens items).foldlM (step false) ⟨.array acc :: fs, .value b, none⟩ =
      some ⟨.array (items.reverse ++ acc) :: fs, .next, none⟩ := by
  induction items generalizing acc b with
  | nil => exact absurd rfl hne
  | cons j js ih =>
    have hj := h j List.mem_cons_self (.array acc :: fs) b hdepth
    rw [put_array] at hj
    cases js with
    | nil => exact hj
    | cons k ks =>
      have hrest := ih (List.cons_ne_nil k ks) (fun j hj => h j (List.mem_cons_of_mem _ hj)) (j :: acc) false
      show (tokens j ++ .comma :: itemTokens (k :: ks)).foldlM (step false) _ = _
      rw [foldlM_append_of_fold hj, foldlM_cons_of_step rfl, hrest]
      simp

theorem foldlM_memberTokens (hne : ms ≠ []) (h : ∀ m ∈ ms, Reads d (tokens m.2) m.2)
    (hdepth : fs.length + 1 + d ≤ maxDepth) (acc : List (String × Json)) (n : String) (b : Bool) :
    ∃ name, (memberTokens ms).foldlM (step false) ⟨.object acc n false :: fs, .name b, none⟩ =
      some ⟨.object (ms.reverse ++ acc) name false :: fs, .next, none⟩ := by
  induction ms generalizing acc n b with
  | nil => exact absurd rfl hne
  | cons m ms ih =>
    obtain ⟨k, j⟩ := m
    have hj := h (k, j) List.mem_cons_self (.object acc k false :: fs) false hdepth
    rw [put_object] at hj
    cases ms with
    | nil => exact ⟨k, hj⟩
    | cons m' ms =>
      obtain ⟨name, hrest⟩ := ih (List.cons_ne_nil m' ms) (fun m hm => h m (List.mem_cons_of_mem _ hm))
        ((k, j) :: acc) k false
      refine ⟨name, ?_⟩
      show (.text (some k) :: .colon :: (tokens j ++ .comma :: memberTokens (m' :: ms))).foldlM (step false) _ = _
      rw [foldlM_cons_of_step rfl, foldlM_cons_of_step rfl]
      refine (foldlM_append_of_fold hj).trans ?_
      rw [foldlM_cons_of_step rfl, hrest]
      simp

/-- A container that is not nested too deep is closed where it was opened. -/
theorem close_array (items : List Json) (hdepth : fs.length + 1 + d ≤ maxDepth) (stage : Stage) :
    close false false ⟨.array items.reverse :: fs, stage, none⟩ = put false fs (.array items) := by
  show put false fs (finish false (fs.length + 1) (.array items.reverse)) = _
  rw [finish, if_neg (by omega), List.reverse_reverse]

theorem close_object (ms : List (String × Json)) (hdepth : fs.length + 1 + d ≤ maxDepth) (stage : Stage) :
    close false true ⟨.object ms.reverse n false :: fs, stage, none⟩ = put false fs (.object ms) := by
  have hfits : (decide (maxDepth < fs.length + 1) || false) = false := by simp; omega
  show put false fs (finish false (fs.length + 1) (.object ms.reverse n false)) = _
  rw [finish, hfits]
  simp

theorem reads_array (h : ∀ j ∈ items, Reads d (tokens j) j) :
    Reads (d + 1) (tokens (.array items)) (.array items) := by
  intro fs b hdepth
  have hfits : fs.length + 1 + d ≤ maxDepth := by omega
  refine (foldlM_cons_of_step rfl).trans ?_
  show (itemTokens items ++ [Token.closeArray]).foldlM (step false) ⟨.array [] :: fs, .value true, none⟩ = _
  by_cases hne : items = []
  · subst hne
    exact (bind_pure _).trans (close_array [] hfits (.value true))
  · refine (foldlM_append_of_fold (foldlM_itemTokens hne h hfits [] true)).trans ?_
    rw [List.append_nil]
    exact (bind_pure _).trans (close_array items hfits .next)

theorem reads_object (h : ∀ m ∈ ms, Reads d (tokens m.2) m.2) :
    Reads (d + 1) (tokens (.object ms)) (.object ms) := by
  intro fs b hdepth
  have hfits : fs.length + 1 + d ≤ maxDepth := by omega
  refine (foldlM_cons_of_step rfl).trans ?_
  show (memberTokens ms ++ [Token.closeObject]).foldlM (step false) ⟨.object [] "" false :: fs, .name true, none⟩ = _
  by_cases hne : ms = []
  · subst hne
    exact (bind_pure _).trans (close_object [] hfits (.name true))
  · obtain ⟨name, hmembers⟩ := foldlM_memberTokens hne h hfits [] "" true
    refine (foldlM_append_of_fold hmembers).trans ?_
    rw [List.append_nil]
    exact (bind_pure _).trans (close_object ms hfits .next)

theorem reads_tokens (h : Plain d j) : Reads d (tokens j) j := by
  induction h with
  | null d => exact fun fs b hdepth => bind_pure _
  | bool d b => exact fun fs b hdepth => bind_pure _
  | integer d h => exact fun fs b hdepth => bind_pure _
  | string d s => exact fun fs b hdepth => bind_pure _
  | array h ih => exact reads_array ih
  | object h ih => exact reads_object ih

end Reader

/-- A value is read back from its text. -/
theorem read?_render (h : Plain maxDepth j) : read? (render j).toList = some j := by
  have hreads := Reader.reads_tokens h [] false (by simp)
  rw [Reader.put_top] at hreads
  rw [read?, readWith, scan?_render h]
  show ((tokens j).foldlM (Reader.step false) ⟨[], .value false, none⟩).bind _ = _
  rw [hreads]
  rfl

end RecipeDiag.Json
