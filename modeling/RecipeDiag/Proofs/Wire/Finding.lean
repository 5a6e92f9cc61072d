import RecipeDiag.Proofs.Json.RoundTrip
import RecipeDiag.Proofs.Wire.Record
import RecipeDiag.Wire.Diagnostic

/-!
# Findings over the wire

A finding is read back as it was written, as a value and as a text (`findings_survive_the_wire`). What
a code is written as tells how it is read, so a plain code never comes back as a linked one. All that is
asked of the links is that they are read back from their own text (`Uri.IsNormal`).
-/

namespace RecipeDiag

/-- The identifier is read back from its text. -/
def Uri.IsNormal (u : Uri) : Prop := parse? u.text = some u

theorem Uri.ofJson?_toJson {u : Uri} (h : u.IsNormal) : ofJson? u.toJson = some u := by
  rw [ofJson?, toJson, Json.string?, Option.bind_some]
  exact h

namespace Json
variable {d : Nat} {ms : List (String × Option Json)} {j : Json}

/-- Whether a value is an object. -/
def isObject : Json → Bool
  | object _ => true
  | _ => false

theorem plain_record (names : List String) (values : List (Option Json))
    (h : ∀ j, some j ∈ values → Plain d j) : Plain (d + 1) (ofMembers (names.zip values)) := by
  refine .object fun m hm => h m.2 ?_
  exact (List.of_mem_zip (mem_present_iff.1 hm)).2

theorem fits_word (n : UInt32) : Numeral.Fits n.toNat := by
  have hlt := n.toNat_lt
  have hsize : UInt64.size = 18446744073709551616 := rfl
  constructor <;> omega

theorem fits_signed (n : Int32) : Numeral.Fits n.toInt := by
  have hle := n.le_toInt
  have hlt := n.toInt_lt
  have hsize : UInt64.size = 18446744073709551616 := rfl
  constructor <;> omega

end Json

theorem Position.plain_toJson (p : Position) (d : Nat) : Json.Plain (d + 1) p.toJson := by
  refine Json.plain_record ["line", "character"]
    [some (.integer p.line.toNat), some (.integer p.character.toNat)] fun j hj => ?_
  simp only [List.mem_cons, List.not_mem_nil, or_false, Option.some.injEq] at hj
  rcases hj with rfl | rfl
  · exact .integer d (Json.fits_word p.line)
  · exact .integer d (Json.fits_word p.character)

theorem Range.plain_toJson (r : Range) (d : Nat) : Json.Plain (d + 2) r.toJson := by
  refine Json.plain_record ["start", "end"] [some r.start.toJson, some r.stop.toJson]
    fun j hj => ?_
  simp only [List.mem_cons, List.not_mem_nil, or_false, Option.some.injEq] at hj
  rcases hj with rfl | rfl
  · exact r.start.plain_toJson d
  · exact r.stop.plain_toJson d

/-! ### Codes -/

theorem CodeValue.plain_toJson (v : CodeValue) (d : Nat) : Json.Plain d v.toJson := by
  cases v with
  | number n => exact .integer d (Json.fits_signed n)
  | text s => exact .string d s

theorem CodeValue.ofJson?_toJson (v : CodeValue) : ofJson? v.toJson = some v := by
  cases v with
  | number n =>
    show (Json.i32? (.integer n.toInt)).map _ = _
    rw [Json.i32?_integer]
    rfl
  | text s => rfl

namespace Code
variable {c : Code} {j : Json}

/-- Whether the code comes as an object, with a link or without. -/
def isLinked : Code → Bool
  | plain _ => false
  | linked _ _ => true

theorem toJson_ne_null (c : Code) : c.toJson ≠ .null := by
  rcases c with (n | s) | ⟨v, target⟩ <;> exact fun h => Json.noConfusion h

/-- How a code is written tells how it is read. -/
theorem isObject_of_ofJson? (h : ofJson? j = some c) : j.isObject = c.isLinked := by
  unfold ofJson? at h
  split at h
  · simp only [Option.bind_eq_bind, Option.bind_eq_some_iff] at h
    obtain ⟨-, -, fields, -, h⟩ := h
    split at h
    · simp only [Option.bind_eq_some_iff] at h
      obtain ⟨v, -, target, -, hc⟩ := h
      cases hc
      rfl
    · cases h
  · next hj =>
    obtain ⟨v, -, rfl⟩ := Option.map_eq_some_iff.1 h
    cases j with
    | object ms => exact absurd rfl (hj ms)
    | _ => rfl

theorem ofJson?_linked {v' : Json} {t' : Option Json} {v : CodeValue} {t : Option Uri} (hobject : j.isObject)
    (hreadable : j.readable) (hrecord : j.objectRecord? ["value", "target"] = some [some v', t'])
    (hv : CodeValue.ofJson? v' = some v) (ht : Json.optional? Uri.ofJson? t' = some t) :
    ofJson? j = some (.linked v t) := by
  cases j with
  | object ms => simp [ofJson?, guard, hreadable, hrecord, hv, ht]
  | _ => cases hobject

theorem ofJson?_toJson (h : ∀ u, c.link = some u → u.IsNormal) : ofJson? c.toJson = some c := by
  cases c with
  | plain v =>
    have hv := CodeValue.ofJson?_toJson v
    cases v <;> exact congrArg (Option.map plain) hv
  | linked v target =>
    have hrecord : Json.objectRecord? ["value", "target"] (linked v target).toJson =
        some [some v.toJson, target.map Uri.toJson] :=
      Json.record?_zip ["value", "target"] [some v.toJson, target.map Uri.toJson] (by decide) rfl
    have htarget : Json.optional? Uri.ofJson? (target.map Uri.toJson) = some target :=
      Json.optional?_map (fun u hu => Uri.ofJson?_toJson (h u hu)) fun u hu => Json.noConfusion hu
    have hreadable : (linked v target).toJson.readable := by cases v <;> cases target <;> rfl
    exact ofJson?_linked rfl hreadable hrecord (CodeValue.ofJson?_toJson v) htarget

theorem plain_toJson (c : Code) (d : Nat) : Json.Plain (d + 1) c.toJson := by
  cases c with
  | plain v => exact v.plain_toJson (d + 1)
  | linked v target =>
    refine Json.plain_record ["value", "target"] [some v.toJson, target.map Uri.toJson]
      fun j hj => ?_
    simp only [List.mem_cons, List.not_mem_nil, or_false] at hj
    rcases hj with h | h
    · cases h
      exact v.plain_toJson d
    · obtain ⟨u, -, rfl⟩ := Option.map_eq_some_iff.1 h.symm
      exact .string d u.text

end Code

/-! ### Findings -/

namespace Finding
variable {f : Finding} {j : Json}

/-- The members of a finding, in order. -/
def members : List String := ["range", "severity", "code", "source", "message", "tags"]

/-- The link of the code, if the finding has a code with one. -/
def link? (f : Finding) : Option Uri := f.code.bind Code.link

/-- What stands under each of the members. -/
def values (f : Finding) : List (Option Json) :=
  [some f.range.toJson, f.severity.map fun s => .integer s.toInt, f.code.map Code.toJson,
    f.source.map .string, some (.string f.message),
    f.tags.map fun ts => .array (ts.map fun t => .integer t.toInt)]

theorem record?_toJson (f : Finding) : Json.record? members f.toJson = some f.values :=
  Json.record?_zip members f.values (by decide) rfl

theorem ofJson?_toJson (h : ∀ u, f.link? = some u → u.IsNormal) : ofJson? f.toJson = some f := by
  have hseverity : Json.optional? Json.i32? (f.severity.map fun s => .integer s.toInt) = some f.severity :=
    Json.optional?_map (fun s _ => Json.i32?_integer s) fun s hs => Json.noConfusion hs
  have hcode : Json.optional? Code.ofJson? (f.code.map Code.toJson) = some f.code := by
    refine Json.optional?_map (fun c hc => Code.ofJson?_toJson fun u hu => h u ?_) Code.toJson_ne_null
    rw [link?, hc]
    exact hu
  have hsource : Json.optional? Json.string? (f.source.map .string) = some f.source :=
    Json.optional?_map (fun s _ => rfl) fun s hs => Json.noConfusion hs
  have htags : Json.optional? (Json.list? Json.i32?)
      (f.tags.map fun ts => .array (ts.map fun t => .integer t.toInt)) = some f.tags :=
    Json.optional?_map (fun ts _ => Json.list?_array Json.i32?_integer ts) fun ts hs => Json.noConfusion hs
  have hrecord := record?_toJson f
  rw [members, values] at hrecord
  simp [ofJson?, hrecord, Range.ofJson?_toJson, hseverity, hcode, hsource, htags, Json.string?]

/-! ### As text -/

theorem plain_toJson (f : Finding) (d : Nat) : Json.Plain (d + 3) f.toJson := by
  refine Json.plain_record members f.values fun j hj => ?_
  simp only [values, List.mem_cons, List.not_mem_nil, or_false] at hj
  rcases hj with h | h | h | h | h | h
  · cases h
    exact f.range.plain_toJson d
  · obtain ⟨s, -, rfl⟩ := Option.map_eq_some_iff.1 h.symm
    exact .integer _ (Json.fits_signed s)
  · obtain ⟨c, -, rfl⟩ := Option.map_eq_some_iff.1 h.symm
    exact c.plain_toJson (d + 1)
  · obtain ⟨s, -, rfl⟩ := Option.map_eq_some_iff.1 h.symm
    exact .string _ s
  · cases h
    exact .string _ f.message
  · obtain ⟨ts, -, rfl⟩ := Option.map_eq_some_iff.1 h.symm
    refine .array fun t ht => ?_
    obtain ⟨t, -, rfl⟩ := List.mem_map.1 ht
    exact .integer _ (Json.fits_signed t)

/-- A finding from the text of its JSON. -/
def ofText? (text : String) : Option Finding := (Json.read? text.toList).bind ofJson?

theorem ofText?_render (f : Finding) : ofText? f.toJson.render = ofJson? f.toJson := by
  rw [ofText?, Json.read?_render (plain_toJson f 124)]
  rfl

/-! ### The code of a finding that was read -/

/-- The code that a finding is read with is that of its member, if the member is there and not null. -/
theorem exists_field?_code {c : Code} (h : ofJson? j = some f) (hc : f.code = some c) :
    ∃ v, j.field? members "code" = some v ∧ Code.ofJson? v = some c := by
  unfold ofJson? at h
  simp only [Option.bind_eq_bind, Option.bind_eq_some_iff] at h
  obtain ⟨fields, hfields, h⟩ := h
  split at h
  · next range severity code source message tags =>
    simp only [Option.bind_eq_some_iff] at h
    obtain ⟨r, -, s, -, c', hcode, x, -, t, -, ts, -, hf⟩ := h
    cases hf
    subst hc
    -- null would leave the finding without a code
    rcases code with _ | v
    · cases hcode
    · refine ⟨v, ?_, ?_⟩
      · rw [Json.field?, members, hfields]
        rfl
      · exact Json.eq_some_of_optional? hcode
  · cases h

/-- Every finding is read back as it was written, as a value and as a text. Whatever is accepted as a
finding, written and read again, is the same finding; its code comes as an object, both there and where it
is written, exactly if it is a linked one. -/
theorem findings_survive_the_wire :
    (∀ f : Finding, (∀ u, f.link? = some u → u.IsNormal) →
      ofJson? f.toJson = some f ∧ ofText? f.toJson.render = some f) ∧
    ∀ (j : Json) (f : Finding), ofJson? j = some f → (∀ u, f.link? = some u → u.IsNormal) →
      ofJson? f.toJson = some f ∧ ofText? f.toJson.render = some f ∧
      ∀ c, f.code = some c → ∃ v w, j.field? members "code" = some v ∧
        f.toJson.field? members "code" = some w ∧ v.isObject = c.isLinked ∧ w.isObject = c.isLinked := by
  have hback (f : Finding) (h : ∀ u, f.link? = some u → u.IsNormal) :
      ofJson? f.toJson = some f ∧ ofText? f.toJson.render = some f :=
    ⟨ofJson?_toJson h, (ofText?_render f).trans (ofJson?_toJson h)⟩
  refine ⟨hback, fun j f hj h => ⟨(hback f h).1, (hback f h).2, fun c hc => ?_⟩⟩
  obtain ⟨v, hv, hvc⟩ := exists_field?_code hj hc
  obtain ⟨w, hw, hwc⟩ := exists_field?_code (hback f h).1 hc
  exact ⟨v, w, hv, hw, Code.isObject_of_ofJson? hvc, Code.isObject_of_ofJson? hwc⟩

namespace Sample

def wiki : Uri := ⟨"https", some ⟨"", "www.shellcheck.net", none⟩, "/wiki/SC2154", none, none⟩

def unassigned : Finding where
  range := ⟨⟨2, 4⟩, ⟨2, 8⟩⟩
  severity := some 2
  code := some (.linked (.text "SC2154") (some wiki))
  source := some "shellcheck"
  message := "PV is referenced but not assigned."
  tags := none

/-- The same as a client may send it: positions as lists, null for what is absent, and a member more. -/
def sent : Json := .object [
  ("code", .object [("value", .string "SC2154"), ("target", .string "https://www.shellcheck.net/wiki/SC2154")]),
  ("message", .string "PV is referenced but not assigned."),
  ("range", .array [.array [.integer 2, .integer 4], .array [.integer 2, .integer 8]]),
  ("severity", .integer 2), ("source", .string "shellcheck"), ("tags", .null), ("version", .integer 1)]

theorem link?_unassigned : ∀ u, unassigned.link? = some u → u.IsNormal := by
  intro u hu
  cases hu
  show Uri.parse? wiki.text = some wiki
  decide +kernel

theorem ofJson?_sent : ofJson? sent = some unassigned := by decide +kernel

end Sample

theorem findings_survive_the_wire_of_unassigned :
    Sample.unassigned.link? = some Sample.wiki ∧ Sample.wiki.IsNormal ∧
    ofText? Sample.unassigned.toJson.render = some Sample.unassigned ∧
    ofJson? Sample.sent = some Sample.unassigned ∧
    ∃ v w, Sample.sent.field? members "code" = some v ∧
      Sample.unassigned.toJson.field? members "code" = some w ∧ v.isObject ∧ w.isObject := by
  have hlink := Sample.link?_unassigned
  have hsent := Sample.ofJson?_sent
  obtain ⟨-, htext⟩ := findings_survive_the_wire.1 Sample.unassigned hlink
  obtain ⟨-, -, hcode⟩ := findings_survive_the_wire.2 Sample.sent Sample.unassigned hsent hlink
  obtain ⟨v, w, hv, hw, hvobject, hwobject⟩ := hcode _ rfl
  exact ⟨rfl, hlink Sample.wiki rfl, htext, hsent, v, w, hv, hw, hvobject, hwobject⟩

end Finding

end RecipeDiag
