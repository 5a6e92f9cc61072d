import RecipeDiag.Proofs.Server.Attendance
import RecipeDiag.Snapshot.Basic

/-!
# A session shows what a review of the snapshot shows

`session_agrees_with_review`: a client conveys the open recipes and generated documents of a snapshot
to a server, then the findings, in any order and with any time between the messages (`Conveys`), and
answers what the snapshot says (`Client.AnswersFor`). When no document waits any more, which is so
after the delay, the server shows for every recipe what one review of the snapshot shows.
-/

namespace RecipeDiag

/-! ### What a client conveys -/

/-- The client answers what the snapshot says: the targets of all definitions that cover a position,
and the language of the first region that does. -/
structure Client.AnswersFor (c : Client) (snapshot : Snapshot) : Prop where
  definitions : ∀ u p, (c.definitions u p).bind Client.locations = .ok
    ((snapshot.definitions.filter fun d => d.uri = u ∧ d.range.Contains p).map SymbolDefinition.target)
  languageAt : ∀ u p, (c.languageAt u p).bind Client.language = .ok
    ((snapshot.regions.find? fun r => r.uri = u ∧ r.range.Contains p).map Region.language)

theorem Client.AnswersFor.service_eq {c : Client} {snapshot : Snapshot} (h : c.AnswersFor snapshot) :
    c.service = snapshot.service := by
  simp only [Client.service, Snapshot.service, h.definitions, h.languageAt]
  rfl

/-- The edits open the recipes of the snapshot and register its documents in order. -/
structure Snapshot.GatheredBy (snapshot : Snapshot) (edits : List Edit) : Prop where
  gathering : ∀ e ∈ edits, (∃ u text, e = .setText u text) ∨ ∃ d, e = .register d
  opens : ∀ u text, .setText u text ∈ edits ↔ snapshot.openDocuments.get? u = some text
  registers : edits.filterMap Edit.registered? = snapshot.documents

namespace Server

/-- Events by which a client conveys edits: notifications that say so, with time between them. -/
inductive Conveys : List Event → List Edit → Prop
  | nil : Conveys [] []
  | wait {events edits} (milliseconds : Nat) (h : Conveys events edits) :
    Conveys (.advance milliseconds :: events) edits
  | greet {j events edits} (hj : Params.nothing? j = some ()) (h : Conveys events edits) :
    Conveys (.message ⟨"initialized", some j, false⟩ :: events) edits
  | opens {j u text events edits} (hj : Params.opened? j = some (u, text)) (h : Conveys events edits) :
    Conveys (.message ⟨"textDocument/didOpen", some j, false⟩ :: events) (.setText u text :: edits)
  | registers {j d events edits} (hj : GeneratedDocument.ofJson? j = some d)
      (h : Conveys events edits) :
    Conveys (.message ⟨"bitbake/embeddedDocument", some j, false⟩ :: events) (.register d :: edits)
  | reports {j u fs events edits} (hj : Params.reported? j = some (u, fs)) (h : Conveys events edits) :
    Conveys (.message ⟨"bitbake/embeddedDiagnostics", some j, false⟩ :: events)
      (.setFindings u fs :: edits)

section Conversations
variable {s : Server} {client : Client} {host : Host} {u recipe : Uri} {text : String}
  {d : GeneratedDocument} {fs : List Finding} {j : Json} {events : List Event}
  {done edits first second : List Edit} {target : Reconciler} {rest : List (Uri × List Finding)}

theorem Conveys.exists_append (h : Conveys events edits) (he : edits = first ++ second) :
    ∃ es es', events = es ++ es' ∧ Conveys es first ∧ Conveys es' second := by
  induction h generalizing first with
  | nil =>
    obtain ⟨rfl, rfl⟩ := List.append_eq_nil_iff.1 he.symm
    exact ⟨[], [], rfl, .nil, .nil⟩
  | wait milliseconds h ih =>
    obtain ⟨es, es', rfl, hf, hs⟩ := ih he
    exact ⟨_, es', rfl, .wait milliseconds hf, hs⟩
  | greet hj h ih =>
    obtain ⟨es, es', rfl, hf, hs⟩ := ih he
    exact ⟨_, es', rfl, .greet hj hf, hs⟩
  | opens hj h ih =>
    rcases List.cons_eq_append_iff.1 he with ⟨rfl, rfl⟩ | ⟨first', rfl, rfl⟩
    · exact ⟨[], _, rfl, .nil, .opens hj h⟩
    · obtain ⟨es, es', rfl, hf, hs⟩ := ih rfl
      exact ⟨_, es', rfl, .opens hj hf, hs⟩
  | registers hj h ih =>
    rcases List.cons_eq_append_iff.1 he with ⟨rfl, rfl⟩ | ⟨first', rfl, rfl⟩
    · exact ⟨[], _, rfl, .nil, .registers hj h⟩
    · obtain ⟨es, es', rfl, hf, hs⟩ := ih rfl
      exact ⟨_, es', rfl, .registers hj hf, hs⟩
  | reports hj h ih =>
    rcases List.cons_eq_append_iff.1 he with ⟨rfl, rfl⟩ | ⟨first', rfl, rfl⟩
    · exact ⟨[], _, rfl, .nil, .reports hj h⟩
    · obtain ⟨es, es', rfl, hf, hs⟩ := ih rfl
      exact ⟨_, es', rfl, .reports hj hf, hs⟩

/-! ### Single messages -/

section Steps
variable (hl : s.lifecycle = .initialized)
include hl

theorem fst_step_greet (hj : Params.nothing? j = some ()) :
    (s.step host (.message ⟨"initialized", some j, false⟩)).1 = s.greet :=
  fst_step_notification hl (by rfl) (by simp [notified?, hj])

theorem fst_step_opens (hj : Params.opened? j = some (u, text)) :
    (s.step host (.message ⟨"textDocument/didOpen", some j, false⟩)).1 = s.openDocument u text :=
  fst_step_notification hl (by rfl) (by simp [notified?, hj])

theorem fst_step_registers (hj : GeneratedDocument.ofJson? j = some d) :
    (s.step host (.message ⟨"bitbake/embeddedDocument", some j, false⟩)).1 =
      s.edit (.register d) :=
  fst_step_notification hl (by rfl) (by simp [notified?, hj])

theorem fst_step_reports (hj : Params.reported? j = some (u, fs)) :
    (s.step host (.message ⟨"bitbake/embeddedDiagnostics", some j, false⟩)).1 =
      s.reportFindings u fs :=
  fst_step_notification hl (by rfl) (by simp [notified?, hj])

end Steps

/-! ### Whole conversations -/

/-- The documents that are conveyed are gathered. -/
theorem Gathers.run (h : s.Gathers client done) (hp : s.Punctual) (host : Host)
    (hc : Conveys events edits)
    (hk : ∀ e ∈ edits, (∃ u text, e = .setText u text) ∨ ∃ d, e = .register d) :
    (s.run host events).Gathers client (done ++ edits) ∧ (s.run host events).Punctual := by
  -- by induction on the conversation: what a message conveys is done after its step
  induction hc generalizing s done with
  | nil => exact ⟨by rwa [List.append_nil], hp⟩
  | wait milliseconds hc ih =>
    exact ih (h.elapse host _) (hp.elapse host _) hk
  | greet hj hc ih =>
    rw [run_cons, fst_step_greet h.lifecycle hj]
    exact ih h.greet hp.greet hk
  | opens hj hc ih =>
    rw [run_cons, fst_step_opens h.lifecycle hj, List.append_cons]
    exact ih (h.openDocument _ _) (hp.openDocument _ _) (List.forall_mem_cons.1 hk).2
  | registers hj hc ih =>
    rw [run_cons, fst_step_registers h.lifecycle hj, List.append_cons]
    exact ih (h.register _) (hp.edit _) (List.forall_mem_cons.1 hk).2
  | reports hj hc ih =>
    rcases (List.forall_mem_cons.1 hk).1 with ⟨u, text, h⟩ | ⟨d, h⟩ <;> cases h

/-- The findings that are conveyed are caught up with. -/
theorem CatchesUp.run (hr : target.registry.Resolves) (hn : target.registry.Named)
    (h : s.CatchesUp client host target rest) (hp : s.Punctual) (hc : Conveys events edits)
    (he : edits = rest.map fun report => .setFindings report.1 report.2)
    (hf : ∀ u fs, (u, fs) ∈ rest → target.workspace.findingsOf u = fs) :
    (s.run host events).CatchesUp client host target [] ∧ (s.run host events).Punctual := by
  induction hc generalizing s rest with
  | nil =>
    cases List.map_eq_nil_iff.1 he.symm
    exact ⟨h, hp⟩
  | wait milliseconds hc ih =>
    exact ih (h.elapse hr hn _) (hp.elapse host _) he hf
  | greet hj hc ih =>
    rw [run_cons, fst_step_greet h.lifecycle hj]
    exact ih h.greet hp.greet he hf
  | opens hj hc ih =>
    cases rest <;> cases he
  | registers hj hc ih =>
    cases rest <;> cases he
  | reports hj hc ih =>
    cases rest with
    | nil => cases he
    | cons report rest =>
      obtain ⟨g, fs'⟩ := report
      simp only [List.map_cons, List.cons.injEq, Edit.setFindings.injEq] at he
      obtain ⟨⟨rfl, rfl⟩, rfl⟩ := he
      have hhead := h.reportFindings (hf _ _ (List.mem_cons_self ..))
      rw [run_cons, fst_step_reports h.lifecycle hj]
      exact ih hhead (hp.reportFindings _ _) rfl fun u fs hu => hf u fs (List.mem_cons_of_mem _ hu)

/-! ### Beginning -/

/-- A server that has just begun a session. -/
def begun (client : Client) : Server :=
  { start with lifecycle := .initialized, client := client }

/-- The session begins in the configuration that the client's settings make of the default. -/
theorem run_begin_eq {options : Option Json} (hj : Params.initialization? j = some options) :
    start.run host [.client client, .message ⟨"initialize", some j, true⟩] =
      { begun client with
        reconciler := { Reconciler.start .empty .empty with
          configuration := options.elim .default Configuration.default.apply } } := by
  have hname : Method.ofName? "initialize" = some .beginSession := rfl
  have hclient : (start.step host (.client client)).1 =
      { start with client := client } := rfl
  have hreceive : ({ start with client := client } : Server).receive host
      ⟨"initialize", some j, true⟩ =
      ({ start with
        lifecycle := .initialized, client := client
        reconciler := { Reconciler.start .empty .empty with
          configuration := options.elim .default Configuration.default.apply } }, .result greeting) := by
    cases options with
    | none => simp [receive, hname, handle, beginSession, hj, start, Reconciler.start]
    | some settings =>
      simp [receive, hname, handle, beginSession, hj, start, Reconciler.configure, Reconciler.start]
  rw [run_cons, hclient, run_cons, run_nil, step, hreceive]
  rfl

/-- The client's settings may leave the default configuration. -/
theorem run_begin {options : Option Json} (hj : Params.initialization? j = some options)
    (hdefault : ∀ settings, options = some settings →
      Configuration.default.apply settings = .default) :
    start.run host [.client client, .message ⟨"initialize", some j, true⟩] = begun client := by
  have hconfiguration : options.elim .default Configuration.default.apply = .default := by
    cases options with
    | none => rfl
    | some settings => exact hdefault settings rfl
  rw [run_begin_eq hj, hconfiguration]
  rfl

theorem gathers_begun (client : Client) : (begun client).Gathers client [] where
  lifecycle := rfl
  connected := rfl
  configuration := rfl
  settled _ := Reconciler.settled_start .empty .empty
  registry := rfl
  told _ _ h := nomatch h
  opened _ _ h := nomatch h
  unreported _ := rfl
  silent := ⟨fun _ _ h => absurd Channels.diagnostics_channel_empty h, fun _ _ h => nomatch h⟩

/-! ### Agreement -/

/-- No document waits for an update. -/
def Quiet (s : Server) : Prop := ∀ u, s.debounce.isPending u = false

/-- Both hold the same for every recipe and show the same; a set that was never shown is empty. -/
def ShowsLike (s : Server) (r : Reconciler) : Prop := ∀ recipe,
  s.reconciler.channels.merged recipe = r.channels.merged recipe ∧
    (s.reconciler.lastPublished? recipe).getD [] = (r.lastPublished? recipe).getD []

variable {snapshot : Snapshot} {reports : List (Uri × List Finding)}

theorem CatchesUp.showsLike (hr : snapshot.reconciler.registry.Resolves)
    (hn : snapshot.reconciler.registry.Named)
    (h : s.CatchesUp client host snapshot.reconciler []) (hq : s.Quiet) :
    s.ShowsLike (snapshot.reconciler.review ⟨host, client.service⟩).1 := by
  have honline : s.reconciler.channels.Reflects
      (snapshot.reconciler.outcome ⟨host, client.service⟩) fun _ => False :=
    h.reflects.mono fun u hu => by
      rcases hu with hu | ⟨fs, hu⟩
      · exact Bool.false_ne_true ((hq u).symm.trans hu)
      · exact nomatch hu
  have hoffline := Reconciler.reflects_review (r := snapshot.reconciler)
    (s := ⟨host, client.service⟩) (Channels.reflects_empty _) hr hn
  intro recipe
  have hmerged := honline.merged_eq hoffline recipe
  have hsettled : (snapshot.reconciler.review ⟨host, client.service⟩).1.Settled recipe :=
    (Reconciler.settled_start _ _).updateAll _ _
  exact ⟨hmerged, by rw [(h.settled recipe).getD_lastPublished?, hmerged,
    hsettled.getD_lastPublished?]⟩

/-- A snapshot is the target of the server that gathered its documents. -/
theorem Gathers.catchesUp_snapshot (h : s.Gathers client edits) (hg : snapshot.GatheredBy edits)
    (hn : snapshot.reconciler.registry.Named)
    (hf : ∀ u fs, snapshot.findings.get? u = some fs → (u, fs) ∈ reports) :
    s.CatchesUp client host snapshot.reconciler reports := by
  refine h.catchesUp ?_ rfl (fun u => ?_) hf (Registry.resolves_ofList _) hn
  · rw [h.registry, hg.registers]
    rfl
  · refine Option.ext fun text => ⟨fun hu => (hg.opens u text).1 (h.told u text hu), fun hu => ?_⟩
    obtain ⟨text', hu'⟩ := h.opened u text ((hg.opens u text).2 hu)
    have := ((hg.opens u text').1 (h.told u text' hu')).symm.trans hu
    cases this
    exact hu'

/-- After the conversation the server knows the snapshot, and every document is up to date or waits. -/
theorem catchesUp_of_conveys (client : Client) (host : Host)
    (hnames : ∀ d ∈ snapshot.documents, Language.ofUri? d.uri = some d.language)
    (hevents : Conveys events (edits ++ reports.map fun report => .setFindings report.1 report.2))
    (hedits : snapshot.GatheredBy edits)
    (hreports : ∀ u fs, (u, fs) ∈ reports ↔ snapshot.findings.get? u = some fs) :
    ((begun client).run host events).CatchesUp client host snapshot.reconciler [] ∧
      ((begun client).run host events).Punctual := by
  have hnamed : snapshot.reconciler.registry.Named := Registry.named_ofList hnames
  obtain ⟨es, es', rfl, hes, hes'⟩ := hevents.exists_append rfl
  obtain ⟨hgathers, hpunctual⟩ :=
    (gathers_begun client).run (Debounce.timely_empty _) host hes hedits.gathering
  rw [run_append]
  refine (hgathers.catchesUp_snapshot hedits hnamed fun u fs => (hreports u fs).2).run
    (Registry.resolves_ofList _) hnamed hpunctual hes' rfl fun u fs hu => ?_
  exact congrArg (·.getD []) ((hreports u fs).1 hu)

/-- A client begins a session that leaves the default configuration, conveys the open recipes and the
generated documents of a snapshot, the documents in order, and then all findings, with any time
between the messages. If the names of the documents tell their languages and the client answers what
the snapshot says, the server shows what a review of the snapshot shows as soon as no document waits,
and after the delay none does. -/
theorem session_agrees_with_review (snapshot : Snapshot) (host : Host) (client : Client)
    {j : Json} {options : Option Json} {events : List Event} {edits : List Edit}
    {reports : List (Uri × List Finding)}
    (hnames : ∀ d ∈ snapshot.documents, Language.ofUri? d.uri = some d.language)
    (hclient : client.AnswersFor snapshot)
    (hbegin : Params.initialization? j = some options)
    (hdefault : ∀ settings, options = some settings →
      Configuration.default.apply settings = .default)
    (hevents : Conveys events (edits ++ reports.map fun report => .setFindings report.1 report.2))
    (hedits : snapshot.GatheredBy edits)
    (hreports : ∀ u fs, (u, fs) ∈ reports ↔ snapshot.findings.get? u = some fs) :
    let s := start.run host (.client client :: .message ⟨"initialize", some j, true⟩ :: events)
    let offline := (snapshot.reconciler.review (snapshot.surroundings host)).1
    (s.Quiet → s.ShowsLike offline) ∧ ∀ milliseconds, debounceDelay ≤ milliseconds →
      (s.run host [.advance milliseconds]).Quiet ∧
        (s.run host [.advance milliseconds]).ShowsLike offline := by
  intro s offline
  have hresolves : snapshot.reconciler.registry.Resolves := Registry.resolves_ofList _
  have hnamed : snapshot.reconciler.registry.Named := Registry.named_ofList hnames
  have hs : s = (begun client).run host events := by
    rw [← run_begin hbegin hdefault, ← run_append]
    rfl
  have hoffline : offline = (snapshot.reconciler.review ⟨host, client.service⟩).1 := by
    rw [hclient.service_eq]
    rfl
  obtain ⟨hcaught, hpunctual⟩ :=
    catchesUp_of_conveys client host hnames hevents hedits hreports
  rw [← hs] at hcaught hpunctual
  rw [hoffline]
  refine ⟨hcaught.showsLike hresolves hnamed, fun milliseconds hms => ?_⟩
  rw [run_cons, run_nil, fst_step_advance]
  have hquiet : (s.elapse host milliseconds).Quiet := fun u => hpunctual.isPending_elapse hms
  exact ⟨hquiet, (hcaught.elapse hresolves hnamed _).showsLike hresolves hnamed hquiet⟩

end Conversations

/-! ### A script whose document is told after a while -/

namespace Sample
open Reconciler.Sample

def symbol : SymbolDefinition := ⟨recipe, ⟨⟨0, 4⟩, ⟨0, 5⟩⟩, ⟨recipe, ⟨⟨0, 4⟩, ⟨0, 5⟩⟩⟩⟩

def region : Region := ⟨recipe, .bash, ⟨⟨0, 0⟩, ⟨0, 5⟩⟩⟩

/-- The variable is defined, so only the first of the two findings is shown. -/
def findings : List Finding :=
  [finding 5 "SC2086" "Double quote.", finding 5 "SC2154" "A is referenced but not assigned."]

def wholeDocument : GeneratedDocument :=
  ⟨recipe, .bash, script, ⟨[some 0, some 1, some 2, some 3, some 4]⟩, some "cp $A"⟩

def snapshot : Snapshot where
  openDocuments := .ofList [(recipe, "cp $A")]
  documents := [wholeDocument]
  findings := .ofList [(script, findings)]
  definitions := [symbol]
  regions := [region]

def editor : Client where
  definitions u p :=
    .ok (if symbol.uri = u ∧ symbol.range.Contains p then symbol.target.toJson else .null)
  languageAt u p :=
    .ok (if region.uri = u ∧ region.range.Contains p then region.language.toJson else .null)

theorem answersFor_editor : editor.AnswersFor snapshot where
  definitions u p := by
    by_cases h : symbol.uri = u ∧ symbol.range.Contains p
    · simp only [editor, snapshot, List.filter, h]
      rfl
    · simp only [editor, snapshot, List.filter, h, decide_false, if_neg, not_false_eq_true]
      rfl
  languageAt u p := by
    by_cases h : region.uri = u ∧ region.range.Contains p
    · simp only [editor, snapshot, List.find?, h]
      rfl
    · simp only [editor, snapshot, List.find?, h, decide_false, if_neg, not_false_eq_true]
      rfl

def beginParams : Json := .object [("capabilities", .object [])]

def openParams : Json := .object [("textDocument", .object [("uri", recipe.toJson),
  ("languageId", .string "bitbake"), ("version", .integer 1), ("text", .string "cp $A")])]

def documentParams : Json := .object [("originalUri", recipe.toJson), ("kind", Language.bash.toJson),
  ("uri", script.toJson), ("characterIndexes", wholeDocument.origins.toJson),
  ("content", .string "cp $A")]

def findingsParams : Json :=
  .object [("uri", script.toJson), ("diagnostics", .array (findings.map Finding.toJson))]

def conversation : List Event := [
  .message ⟨"textDocument/didOpen", some openParams, false⟩, .advance 200,
  .message ⟨"bitbake/embeddedDocument", some documentParams, false⟩,
  .message ⟨"bitbake/embeddedDiagnostics", some findingsParams, false⟩]

def edits : List Edit := [.setText recipe "cp $A", .register wholeDocument]

theorem conveys_conversation :
    Conveys conversation (edits ++ [(script, findings)].map fun r => .setFindings r.1 r.2) :=
  .opens rfl (.wait 200 (.registers rfl (.reports rfl .nil)))

theorem gatheredBy_edits : snapshot.GatheredBy edits where
  gathering := by simp [edits]
  opens u text := by
    simp only [snapshot, edits, Table.ofList, List.foldl_cons, List.foldl_nil, Table.get?_insert]
    by_cases h : u = recipe <;> simp [h, eq_comm]
  registers := rfl

end Sample

open Sample Reconciler.Sample in
theorem session_agrees_with_review_of_script :
    ((start.run noFiles
      (.client editor :: .message ⟨"initialize", some beginParams, true⟩ :: conversation)).run
        noFiles [.advance 150]).ShowsLike
      (snapshot.reconciler.review (snapshot.surroundings noFiles)).1 ∧
    ((snapshot.reconciler.review (snapshot.surroundings noFiles)).1.channels.merged
      recipe).map Diagnostic.code = [some (.text "SC2086")] := by
  have hnames : ∀ d ∈ snapshot.documents, Language.ofUri? d.uri = some d.language := by decide
  have hreports : ∀ u fs, (u, fs) ∈ [(script, findings)] ↔ snapshot.findings.get? u = some fs := by
    intro u fs
    simp only [snapshot, Table.ofList, List.foldl_cons, List.foldl_nil, Table.get?_insert]
    by_cases h : u = script <;> simp [h, eq_comm]
  have hagrees := session_agrees_with_review snapshot noFiles editor hnames
    answersFor_editor (j := beginParams) rfl (fun _ h => by cases h) conveys_conversation
    gatheredBy_edits hreports
  exact ⟨(hagrees.2 150 (Nat.le_refl _)).2, by decide +kernel⟩

end Server
end RecipeDiag
