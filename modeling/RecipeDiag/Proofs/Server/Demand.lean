import RecipeDiag.Proofs.Reconciler.Operation
import RecipeDiag.Proofs.Server.Run

/-!
# What messages ask for

The message and the stage of the session alone decide what the server is asked for (`Message.demand`),
and what it does then is `Server.meet` (`fst_receive`). What a demand does to the reconciler is a list of
operations (`meet_eq`). Findings are reported and recipes are opened by notifications alone
(`demand_eq_reportFindings_iff`, `demand_eq_openDocument_iff`).
-/

namespace RecipeDiag

/-- What a message can have the server do. -/
inductive Demand where
  | nothing
  | beginSession (settings : Option Json)
  | endSession
  | exit
  | greet
  | openDocument (recipe : Uri) (text : String)
  | setText (recipe : Uri) (text : String)
  | close (recipe : Uri)
  | register (document : GeneratedDocument)
  | removeDocuments (recipe : Uri)
  | reportFindings (generated : Uri) (findings : List Finding)
  | configure (settings : Json)
  | review
  | tellVersion
  | enableStatistics (enabled : Bool)
  | reportStatistics

namespace Demand

/-- What a notification asks for, unless its parameters are not as they should be. -/
def ofNotification? (method : Method) (params : Json) : Option Demand :=
  match method with
  | .initialized => (Params.nothing? params).map fun () => greet
  | .didOpen => (Params.opened? params).map fun (u, text) => openDocument u text
  | .didChange => (Params.changed? params).map fun (u, texts) => texts.getLast?.elim nothing (setText u)
  | .didClose => (Params.closed? params).map close
  | .didChangeConfiguration => (Params.settings? params).map configure
  | .embeddedDocument => (GeneratedDocument.ofJson? params).map register
  | .removeEmbeddedDocuments => (Params.removed? params).map removeDocuments
  | .embeddedDiagnostics => (Params.reported? params).map fun (u, fs) => reportFindings u fs
  | _ => none

def ofCommand (name : String) (arguments : List Json) : Demand :=
  match Command.ofName? name with
  | none => nothing
  | some .version => tellVersion
  | some .review => review
  | some .setDiagnostics =>
    (Server.firstFlag? arguments).elim nothing fun b => configure (.object [("enableDiagnostics", .bool b)])
  | some .enableStatistics => (Server.firstFlag? arguments).elim nothing enableStatistics
  | some .reportStatistics => reportStatistics

end Demand

/-- What a message asks for at a stage of the session. -/
def Message.demand (m : Message) (l : Lifecycle) : Demand :=
  if l = .exited then .nothing
  else match Method.ofName? m.method with
    | none => .nothing
    | some .beginSession =>
      if l = .uninitialized ∧ m.isRequest = true then
        (m.params.bind Params.initialization?).elim .nothing .beginSession
      else .nothing
    | some .endSession => if l = .initialized then .endSession else .nothing
    | some .exit => .exit
    | some .executeCommand =>
      if l = .initialized ∧ m.isRequest = true then
        (m.params.bind Params.command?).elim .nothing fun (name, arguments) => .ofCommand name arguments
      else .nothing
    | some method =>
      if l = .initialized ∧ m.isRequest = false then
        (m.params.bind (Demand.ofNotification? method)).getD .nothing
      else .nothing

namespace Server

/-- Does what is asked for. -/
def meet (s : Server) (host : Host) : Demand → Server
  | .nothing => s
  | .beginSession settings =>
    { s with reconciler := settings.elim s.reconciler s.reconciler.configure, lifecycle := .initialized }
  | .endSession => { s with lifecycle := .shutDown }
  | .exit => { s with lifecycle := .exited }
  | .greet => s.greet
  | .openDocument recipe text => s.openDocument recipe text
  | .setText recipe text => s.edit (.setText recipe text)
  | .close recipe => s.edit (.close recipe)
  | .register d => s.edit (.register d)
  | .removeDocuments recipe => s.edit (.removeDocuments recipe)
  | .reportFindings u fs => s.reportFindings u fs
  | .configure settings => s.configure host settings
  | .review => s.review host
  | .tellVersion => s.display ("BitBake diagnostics version: " ++ programVersion)
  | .enableStatistics b => s.enableStatistics b
  | .reportStatistics => s.log .info s.reconciler.statistics.report

section
variable {s : Server} {host : Host} {m : Message} {e : Event} {method : Method} {j : Json}

theorem notified?_eq : s.notified? host method j = (Demand.ofNotification? method j).map (s.meet host) := by
  cases method with
  | didChange =>
    simp only [notified?, Demand.ofNotification?, Option.map_map]
    cases Params.changed? j with
    | none => rfl
    | some change =>
      obtain ⟨u, texts⟩ := change
      simp only [Option.map_some, Function.comp_apply, changeDocument]
      cases texts.getLast? <;> rfl
  | _ => simp only [notified?, Demand.ofNotification?, Option.map_map, Option.map_none] <;> rfl

theorem fst_notify : (s.notify host method m).1 =
    s.meet host (if m.isRequest = false then (m.params.bind (Demand.ofNotification? method)).getD .nothing
      else .nothing) := by
  unfold notify
  cases m.isRequest with
  | true => rfl
  | false =>
    cases m.params with
    | none => rfl
    | some j =>
      show (s.notified? host method j).getD s = s.meet host ((Demand.ofNotification? method j).getD .nothing)
      rw [notified?_eq]
      cases Demand.ofNotification? method j <;> rfl

theorem fst_execute (name : String) (arguments : List Json) :
    (s.execute host name arguments).1 = s.meet host (.ofCommand name arguments) := by
  unfold execute Demand.ofCommand
  cases Command.ofName? name with
  | none => rfl
  | some c =>
    cases c with
    | setDiagnostics => dsimp only; cases firstFlag? arguments <;> rfl
    | enableStatistics => dsimp only; cases firstFlag? arguments <;> rfl
    | _ => rfl

theorem fst_beginSession : (s.beginSession m).1 = s.meet host
    (if s.lifecycle = .uninitialized ∧ m.isRequest = true then
      (m.params.bind Params.initialization?).elim .nothing .beginSession else .nothing) := by
  unfold beginSession
  cases hl : s.lifecycle with
  | uninitialized =>
    cases m.isRequest with
    | false => rfl
    | true =>
      cases m.params.bind Params.initialization? with
      | none => rfl
      | some options => cases options <;> rfl
  | _ => rfl

theorem fst_respond : (s.respond host .executeCommand m).1 = s.meet host
    (if m.isRequest = true then (m.params.bind Params.command?).elim .nothing fun (name, arguments) =>
      .ofCommand name arguments else .nothing) := by
  unfold respond
  cases m.isRequest with
  | false => rfl
  | true =>
    cases m.params.bind Params.command? with
    | none => rfl
    | some command => exact fst_execute command.1 command.2

theorem fst_receive : (s.receive host m).1 = s.meet host (m.demand s.lifecycle) := by
  unfold receive Message.demand
  by_cases hexit : s.lifecycle = .exited
  · rw [if_pos hexit, if_pos hexit]
    rfl
  rw [if_neg hexit, if_neg hexit]
  cases Method.ofName? m.method with
  | none => rfl
  | some method =>
    cases method with
    | beginSession => exact fst_beginSession
    | endSession =>
      by_cases hl : s.lifecycle = .initialized <;> simp [handle, endSession, hl, meet]
    | exit => rfl
    | executeCommand =>
      by_cases hl : s.lifecycle = .initialized
      · simp only [handle, Method.isAlwaysOpen, Method.isNotification, hl, true_and]
        exact fst_respond
      · simp [handle, Method.isAlwaysOpen, hl, meet]
    | cancelRequest =>
      have hnone : m.params.bind (Demand.ofNotification? .cancelRequest) = none := by
        cases m.params <;> rfl
      simp only [handle, Method.isAlwaysOpen, Method.isNotification, Bool.true_or, if_true, fst_notify, hnone,
        Option.getD_none, ite_self]
    | unansweredRequest params =>
      have hnone : m.params.bind (Demand.ofNotification? (.unansweredRequest params)) = none := by
        cases m.params <;> rfl
      simp only [hnone, Option.getD_none, ite_self]
      by_cases hl : s.lifecycle = .initialized
      · cases hm : m.isRequest <;> simp [handle, Method.isAlwaysOpen, Method.isNotification, hl, respond, hm, meet]
      · simp [handle, Method.isAlwaysOpen, hl, meet]
    | _ =>
      by_cases hl : s.lifecycle = .initialized
      · simp only [handle, Method.isAlwaysOpen, Method.isNotification, hl, decide_true, Bool.or_true,
          if_true, true_and]
        exact fst_notify
      · simp only [handle, Method.isAlwaysOpen, hl, decide_false, Bool.or_false, Bool.false_eq_true, if_false,
          false_and]
        rfl

/-! ### Steps -/

theorem fst_step_message : (s.step host (.message m)).1 = s.meet host (m.demand s.lifecycle) := by
  simp only [step, fst_receive]

/-! ### What meeting a demand does -/

theorem review_eq (s : Server) (host : Host) : ∃ ns, s.review host =
    { s with reconciler := (s.reconciler.review (s.surroundings host)).1, notices := ns } := by
  obtain ⟨ns, h⟩ := report_eq { s with reconciler := (s.reconciler.review (s.surroundings host)).1 }
    (s.reconciler.review (s.surroundings host)).2
  exact ⟨ns, h⟩

/-- The server when settings have been laid over the configuration, and nothing follows yet. -/
def laidOver (s : Server) (settings : Json) : Server :=
  ({ s with reconciler := s.reconciler.configure settings } : Server).log .info
    ("BitBake diagnostics configuration: " ++ configurationText (s.reconciler.configuration.apply settings))

theorem configure_eq_ite (s : Server) (host : Host) (settings : Json) : s.configure host settings =
    if s.reconciler.configuration.enabled && !(s.reconciler.configuration.apply settings).enabled then
      { s.laidOver settings with reconciler := (s.laidOver settings).reconciler.clear }
    else if s.reconciler.configuration ≠ s.reconciler.configuration.apply settings then
      (s.laidOver settings).review host
    else s.laidOver settings := rfl

/-- What follows when settings are laid over the configuration. -/
def consequences (s : Server) (host : Host) (settings : Json) : List Operation :=
  if s.reconciler.configuration.enabled && !(s.reconciler.configuration.apply settings).enabled then [.clear]
  else if s.reconciler.configuration ≠ s.reconciler.configuration.apply settings then
    [.review (s.surroundings host)]
  else []

theorem configure_eq (s : Server) (host : Host) (settings : Json) : ∃ ns, s.configure host settings =
    { s with
      reconciler := s.reconciler.performAll (.configure settings :: s.consequences host settings)
      notices := ns } := by
  rw [configure_eq_ite, consequences]
  split
  · exact ⟨_, rfl⟩
  split
  · exact review_eq (s.laidOver settings) host
  · exact ⟨_, rfl⟩

end
end Server

/-- What the editor reports with a demand. -/
def Demand.edit? : Demand → Option Edit
  | openDocument recipe text | setText recipe text => some (.setText recipe text)
  | close recipe => some (.close recipe)
  | register d => some (.register d)
  | removeDocuments recipe => some (.removeDocuments recipe)
  | reportFindings u fs => some (.setFindings u fs)
  | _ => none

/-- What a demand has done to the reconciler. -/
def Demand.operations (d : Demand) (s : Server) (host : Host) : List Operation :=
  match d with
  | .beginSession settings => settings.toList.map .configure
  | .configure settings => .configure settings :: s.consequences host settings
  | .review => [.review (s.surroundings host)]
  | d => d.edit?.toList.map .edit

theorem Demand.operations_of_edit? {d : Demand} {e : Edit} {s : Server} {host : Host}
    (h : d.edit? = some e) : d.operations s host = [.edit e] := by
  cases d <;> cases h <;> rfl

theorem Demand.not_edit_of_mem_operations {d : Demand} {s : Server} {host : Host} (h : d.edit? = none) :
    ∀ op ∈ d.operations s host, ∀ e, op ≠ .edit e := by
  intro op hop e he
  subst he
  cases d with
  | beginSession settings =>
    obtain ⟨j, -, hj⟩ := List.mem_map.1 hop
    cases hj
  | configure settings =>
    rcases List.mem_cons.1 hop with hop | hop
    · cases hop
    · unfold Server.consequences at hop
      split at hop
      · simp at hop
      · split at hop <;> simp at hop
  | review => simp [operations] at hop
  | _ => simp [operations, h] at hop

/-- What a demand makes of the stage of the session. -/
def Demand.lifecycle (d : Demand) (l : Lifecycle) : Lifecycle :=
  match d with
  | .beginSession _ => .initialized
  | .endSession => .shutDown
  | .exit => .exited
  | _ => l

namespace Server
variable {s : Server} {host : Host} {d : Demand}

/-- All that meeting a demand does. -/
theorem meet_eq (s : Server) (host : Host) (d : Demand) : ∃ st ns, s.meet host d =
    { s with
      lifecycle := d.lifecycle s.lifecycle
      reconciler := { s.reconciler.performAll (d.operations s host) with statistics := st }
      debounce := (s.meet host d).debounce
      notices := ns } := by
  cases d with
  | beginSession settings => cases settings <;> exact ⟨_, _, rfl⟩
  | openDocument recipe text =>
    have h : ∃ d, s.openDocument recipe text =
        { s with reconciler := s.reconciler.edit (.setText recipe text), debounce := d } := by
      refine openDocument_induction (P := fun s' => ∃ d, s' =
        { s with reconciler := s.reconciler.edit (.setText recipe text), debounce := d }) ⟨s.debounce, rfl⟩ ?_
      rintro s' u ⟨d, rfl⟩
      exact ⟨_, rfl⟩
    obtain ⟨d, h⟩ := h
    simp only [meet, h]
    exact ⟨_, _, rfl⟩
  | configure settings =>
    obtain ⟨ns, h⟩ := configure_eq s host settings
    simp only [meet, h]
    exact ⟨_, _, rfl⟩
  | review =>
    obtain ⟨ns, h⟩ := review_eq s host
    simp only [meet, h]
    exact ⟨_, _, rfl⟩
  | _ => exact ⟨_, _, rfl⟩

theorem clock_meet : (s.meet host d).clock = s.clock := by
  obtain ⟨st, ns, h⟩ := meet_eq s host d
  rw [h]

/-! ### Reports and openings -/

/-- The parameters of a notification that is acted on: one that the event is, in the middle of a session. -/
def notification? (s : Server) (method : String) : Event → Option Json
  | .message m =>
    if s.lifecycle = .initialized ∧ m.method = method ∧ m.isRequest = false then m.params else none
  | _ => none

/-- The findings that an event reports, and the document that they are about. -/
def report? (s : Server) (e : Event) : Option (Uri × List Finding) :=
  (s.notification? "bitbake/embeddedDiagnostics" e).bind Params.reported?

/-- The recipe that an event opens, and its text. -/
def opening? (s : Server) (e : Event) : Option (Uri × String) :=
  (s.notification? "textDocument/didOpen" e).bind Params.opened?

end Server

theorem Method.ofName?_cases {name : String} {method : Method} (h : ofName? name = some method) :
    (name, method) ∈ handled ∨ method = .ignoredNotification ∨ ∃ params, method = .unansweredRequest params := by
  rcases Option.or_eq_some_iff.1 h with h | ⟨-, h⟩
  · left
    obtain ⟨before, after, he, -⟩ := List.lookup_eq_some_iff.1 h
    rw [he]
    simp
  · right
    split at h
    · exact .inl (Option.some.inj h).symm
    · obtain ⟨params, -, h⟩ := Option.map_eq_some_iff.1 h
      exact .inr ⟨params, h.symm⟩

/-- A method that is handled under one name has no other name. -/
theorem Method.ofName?_eq_some_iff {name name' : String} {method : Method} (hname : ofName? name = some method)
    (hone : ∀ n, (n, method) ∈ handled → n = name) (hnotification : method ≠ .ignoredNotification)
    (hrequest : ∀ params, method ≠ .unansweredRequest params) :
    ofName? name' = some method ↔ name' = name := by
  constructor
  · intro h
    rcases ofName?_cases h with h | h | ⟨params, h⟩
    · exact hone name' h
    · exact absurd h hnotification
    · exact absurd h (hrequest params)
  · rintro rfl
    exact hname

theorem Method.ofName?_eq_embeddedDiagnostics_iff {name : String} :
    ofName? name = some .embeddedDiagnostics ↔ name = "bitbake/embeddedDiagnostics" :=
  ofName?_eq_some_iff rfl (by simp [handled]) (by simp) (by simp)

theorem Method.ofName?_eq_didOpen_iff {name : String} :
    ofName? name = some .didOpen ↔ name = "textDocument/didOpen" :=
  ofName?_eq_some_iff rfl (by simp [handled]) (by simp) (by simp)

namespace Demand
variable {method : Method} {j : Json} {u recipe : Uri} {fs : List Finding} {text : String}

theorem ofNotification?_didChange_cases {d : Demand} (h : ofNotification? .didChange j = some d) :
    d = .nothing ∨ ∃ u text, d = .setText u text := by
  obtain ⟨⟨u, texts⟩, -, hd⟩ := Option.map_eq_some_iff.1 h
  have hlast : texts.getLast?.elim nothing (setText u) = d := hd
  cases ht : texts.getLast? with
  | none =>
    rw [ht] at hlast
    exact .inl hlast.symm
  | some text =>
    rw [ht] at hlast
    exact .inr ⟨u, text, hlast.symm⟩

theorem ofNotification?_eq_reportFindings_iff : ofNotification? method j = some (.reportFindings u fs) ↔
    method = .embeddedDiagnostics ∧ Params.reported? j = some (u, fs) := by
  cases method with
  | didChange =>
    refine iff_of_false (fun h => ?_) (by simp)
    rcases ofNotification?_didChange_cases h with h | ⟨_, _, h⟩ <;> cases h
  | _ => simp [ofNotification?]

theorem ofNotification?_eq_openDocument_iff : ofNotification? method j = some (.openDocument recipe text) ↔
    method = .didOpen ∧ Params.opened? j = some (recipe, text) := by
  cases method with
  | didChange =>
    refine iff_of_false (fun h => ?_) (by simp)
    rcases ofNotification?_didChange_cases h with h | ⟨_, _, h⟩ <;> cases h
  | _ => simp [ofNotification?]

/-- No command reports findings or opens a recipe. -/
theorem ofCommand_ne (name : String) (arguments : List Json) :
    (∀ u fs, ofCommand name arguments ≠ .reportFindings u fs) ∧
      ∀ recipe text, ofCommand name arguments ≠ .openDocument recipe text := by
  unfold ofCommand
  cases Command.ofName? name with
  | none => simp
  | some c =>
    cases c with
    | setDiagnostics => cases Server.firstFlag? arguments <;> simp
    | enableStatistics => cases Server.firstFlag? arguments <;> simp
    | _ => simp

end Demand

/-- What only notifications ask for is asked for by a notification, in the middle of a session. -/
theorem Message.demand_eq_iff {m : Message} {l : Lifecycle} {d : Demand} (hnothing : d ≠ .nothing)
    (hbegin : ∀ settings, d ≠ .beginSession settings) (hend : d ≠ .endSession) (hexit : d ≠ .exit)
    (hcommand : ∀ name arguments, Demand.ofCommand name arguments ≠ d) : m.demand l = d ↔
      l = .initialized ∧ m.isRequest = false ∧ ∃ j, m.params = some j ∧
        (Method.ofName? m.method).bind (Demand.ofNotification? · j) = some d := by
  -- a message asks for nothing unless its case applies
  have hiff {p q : Prop} [Decidable p] {d' : Demand} (hd : d' = d ↔ q) :
      (if p then d' else .nothing) = d ↔ p ∧ q := by
    by_cases hp : p
    · rw [if_pos hp, hd, and_iff_right hp]
    · rw [if_neg hp]
      exact iff_of_false (Ne.symm hnothing) fun h => hp h.1
  have hgetD {o : Option Demand} : o.getD .nothing = d ↔ o = some d := by
    cases o <;> simp [Ne.symm hnothing]
  unfold Message.demand
  by_cases hl : l = .exited
  · subst hl
    simp [Ne.symm hnothing]
  rw [if_neg hl]
  cases Method.ofName? m.method with
  | none => simp [Ne.symm hnothing]
  | some method =>
    cases method with
    | beginSession =>
      have hno : (m.params.bind Params.initialization?).elim .nothing Demand.beginSession ≠ d := by
        cases m.params.bind Params.initialization? with
        | none => exact Ne.symm hnothing
        | some settings => exact Ne.symm (hbegin settings)
      simp [hiff (iff_of_false hno id), Demand.ofNotification?]
    | endSession => simp [hiff (iff_of_false (Ne.symm hend) id), Demand.ofNotification?]
    | exit => simp [Ne.symm hexit, Demand.ofNotification?]
    | executeCommand =>
      have hno : ((m.params.bind Params.command?).elim .nothing fun (name, arguments) =>
          Demand.ofCommand name arguments) ≠ d := by
        cases m.params.bind Params.command? with
        | none => exact Ne.symm hnothing
        | some command => exact hcommand command.1 command.2
      simp [hiff (iff_of_false hno id), Demand.ofNotification?]
    | _ => simp only [hiff hgetD, and_assoc, Option.bind_eq_some_iff, Option.bind_some]

namespace Server
variable {s : Server} {m : Message} {u recipe : Uri} {fs : List Finding} {text : String}

theorem notification?_message_eq_some_iff {method : String} {j : Json} :
    s.notification? method (.message m) = some j ↔
      s.lifecycle = .initialized ∧ m.isRequest = false ∧ m.params = some j ∧ m.method = method := by
  show (if s.lifecycle = .initialized ∧ m.method = method ∧ m.isRequest = false then m.params else none) =
    some j ↔ _
  rw [Option.ite_none_right_eq_some]
  constructor
  · rintro ⟨⟨hl, hm, hr⟩, hj⟩
    exact ⟨hl, hr, hj, hm⟩
  · rintro ⟨hl, hr, hj, hm⟩
    exact ⟨⟨hl, hm, hr⟩, hj⟩

theorem demand_eq_reportFindings_iff :
    m.demand s.lifecycle = .reportFindings u fs ↔ s.report? (.message m) = some (u, fs) := by
  rw [Message.demand_eq_iff (by simp) (by simp) (by simp) (by simp) fun name arguments =>
    (Demand.ofCommand_ne name arguments).1 u fs]
  simp only [report?, Option.bind_eq_some_iff, notification?_message_eq_some_iff,
    Demand.ofNotification?_eq_reportFindings_iff]
  constructor
  · rintro ⟨hl, hr, j, hj, method, hm, rfl, hfs⟩
    exact ⟨j, ⟨hl, hr, hj, Method.ofName?_eq_embeddedDiagnostics_iff.1 hm⟩, hfs⟩
  · rintro ⟨j, ⟨hl, hr, hj, hm⟩, hfs⟩
    exact ⟨hl, hr, j, hj, _, Method.ofName?_eq_embeddedDiagnostics_iff.2 hm, rfl, hfs⟩

theorem demand_eq_openDocument_iff :
    m.demand s.lifecycle = .openDocument recipe text ↔ s.opening? (.message m) = some (recipe, text) := by
  rw [Message.demand_eq_iff (by simp) (by simp) (by simp) (by simp) fun name arguments =>
    (Demand.ofCommand_ne name arguments).2 recipe text]
  simp only [opening?, Option.bind_eq_some_iff, notification?_message_eq_some_iff,
    Demand.ofNotification?_eq_openDocument_iff]
  constructor
  · rintro ⟨hl, hr, j, hj, method, hm, rfl, ho⟩
    exact ⟨j, ⟨hl, hr, hj, Method.ofName?_eq_didOpen_iff.1 hm⟩, ho⟩
  · rintro ⟨j, ⟨hl, hr, hj, hm⟩, ho⟩
    exact ⟨hl, hr, j, hj, _, Method.ofName?_eq_didOpen_iff.2 hm, rfl, ho⟩

end Server
end RecipeDiag
