import RecipeDiag.Proofs.Reconciler.Clearing
import RecipeDiag.Proofs.Server.Superseded

/-!
# Switching diagnostics off and on again

Switching off clears, and switching on reviews from nothing (`fst_step_off`, `fst_step_on`). So what was
shown before leaves no trace: servers that know the same come to the same entries
(`Toggles.entries_eq`). While diagnostics are off nothing is published at all (`published_run_of_staysOff`).
-/

namespace RecipeDiag

/-- The configuration is changed only in the middle of a session. -/
theorem Message.eq_initialized_of_demand {m : Message} {l : Lifecycle} {j : Json}
    (h : m.demand l = .configure j) : l = .initialized := by
  by_contra hl
  unfold Message.demand at h
  split at h
  · cases h
  split at h
  case h_2 =>
    split at h
    · cases hp : m.params.bind Params.initialization? <;> rw [hp] at h <;> cases h
    · cases h
  all_goals simp [hl] at h

/-! ### Messages that switch -/

theorem Configuration.apply_enableDiagnostics (c : Configuration) (enabled : Bool) :
    c.apply (.object [("enableDiagnostics", .bool enabled)]) = { c with enabled := enabled } := by
  cases enabled <;> rfl

namespace Message

/-- The message switches diagnostics on or off, and leaves the rest of the configuration alone. -/
def Switches (m : Message) (enabled : Bool) : Prop :=
  ∃ j, m.demand .initialized = .configure j ∧ ∀ c : Configuration, c.apply j = { c with enabled := enabled }

/-- The command that switches diagnostics. -/
def setDiagnostics (enabled : Bool) : Message :=
  ⟨"workspace/executeCommand", some (.object [("command", .string "bitbake.setDiagnostics"),
    ("arguments", .array [.bool enabled])]), true⟩

/-- The notification that a client changed its settings so that diagnostics are switched. -/
def changeSettings (enabled : Bool) : Message :=
  ⟨"workspace/didChangeConfiguration",
    some (.object [("settings", .object [("enableDiagnostics", .bool enabled)])]), false⟩

theorem switches_setDiagnostics (enabled : Bool) : (setDiagnostics enabled).Switches enabled :=
  ⟨.object [("enableDiagnostics", .bool enabled)], by cases enabled <;> rfl,
    fun c => c.apply_enableDiagnostics enabled⟩

theorem switches_changeSettings (enabled : Bool) : (changeSettings enabled).Switches enabled :=
  ⟨.object [("enableDiagnostics", .bool enabled)], by cases enabled <;> rfl,
    fun c => c.apply_enableDiagnostics enabled⟩

end Message

namespace Server

section
variable {s t : Server} {host host' : Host} {e : Event} {es : List Event} {m off on : Message}
  {c : Configuration} {d : Demand} {recipe : Uri} {milliseconds : Nat}

/-! ### What holds in every state -/

/-- The states that events lead to, whatever the machine is at each of them. -/
inductive Reachable : Server → Prop
  | start : Reachable start
  | step {s : Server} (h : Reachable s) (host : Host) (e : Event) : Reachable (s.step host e).1

theorem kept_step (hk : s.debounce.Kept) : (s.step host e).1.debounce.Kept := by
  cases e with
  | message m =>
    rw [fst_step_message]
    exact kept_meet hk
  | client c => exact hk
  | advance milliseconds => exact kept_elapse hk milliseconds

namespace Reachable

theorem run (h : s.Reachable) (host : Host) (es : List Event) : (s.run host es).Reachable := by
  induction es generalizing s with
  | nil => exact h
  | cons e es ih => exact ih (h.step host e)

theorem kept (h : s.Reachable) : s.debounce.Kept := by
  induction h with
  | start => exact Debounce.kept_empty
  | step h host e ih => exact kept_step ih

theorem settled (h : s.Reachable) : s.reconciler.Settled recipe := by
  induction h with
  | start => exact Reconciler.settled_start _ _
  | step h host e ih =>
    obtain ⟨st, hstep⟩ := reconciler_step _ host e
    rw [hstep]
    exact (ih.performAll _).congr (fun _ => rfl) rfl

end Reachable

theorem client_elapse (s : Server) (host : Host) (milliseconds : Nat) :
    (s.elapse host milliseconds).client = s.client := by
  refine elapse_induction (P := fun s' => s'.client = s.client) (fun s' t hs' => ?_) (fun _ _ hs' => hs')
    rfl milliseconds
  obtain ⟨st, as, ns, hfire⟩ := fire_eq host s' t
  rw [hfire]
  exact hs'

/-- What the client answers changes only as the client does. -/
theorem client_step (h : ∀ c, e ≠ .client c) : (s.step host e).1.client = s.client := by
  cases e with
  | message m =>
    obtain ⟨st, ns, hmeet⟩ := meet_eq s host (m.demand s.lifecycle)
    rw [fst_step_message, hmeet]
  | client c => exact absurd rfl (h c)
  | advance milliseconds => exact client_elapse s host milliseconds

theorem client_run (h : ∀ c, .client c ∉ es) : (s.run host es).client = s.client := by
  induction es generalizing s with
  | nil => rfl
  | cons e es ih =>
    have hstep : (s.step host e).1.client = s.client := client_step fun c hc => h c (by simp [hc])
    exact (ih fun c hc => h c (List.mem_cons_of_mem e hc)).trans hstep

theorem client_run_cons {client : Client} (h : ∀ c, .client c ∉ es) :
    (s.run host (.client client :: es)).client = client := by
  rw [run_cons, client_run h]
  rfl

theorem quiet_of_no_entries (h : s.debounce.current.entries = []) : s.Quiet := fun u => by
  simp [Debounce.isPending, Table.get?, h]

/-- While no update is pending, time passes and nothing else happens. -/
theorem elapse_of_quiet (host : Host) (hk : s.debounce.Kept) (hq : s.Quiet) (milliseconds : Nat) :
    s.elapse host milliseconds = { s with clock := s.clock + milliseconds } := by
  have hagenda : s.agenda host (s.clock + milliseconds) = [] := by
    refine List.eq_nil_iff_forall_not_mem.2 fun t ht => ?_
    obtain ⟨ht, hw⟩ := (mem_agenda_iff.1 ht).1
    have hentry := hk.live t ht (by simp [DelayedTask.IsLive, hw])
    have hpending : s.debounce.isPending t.uri = true := Debounce.isPending_iff.2 ⟨t.entry, hentry⟩
    exact absurd hpending (by simp [hq t.uri])
  simp [elapse, hagenda]

/-! ### Switching -/

/-- The message lays settings over the configuration, which is `c` then. -/
def Configures (s : Server) (m : Message) (c : Configuration) : Prop :=
  ∃ j, m.demand s.lifecycle = .configure j ∧ s.reconciler.configuration.apply j = c

/-- Switching diagnostics off clears: no entry is left, and nothing but empty sets is published. -/
theorem fst_step_off (host : Host) (h : s.Configures m c)
    (hon : s.reconciler.configuration.enabled = true) (hoff : c.enabled = false) :
    ∃ ch ps ns, (s.step host (.message m)).1 = { s with
        reconciler := { s.reconciler with
          channels := ch
          configuration := c
          published := s.reconciler.published ++ ps }
        notices := ns } ∧
      (∀ p ∈ ps, p.diagnostics = []) ∧ ∀ l recipe, (ch.channel l).get? recipe = none := by
  obtain ⟨j, hj, rfl⟩ := h
  have hstep : (s.step host (.message m)).1 = s.configure host j := by
    rw [fst_step_message, hj]
    rfl
  have hconfigure : s.configure host j =
      { s.laidOver j with reconciler := (s.laidOver j).reconciler.clear } := by
    rw [configure_eq_ite, hon, hoff]
    rfl
  obtain ⟨ch, ps, hclear, hps, hnone⟩ := Reconciler.clear_eq (s.laidOver j).reconciler
  rw [hclear] at hconfigure
  exact ⟨ch, ps, _, hstep.trans hconfigure, hps, hnone⟩

/-- Switching diagnostics on reviews. -/
theorem fst_step_on (host : Host) (h : s.Configures m c)
    (hoff : s.reconciler.configuration.enabled = false) (hon : c.enabled = true) :
    ∃ ns, (s.step host (.message m)).1 = { s with
      reconciler := (({ s.reconciler with configuration := c } : Reconciler).review
        ⟨host, s.client.service⟩).1
      notices := ns } := by
  obtain ⟨j, hj, rfl⟩ := h
  have hl : s.lifecycle = .initialized := Message.eq_initialized_of_demand hj
  have hstep : (s.step host (.message m)).1 = s.configure host j := by
    rw [fst_step_message, hj]
    rfl
  have hchanged : s.reconciler.configuration ≠ s.reconciler.configuration.apply j := fun hsame =>
    absurd (hoff.symm.trans ((congrArg Configuration.enabled hsame).trans hon)) (by decide)
  have hconfigure : s.configure host j = (s.laidOver j).review host := by
    rw [configure_eq_ite, hoff, if_pos hchanged]
    rfl
  have hsurroundings : (s.laidOver j).surroundings host = ⟨host, s.client.service⟩ := by
    simp [surroundings, laidOver, log, hl, Lifecycle.isConnected]
  obtain ⟨ns, hreview⟩ := review_eq (s.laidOver j) host
  rw [hsurroundings] at hreview
  exact ⟨ns, hstep.trans (hconfigure.trans hreview)⟩

/-- The first message switches diagnostics off and the second on again. In the end the configuration is
`c`. -/
structure Toggles (s : Server) (host : Host) (off on : Message) (c : Configuration) : Prop where
  wasOn : s.reconciler.configuration.enabled = true
  switchesOff : ∃ c₀, s.Configures off c₀ ∧ c₀.enabled = false
  switchesOn : (s.step host (.message off)).1.Configures on c
  isOn : c.enabled = true

theorem Toggles.off_step (h : s.Toggles host off on c) :
    (s.step host (.message off)).1.reconciler.configuration.enabled = false := by
  obtain ⟨c₀, hoff, hc₀⟩ := h.switchesOff
  obtain ⟨ch, ps, ns, hs₁, -, -⟩ := fst_step_off host hoff h.wasOn hc₀
  rw [hs₁]
  exact hc₀

/-- Messages that only switch leave the configuration as it was before. -/
theorem toggles_of_switches (hl : s.lifecycle = .initialized)
    (hwas : s.reconciler.configuration.enabled = true) (hoff : off.Switches false)
    (hon : on.Switches true) : s.Toggles host off on s.reconciler.configuration := by
  obtain ⟨j, hj, happly⟩ := hoff
  obtain ⟨j', hj', happly'⟩ := hon
  have hswitch : s.Configures off { s.reconciler.configuration with enabled := false } :=
    ⟨j, hl ▸ hj, happly _⟩
  obtain ⟨ch, ps, ns, hs₁, -, -⟩ := fst_step_off host hswitch hwas rfl
  refine ⟨hwas, ⟨_, hswitch, rfl⟩, ⟨j', ?_, ?_⟩, hwas⟩
  · rw [hs₁]
    exact hl ▸ hj'
  · rw [hs₁, happly', ← hwas]

/-- All that switching off and, some time later, on does to the reconciler. -/
theorem Toggles.reconciler_eq (h : s.Toggles host off on c) (hk : s.debounce.Kept) (hq : s.Quiet)
    (milliseconds : Nat) :
    ∃ r : Reconciler, r.KnowsAlike s.reconciler ∧ r.configuration = c ∧
      (∀ l recipe, (r.channels.channel l).get? recipe = none) ∧
      r.published = (s.step host (.message off)).1.reconciler.published ∧
      (s.run host [.message off, .advance milliseconds, .message on]).reconciler =
        (r.review ⟨host, s.client.service⟩).1 := by
  obtain ⟨c₀, hoff, hc₀⟩ := h.switchesOff
  obtain ⟨ch, ps, ns, hs₁, -, hnone⟩ := fst_step_off host hoff h.wasOn hc₀
  have hdebounce : (s.step host (.message off)).1.debounce = s.debounce := by rw [hs₁]
  have hwait := elapse_of_quiet host (hdebounce ▸ hk) (fun u => hdebounce ▸ hq u) milliseconds
  have hon := h.switchesOn
  rw [hs₁] at hon
  refine ⟨{ s.reconciler with
    channels := ch
    configuration := c
    published := s.reconciler.published ++ ps }, ⟨fun _ => rfl, fun _ => rfl, fun _ => rfl, fun _ _ => rfl⟩,
    rfl, hnone, ?_, ?_⟩
  · rw [hs₁]
  · rw [run_cons, run_cons, run_cons, run_nil, fst_step_advance, hwait, hs₁]
    obtain ⟨ns', hs₂⟩ := fst_step_on (s := { s with
        reconciler := { s.reconciler with
          channels := ch
          configuration := c₀
          published := s.reconciler.published ++ ps }
        notices := ns
        clock := s.clock + milliseconds }) host hon hc₀ h.isOn
    rw [hs₂]

/-- What was shown before makes no difference: the entries are those of a review from nothing. -/
theorem Toggles.entries_eq (h : s.Toggles host off on c) (hk : s.debounce.Kept) (hq : s.Quiet)
    (milliseconds : Nat) {r : Reconciler} (hr : r.KnowsAlike s.reconciler) (hc : r.configuration = c)
    (hnone : ∀ l recipe, (r.channels.channel l).get? recipe = none) (l : Language) (recipe : Uri) :
    ((s.run host [.message off, .advance milliseconds, .message on]).reconciler.channels.channel l).get? recipe =
      ((r.review ⟨host, s.client.service⟩).1.channels.channel l).get? recipe := by
  obtain ⟨r', hr', hc', hnone', -, hrun⟩ := h.reconciler_eq hk hq milliseconds
  have hknow : r'.KnowsAlike r := hr'.trans hr.symm
  rw [hrun]
  refine hknow.entries_review (hc'.trans hc.symm) (fun l recipe => ?_) l recipe
  rw [hnone', hnone]

theorem Toggles.published_prefix (h : s.Toggles host off on c) (hk : s.debounce.Kept) (hq : s.Quiet)
    (milliseconds : Nat) : (s.step host (.message off)).1.reconciler.published <+:
      (s.run host [.message off, .advance milliseconds, .message on]).reconciler.published := by
  obtain ⟨r, -, -, -, hpublished, hrun⟩ := h.reconciler_eq hk hq milliseconds
  let surroundings : Surroundings := ⟨host, s.client.service⟩
  obtain ⟨ps, hps, -⟩ :=
    (Reconciler.renews_updateAll r surroundings (surroundings.reported r.workspace)).shown
  have hreview : (r.review ⟨host, s.client.service⟩).1.published = r.published ++ ps := hps
  rw [hrun, hreview, hpublished]
  exact List.prefix_append ..

/-! ### While diagnostics are off -/

/-- Diagnostics are off before each of the events and after them all. -/
def StaysOff (s : Server) (host : Host) : List Event → Prop
  | [] => s.reconciler.configuration.enabled = false
  | e :: es => s.reconciler.configuration.enabled = false ∧ StaysOff (s.step host e).1 host es

theorem StaysOff.enabled_eq (h : s.StaysOff host es) : s.reconciler.configuration.enabled = false := by
  cases es with
  | nil => exact h
  | cons e es => exact h.1

/-- The updates that come due do nothing. -/
theorem reconciler_elapse_of_off (h : s.reconciler.configuration.enabled = false) (milliseconds : Nat) :
    (s.elapse host milliseconds).reconciler = s.reconciler := by
  refine elapse_induction (P := fun s' => s'.reconciler = s.reconciler) (fun s' t hs' => ?_)
    (fun _ _ hs' => hs') rfl milliseconds
  rw [reconciler_fire, hs', Reconciler.update_of_disabled h]

theorem published_review_of_off (h : s.reconciler.configuration.enabled = false) :
    (s.review host).reconciler.published = s.reconciler.published := by
  obtain ⟨ns, hreview⟩ := review_eq s host
  rw [hreview, Reconciler.review_of_disabled h]

theorem published_meet_of_off (h : s.reconciler.configuration.enabled = false)
    (h' : (s.meet host d).reconciler.configuration.enabled = false) :
    (s.meet host d).reconciler.published = s.reconciler.published := by
  cases d with
  | beginSession settings => cases settings <;> rfl
  | openDocument recipe text =>
    exact openDocument_induction (P := fun s' => s'.reconciler.published = s.reconciler.published) rfl
      fun _ _ hs' => hs'
  | configure settings =>
    have hconfigure : s.meet host (.configure settings) =
        if s.reconciler.configuration ≠ s.reconciler.configuration.apply settings then
          (s.laidOver settings).review host
        else s.laidOver settings := by
      rw [meet, configure_eq_ite, h]
      rfl
    rw [hconfigure] at h' ⊢
    split at h'
    · next hchanged =>
      obtain ⟨ns, hreview⟩ := review_eq (s.laidOver settings) host
      have hlaid : (s.laidOver settings).reconciler.configuration.enabled = false := by
        rw [hreview] at h'
        exact (congrArg Configuration.enabled Reconciler.configuration_review).symm.trans h'
      rw [if_pos hchanged]
      exact published_review_of_off hlaid
    · next hsame =>
      rw [if_neg hsame]
      rfl
  | review => exact published_review_of_off h
  | _ => rfl

theorem published_step_of_off (h : s.reconciler.configuration.enabled = false)
    (h' : (s.step host e).1.reconciler.configuration.enabled = false) :
    (s.step host e).1.reconciler.published = s.reconciler.published := by
  cases e with
  | message m =>
    rw [fst_step_message] at h' ⊢
    exact published_meet_of_off h h'
  | client c => rfl
  | advance milliseconds =>
    rw [fst_step_advance, reconciler_elapse_of_off h]

theorem published_run_of_staysOff (h : s.StaysOff host es) :
    (s.run host es).reconciler.published = s.reconciler.published := by
  induction es generalizing s with
  | nil => rfl
  | cons e es ih => exact (ih h.2).trans (published_step_of_off h.1 h.2.enabled_eq)

theorem Toggles.published_while_off (h : s.Toggles host off on c)
    (hoff : (s.step host (.message off)).1.StaysOff host' es) : ∃ ps,
      ((s.step host (.message off)).1.run host' es).reconciler.published = s.reconciler.published ++ ps ∧
        ∀ p ∈ ps, p.diagnostics = [] := by
  obtain ⟨c₀, hswitch, hc₀⟩ := h.switchesOff
  obtain ⟨ch, ps, ns, hs₁, hps, -⟩ := fst_step_off host hswitch h.wasOn hc₀
  refine ⟨ps, ?_, hps⟩
  rw [published_run_of_staysOff hoff, hs₁]

end

/-! ### Off and on again -/

/-- Two servers know the same and have no update pending. In each of them messages switch diagnostics
off and, after any time, on again and leave the same configuration. Then both have the same entries, those of a review
from nothing. While diagnostics are off nothing but empty sets is published. In the end, the last set
published for a recipe that had an entry, or that anything was published for, is what the channels
hold. -/
theorem switching_leaves_nothing_stale (host : Host) {s t : Server} (hs : s.Reachable)
    (ht : t.Reachable) (hq : s.Quiet) (hq' : t.Quiet) (hknow : s.reconciler.KnowsAlike t.reconciler)
    (hclient : s.client.service = t.client.service) {off on off' on' : Message} {c : Configuration}
    (h : s.Toggles host off on c) (h' : t.Toggles host off' on' c) (milliseconds milliseconds' : Nat) :
    let s₁ := (s.step host (.message off)).1
    let s₂ := s.run host [.message off, .advance milliseconds, .message on]
    let t₂ := t.run host [.message off', .advance milliseconds', .message on']
    let fresh : Reconciler := { s.reconciler with channels := .empty, configuration := c }
    (∀ l recipe,
      (s₂.reconciler.channels.channel l).get? recipe = (t₂.reconciler.channels.channel l).get? recipe ∧
      (s₂.reconciler.channels.channel l).get? recipe =
        ((fresh.review ⟨host, s.client.service⟩).1.channels.channel l).get? recipe) ∧
    (∀ host' between, s₁.StaysOff host' between → ∃ ps,
      (s₁.run host' between).reconciler.published = s.reconciler.published ++ ps ∧
        ∀ p ∈ ps, p.diagnostics = []) ∧
    ∀ recipe, ((∃ l, (s.reconciler.channels.channel l).get? recipe ≠ none) ∨
        ∃ p ∈ s₂.reconciler.published, p.recipe = recipe) →
      s₂.reconciler.lastPublished? recipe = some (s₂.reconciler.channels.merged recipe) := by
  intro s₁ s₂ t₂ fresh
  have hempty : ∀ l recipe, (fresh.channels.channel l).get? recipe = none := fun _ _ =>
    Channels.get?_channel_empty
  have hfresh : fresh.KnowsAlike s.reconciler := ⟨fun _ => rfl, fun _ => rfl, fun _ => rfl, fun _ _ => rfl⟩
  refine ⟨fun l recipe => ?_, fun host' between hoff => h.published_while_off hoff,
    fun recipe hrecipe => ?_⟩
  · have hs₂ := h.entries_eq hs.kept hq milliseconds hfresh rfl hempty l recipe
    have ht₂ := h'.entries_eq ht.kept hq' milliseconds' (hfresh.trans hknow) rfl hempty l recipe
    rw [← hclient] at ht₂
    exact ⟨hs₂.trans ht₂.symm, hs₂⟩
  · have hsettled : s₂.reconciler.Settled recipe := (hs.run host _).settled
    rcases hrecipe with ⟨l, hentry⟩ | ⟨p, hp, hr⟩
    · -- what had an entry was published before diagnostics were switched off
      obtain ⟨p, hp, hr⟩ := hs.settled.exists_mem_of_entry hentry
      have hoff : s₁.StaysOff host [] := h.off_step
      obtain ⟨ps, hps, -⟩ := h.published_while_off hoff
      have hp₁ : p ∈ s₁.reconciler.published := by
        have hmem : p ∈ s.reconciler.published ++ ps := List.mem_append_left _ hp
        rwa [← hps] at hmem
      exact hsettled.lastPublished?_of_mem ((h.published_prefix hs.kept hq milliseconds).subset hp₁) hr
    · exact hsettled.lastPublished?_of_mem hp hr

namespace Sample
open Reconciler.Sample

def closeParams : Json := .object [("textDocument", .object [("uri", recipe.toJson)])]

/-- A finding is shown for a recipe, and then the recipe is closed. -/
def shownAndClosed : Server := start.run noFiles (beginning ++
  [reportOf findingsParams, .advance 200, .message ⟨"textDocument/didClose", some closeParams, false⟩])

/-- The recipe was never open. -/
def neverOpened : Server := start.run noFiles [.client editor,
  .message ⟨"initialize", some beginParams, true⟩,
  .message ⟨"bitbake/embeddedDocument", some documentParams, false⟩, reportOf findingsParams, .advance 200]

end Sample

open Sample Reconciler.Sample in
theorem switching_leaves_nothing_stale_of_closed :
    let s₂ := shownAndClosed.run noFiles
      [.message (.setDiagnostics false), .advance 10, .message (.setDiagnostics true)]
    let t₂ := neverOpened.run noFiles
      [.message (.changeSettings false), .advance 200, .message (.changeSettings true)]
    shownAndClosed.reconciler.lastPublished? recipe ≠ some [] ∧
      neverOpened.reconciler.lastPublished? recipe = none ∧
      (∀ l u, (s₂.reconciler.channels.channel l).get? u = (t₂.reconciler.channels.channel l).get? u) ∧
      s₂.reconciler.lastPublished? recipe = some [] := by
  intro s₂ t₂
  have hs : shownAndClosed.Reachable := Reachable.start.run _ _
  have ht : neverOpened.Reachable := Reachable.start.run _ _
  obtain ⟨hentries, hlifecycle, henabled, hentry, hshown⟩ :
      shownAndClosed.debounce.current.entries = [] ∧ shownAndClosed.lifecycle = .initialized ∧
      shownAndClosed.reconciler.configuration.enabled = true ∧
      (shownAndClosed.reconciler.channels.channel .bash).get? recipe ≠ none ∧
      shownAndClosed.reconciler.lastPublished? recipe ≠ some [] := by decide +kernel
  obtain ⟨hentries', hlifecycle', henabled', hshown'⟩ :
      neverOpened.debounce.current.entries = [] ∧ neverOpened.lifecycle = .initialized ∧
      neverOpened.reconciler.configuration.enabled = true ∧
      neverOpened.reconciler.lastPublished? recipe = none := by decide +kernel
  obtain ⟨htexts, hfindings, hregistry, hconfiguration⟩ :
      shownAndClosed.reconciler.workspace.openDocuments = neverOpened.reconciler.workspace.openDocuments ∧
      shownAndClosed.reconciler.workspace.findings = neverOpened.reconciler.workspace.findings ∧
      shownAndClosed.reconciler.registry = neverOpened.reconciler.registry ∧
      shownAndClosed.reconciler.configuration = neverOpened.reconciler.configuration := by decide +kernel
  have hknow : shownAndClosed.reconciler.KnowsAlike neverOpened.reconciler :=
    ⟨fun _ => by rw [htexts], fun _ => by rw [Workspace.findingsOf, hfindings, Workspace.findingsOf],
      fun _ => by rw [hregistry], fun _ _ => by rw [hregistry]⟩
  have hclient : shownAndClosed.client = editor := client_run_cons (by simp [reportOf])
  have hclient' : neverOpened.client = editor := client_run_cons (by simp [reportOf])
  have hs : shownAndClosed.Reachable := Reachable.start.run _ _
  have ht : neverOpened.Reachable := Reachable.start.run _ _
  have hq : shownAndClosed.Quiet := quiet_of_no_entries hentries
  have hq' : neverOpened.Quiet := quiet_of_no_entries hentries'
  have h : shownAndClosed.Toggles noFiles (.setDiagnostics false) (.setDiagnostics true)
      shownAndClosed.reconciler.configuration :=
    toggles_of_switches hlifecycle henabled (Message.switches_setDiagnostics false)
      (Message.switches_setDiagnostics true)
  have h' : neverOpened.Toggles noFiles (.changeSettings false) (.changeSettings true)
      neverOpened.reconciler.configuration :=
    toggles_of_switches hlifecycle' henabled' (Message.switches_changeSettings false)
      (Message.switches_changeSettings true)
  obtain ⟨hsame, -, hlast⟩ := switching_leaves_nothing_stale noFiles hs ht hq hq' hknow
    (by rw [hclient, hclient']) h (hconfiguration ▸ h') 10 200
  have hmerged : s₂.reconciler.channels.merged recipe = [] := by decide +kernel
  refine ⟨hshown, hshown', fun l u => (hsame l u).1, ?_⟩
  exact (hlast recipe (.inl ⟨.bash, hentry⟩)).trans (congrArg some hmerged)

end Server
end RecipeDiag
