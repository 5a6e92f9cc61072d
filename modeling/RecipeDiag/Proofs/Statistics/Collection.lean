import Mathlib.Data.List.Induction
import RecipeDiag.Proofs.Table
import RecipeDiag.Statistics.Basic

/-!
# What the statistics hold

Of the calls on the statistics those are collected that hand something in while collection is on and
behind which nothing starts anew (`collected`). The statistics hold what these handed in and nothing
else (`holds_performAll`), whatever else was called in between.
-/

namespace RecipeDiag.Statistics

inductive Call where
  | setEnabled (enabled : Bool)
  | record (operation : String) (nanos : Nat)
  | increment (name : String) (amount : UInt64)
  | reset
  deriving DecidableEq, Repr

namespace Call

/-- Whether the call hands in something to collect. -/
def handsIn : Call → Bool
  | record .. => true
  | increment .. => true
  | setEnabled _ => false
  | reset => false

/-- Whether the call forgets what was collected before. -/
def startsAnew : Call → Bool
  | setEnabled enabled => enabled
  | reset => true
  | record .. => false
  | increment .. => false

/-- Whether collection is on after the call, from whether it was on before. -/
def isOnAfter (on : Bool) : Call → Bool
  | setEnabled enabled => enabled
  | _ => on

/-- The amount that the call adds to a counter, if it is about it. -/
def amount? (name : String) : Call → Option UInt64
  | increment name' amount => if name' = name then some amount else none
  | _ => none

/-- The duration that the call records for an operation, if it is about it. -/
def duration? (operation : String) : Call → Option Nat
  | record operation' nanos => if operation' = operation then some nanos else none
  | _ => none

end Call

def perform (s : Statistics) : Call → Statistics
  | .setEnabled enabled => s.setEnabled enabled
  | .record operation nanos => s.record operation nanos
  | .increment name amount => s.increment name amount
  | .reset => s.reset

/-- The statistics after some calls. -/
def performAll (calls : List Call) : Statistics := calls.foldl perform empty

/-- The calls that are collected, from whether collection is on before them. -/
def collected (on : Bool) : List Call → List Call
  | [] => []
  | c :: cs =>
    (if on && c.handsIn && !cs.any Call.startsAnew then [c] else []) ++ collected (c.isOnAfter on) cs

/-- The amounts that calls add to a counter. -/
def amounts (name : String) (calls : List Call) : List UInt64 := calls.filterMap (Call.amount? name)

/-- Their sum. -/
def total (name : String) (calls : List Call) : Nat :=
  (amounts name calls).foldl (fun n amount => n + amount.toNat) 0

/-- The durations that calls record for an operation. -/
def durationsOf (operation : String) (calls : List Call) : List Nat :=
  calls.filterMap (Call.duration? operation)

variable {s : Statistics} {c : Call} {cs : List Call} {on : Bool} {name operation : String}

/-! ### One call more -/

theorem amounts_concat : amounts name (cs ++ [c]) = amounts name cs ++ (c.amount? name).toList := by
  rw [amounts, List.filterMap_append, List.filterMap_cons]
  cases c.amount? name <;> rfl

theorem durationsOf_concat :
    durationsOf operation (cs ++ [c]) = durationsOf operation cs ++ (c.duration? operation).toList := by
  rw [durationsOf, List.filterMap_append, List.filterMap_cons]
  cases c.duration? operation <;> rfl

theorem total_concat (amount : UInt64) :
    total name (cs ++ [.increment name amount]) = total name cs + amount.toNat := by
  rw [total, amounts_concat, List.foldl_append, Call.amount?, if_pos rfl]
  rfl

theorem total_concat_of_amount?_eq_none (h : c.amount? name = none) : total name (cs ++ [c]) = total name cs := by
  rw [total, amounts_concat, h, Option.toList_none, List.append_nil, total]

theorem collected_concat_of_startsAnew (h : c.startsAnew) : collected on (cs ++ [c]) = [] := by
  induction cs generalizing on with
  | nil => cases c <;> simp_all [collected, Call.startsAnew, Call.handsIn]
  | cons d ds ih => simp [collected, ih, h]

theorem collected_concat (h : c.startsAnew = false) : collected on (cs ++ [c]) =
    collected on cs ++ if cs.foldl Call.isOnAfter on && c.handsIn then [c] else [] := by
  induction cs generalizing on with
  | nil => simp [collected]
  | cons d ds ih =>
    have hany : (ds ++ [c]).any Call.startsAnew = ds.any Call.startsAnew := by simp [h]
    rw [List.cons_append, collected, ih, hany, collected, List.append_assoc, List.foldl_cons]

theorem enabled_perform : (s.perform c).enabled = c.isOnAfter s.enabled := by
  cases c with
  | setEnabled enabled => cases enabled <;> rfl
  | record operation nanos => exact enabled_record
  | increment name amount => exact enabled_increment
  | reset => rfl

theorem enabled_foldl_perform (s : Statistics) (cs : List Call) :
    (cs.foldl perform s).enabled = cs.foldl Call.isOnAfter s.enabled := by
  induction cs generalizing s with
  | nil => rfl
  | cons c cs ih => rw [List.foldl_cons, ih, enabled_perform, List.foldl_cons]

theorem perform_of_disabled (h : s.enabled = false) (hc : c.handsIn) : s.perform c = s := by
  cases c with
  | record operation nanos => simp [perform, record, h]
  | increment name amount => simp [perform, increment, h]
  | setEnabled enabled => cases hc
  | reset => cases hc

/-! ### What was handed in -/

/-- The statistics hold what the calls hand in: every counter the sum of its amounts, every operation its
durations in order, and both are there only if a call is about them. -/
structure Holds (s : Statistics) (cs : List Call) : Prop where
  counter : ∀ name, (s.counter name).toNat = total name cs % UInt64.size
  durations : ∀ operation, s.durations operation = durationsOf operation cs
  mem_counters : ∀ name, name ∈ s.counters.keys ↔ amounts name cs ≠ []
  mem_timings : ∀ operation, operation ∈ s.timings.keys ↔ durationsOf operation cs ≠ []
  nodup_counters : s.counters.keys.Nodup
  nodup_timings : s.timings.keys.Nodup

namespace Holds

theorem of_reset (s : Statistics) : s.reset.Holds [] where
  counter _ := rfl
  durations _ := rfl
  mem_counters _ := by simp [reset, Table.keys, Table.empty, amounts]
  mem_timings _ := by simp [reset, Table.keys, Table.empty, durationsOf]
  nodup_counters := List.nodup_nil
  nodup_timings := List.nodup_nil

/-- Whether collection is on does not matter. -/
theorem withEnabled (h : s.Holds cs) (on : Bool) : Holds { s with enabled := on } cs :=
  ⟨h.counter, h.durations, h.mem_counters, h.mem_timings, h.nodup_counters, h.nodup_timings⟩

theorem increment (h : s.Holds cs) (hon : s.enabled) (name : String) (amount : UInt64) :
    (s.increment name amount).Holds (cs ++ [.increment name amount]) where
  counter name' := by
    rw [counter_increment hon]
    split
    · next hn =>
      rw [hn, UInt64.toNat_add, h.counter, total_concat]
      exact Nat.mod_add_mod ..
    · next hn =>
      have hother : (Call.increment name amount).amount? name' = none := if_neg (Ne.symm hn)
      rw [h.counter, total_concat_of_amount?_eq_none hother]
  durations operation := by
    rw [durations_increment, h.durations, durationsOf_concat]
    exact (List.append_nil _).symm
  mem_counters name' := by
    rw [Statistics.increment, if_pos hon, Table.mem_keys_insert, h.mem_counters, amounts_concat, Call.amount?]
    by_cases hn : name' = name
    · simp [hn]
    · simp [hn, Ne.symm hn]
  mem_timings operation := by
    rw [Statistics.increment, if_pos hon, h.mem_timings, durationsOf_concat]
    simp [Call.duration?]
  nodup_counters := by
    rw [Statistics.increment, if_pos hon]
    exact Table.nodup_keys_insert h.nodup_counters ..
  nodup_timings := by
    rw [Statistics.increment, if_pos hon]
    exact h.nodup_timings

theorem record (h : s.Holds cs) (hon : s.enabled) (operation : String) (nanos : Nat) :
    (s.record operation nanos).Holds (cs ++ [.record operation nanos]) where
  counter name := by rw [counter_record, h.counter, total_concat_of_amount?_eq_none rfl]
  durations operation' := by
    rw [durations_record hon, durationsOf_concat, Call.duration?]
    by_cases ho : operation' = operation
    · rw [if_pos ho, if_pos ho.symm, h.durations, ho]
      rfl
    · rw [if_neg ho, if_neg (Ne.symm ho), h.durations]
      exact (List.append_nil _).symm
  mem_counters name := by
    rw [Statistics.record, if_pos hon, h.mem_counters, amounts_concat]
    simp [Call.amount?]
  mem_timings operation' := by
    rw [Statistics.record, if_pos hon, Table.mem_keys_insert, h.mem_timings, durationsOf_concat, Call.duration?]
    by_cases ho : operation' = operation
    · simp [ho]
    · simp [ho, Ne.symm ho]
  nodup_counters := by
    rw [Statistics.record, if_pos hon]
    exact h.nodup_counters
  nodup_timings := by
    rw [Statistics.record, if_pos hon]
    exact Table.nodup_keys_insert h.nodup_timings ..

theorem perform (h : s.Holds cs) (hon : s.enabled) (hc : c.handsIn) : (s.perform c).Holds (cs ++ [c]) := by
  cases c with
  | record operation nanos => exact h.record hon operation nanos
  | increment name amount => exact h.increment hon name amount
  | setEnabled enabled => cases hc
  | reset => cases hc

/-- What hands in nothing, or is not collected, and does not start anew leaves everything as it is. -/
theorem perform_of_not (h : s.Holds cs) (hanew : c.startsAnew = false)
    (hnot : (s.enabled && c.handsIn) = false) : (s.perform c).Holds cs := by
  cases c with
  | setEnabled enabled =>
    cases hanew
    exact h.withEnabled false
  | reset => cases hanew
  | _ =>
    rw [perform_of_disabled (by simpa [Call.handsIn] using hnot) rfl]
    exact h

end Holds

theorem holds_perform_of_startsAnew (hanew : c.startsAnew) : (s.perform c).Holds [] := by
  cases c with
  | setEnabled enabled =>
    cases hanew
    exact (Holds.of_reset s).withEnabled true
  | reset => exact Holds.of_reset s
  | record operation nanos => cases hanew
  | increment name amount => cases hanew

theorem holds_performAll (calls : List Call) : (performAll calls).Holds (collected false calls) := by
  -- over the calls from the last one on, as what is collected depends on what comes behind
  induction calls using List.reverseRecOn with
  | nil => exact Holds.of_reset empty
  | append_singleton cs c ih =>
    have hstep : performAll (cs ++ [c]) = (performAll cs).perform c := by
      rw [performAll, List.foldl_append]
      rfl
    have hon : (performAll cs).enabled = cs.foldl Call.isOnAfter false := enabled_foldl_perform empty cs
    rw [hstep]
    cases hanew : c.startsAnew with
    | true =>
      rw [collected_concat_of_startsAnew hanew]
      exact holds_perform_of_startsAnew hanew
    | false =>
      rw [collected_concat hanew, ← hon]
      cases hkept : (performAll cs).enabled && c.handsIn with
      | true =>
        rw [Bool.and_eq_true] at hkept
        exact ih.perform hkept.1 hkept.2
      | false =>
        rw [if_neg Bool.false_ne_true, List.append_nil]
        exact ih.perform_of_not hanew hkept

end RecipeDiag.Statistics
