import Tollgate.Proofs.Calls
import Tollgate.Proofs.Rejected

/-!
# What is told of refreshes

An attempt to refresh is skipped, fails to read the store, or completes. A completed one
raises an alarm for each rejected row, in the order of its report, and counts the row under
its category; a failed one raises one alarm; a skipped one changes nothing. Each attempt
that ran is counted once under how it ended. In every run nothing else raises alarms or
touches these counters, so a run raises the alarms of its attempts one after the other, and
each counter grows by what they add.
-/

namespace Tollgate.Control

open Policy
open Store (StoreError)

-- ---------------------------------------------------------------------------
-- Counters

theorem Counters.value_raise (counters : Counters) (k l : Counter) :
    (counters.raise k).value l = counters.value l + if k = l then 1 else 0 := by
  induction counters with
  | nil =>
    rw [raise, value, lookup_cons_ite]
    by_cases same : k = l
    · simp [value, same]
    · simp [value, same, Ne.symm same]
  | cons entry rest ih =>
    obtain ⟨first, n⟩ := entry
    simp only [value] at ih
    rw [raise]
    split
    next here =>
      subst here
      simp only [value, lookup_cons_ite]
      by_cases same : first = l
      · simp [same]
      · simp [same, Ne.symm same]
    next other =>
      simp only [value, lookup_cons_ite]
      by_cases same : l = first
      · simp [same, Ne.symm other]
      · simp only [if_neg same, ih]

def Counter.isOfRequest : Counter → Bool
  | .refused .. => true
  | .mocked _ => true
  | _ => false

-- ---------------------------------------------------------------------------
-- Attempts

inductive Attempt where
  /-- Another cycle was in progress. -/
  | skipped
  | failed (e : StoreError)
  | completed (rows : List Row)

namespace Attempt

def ofFetch : Except StoreError (List Row) → Attempt
  | .ok rows => .completed rows
  | .error e => .failed e

def alarms : Attempt → List Alarm
  | .skipped => []
  | .failed e => [⟨.storeUnavailable, "store", e.message⟩]
  | .completed rows => (rejectedOf rows).map rowAlarm

def ending? : Attempt → Option CycleEnd
  | .skipped => none
  | .failed _ => some .storeError
  | .completed rows => some (if rejectedOf rows = [] then .ok else .incomplete)

def rejected : Attempt → List RejectedRow
  | .completed rows => rejectedOf rows
  | _ => []

def adds (a : Attempt) : Counter → Nat
  | .rejectedRow category => a.rejected.countP (·.row.category = category)
  | .alarm kind => a.alarms.countP (·.kind = kind)
  | .refreshed how => if a.ending? = some how then 1 else 0
  | .refreshDuration => if a.ending?.isSome then 1 else 0
  | .refused .. => 0
  | .mocked _ => 0

end Attempt

-- ---------------------------------------------------------------------------
-- Alarms raised and events counted

/-- A control plane before and after: alarms were raised, in this order, and each counter
grew. -/
structure Raised (alarms : List Alarm) (adds : Counter → Nat) (c d : Control) : Prop where
  notices : d.notices.map Notice.alarm = c.notices.map Notice.alarm ++ alarms
  history : d.center = alarms.foldl AlarmCenter.raise c.center
  counters : ∀ k, d.counters.value k = c.counters.value k + adds k

def rejectedAdds (rejected : List RejectedRow) : Counter → Nat
  | .rejectedRow category => rejected.countP (·.row.category = category)
  | .alarm kind => (rejected.map rowAlarm).countP (·.kind = kind)
  | _ => 0

namespace Raised

variable {alarms later : List Alarm} {adds more : Counter → Nat} {c d e : Control}

theorem refl (c : Control) : Raised [] (fun _ => 0) c c :=
  ⟨(List.append_nil _).symm, rfl, fun _ => rfl⟩

theorem trans (h : Raised alarms adds c d) (follows : Raised later more d e) :
    Raised (alarms ++ later) (fun k => adds k + more k) c e where
  notices := by rw [follows.notices, h.notices, List.append_assoc]
  history := by rw [follows.history, h.history, List.foldl_append]
  counters k := by rw [follows.counters, h.counters, Nat.add_assoc]

theorem congr (h : Raised alarms adds c d) (same : ∀ k, adds k = more k) :
    Raised alarms more c d :=
  ⟨h.notices, h.history, fun k => (same k) ▸ h.counters k⟩

theorem count (c : Control) (k : Counter) :
    Raised [] (fun l => if k = l then 1 else 0) c (c.count k) :=
  ⟨(List.append_nil _).symm, rfl, Counters.value_raise c.counters k⟩

theorem alarm (c : Control) (emails : Emails) (a : Alarm) :
    Raised [a] (fun l => if .alarm a.kind = l then 1 else 0) c (c.alarm emails a) :=
  ⟨List.map_append, rfl, Counters.value_raise c.counters _⟩

theorem foldl_reject (c : Control) (emails : Emails) (rejected : List RejectedRow) :
    Raised (rejected.map rowAlarm) (rejectedAdds rejected) c
      (rejected.foldl (reject emails) c) := by
  induction rejected generalizing c with
  | nil => exact (refl c).congr fun k => by cases k <;> rfl
  | cons r rest ih =>
    have first := (count c (.rejectedRow r.row.category)).trans (alarm _ emails (rowAlarm r))
    refine (first.trans (ih _)).congr fun k => ?_
    cases k <;> simp [rejectedAdds, List.countP_cons, Nat.add_comm]

/-- It does not matter where the rejected rows are split, nor who is told. -/
theorem foldl_reject_twice (c : Control) (before after : Emails) (early late : List RejectedRow) :
    Raised ((early ++ late).map rowAlarm) (rejectedAdds (early ++ late)) c
      (late.foldl (reject after) (early.foldl (reject before) c)) := by
  have both := (foldl_reject c before early).trans (foldl_reject _ after late)
  rw [← List.map_append] at both
  refine both.congr fun k => ?_
  cases k <;> simp [rejectedAdds]

theorem ended {alarms : List Alarm} {adds : Counter → Nat} {c d : Control}
    (h : Raised alarms adds c d) (how : CycleEnd) :
    Raised alarms
      (fun k => adds k + ((if .refreshed how = k then 1 else 0) +
        if .refreshDuration = k then 1 else 0))
      c ((d.count (.refreshed how)).count .refreshDuration) := by
  have counted := h.trans ((count d (.refreshed how)).trans (count _ .refreshDuration))
  rwa [List.append_nil, List.append_nil] at counted

end Raised

-- ---------------------------------------------------------------------------
-- One attempt

/-- What an attempt answers, and the control plane it leaves behind. -/
structure Accounted (a : Attempt) (c : Control) (result : Except RefreshError Report × Control) :
    Prop where
  answer : match a with
    | .skipped => result = (.error .inProgress, c)
    | .failed e => result.1 = .error (.store e)
    | .completed rows => ∃ report, result.1 = .ok report ∧ result.2.lastReport = some report ∧
        report.rejected = rejectedOf rows
  raised : Raised a.alarms a.adds c result.2

variable (c : Control) (now : Nat)

theorem cycleEnd_publish (rows : List Row) :
    cycleEnd (c.plane.publish now rows).report =
      if rejectedOf rows = [] then .ok else .incomplete := by
  rw [cycleEnd, Plane.publish_rejected]
  simp only [List.isEmpty_iff]

theorem accounted_completed (rows : List Row) :
    Accounted (.completed rows) c (c.endCycle now (.ok rows)) := by
  refine ⟨⟨_, rfl, rfl, Plane.publish_rejected ..⟩, ?_⟩
  have all : (c.plane.publish now rows).early ++ (c.plane.publish now rows).late =
      rejectedOf rows := Plane.publish_rejected ..
  have rejected := Raised.foldl_reject_twice c c.plane.emails
    (c.plane.publish now rows).plane.emails (c.plane.publish now rows).early
    (c.plane.publish now rows).late
  rw [all] at rejected
  have ended := rejected.ended (cycleEnd (c.plane.publish now rows).report)
  have counted : Raised _ (Attempt.completed rows).adds c _ := ended.congr fun k => by
    cases k <;> simp [rejectedAdds, Attempt.adds, Attempt.alarms, Attempt.rejected,
      Attempt.ending?, cycleEnd_publish]
  exact ⟨counted.notices, counted.history, counted.counters⟩

theorem accounted_failed (e : StoreError) :
    Accounted (.failed e) c (c.endCycle now (.error e)) := by
  refine ⟨rfl, ?_⟩
  have ended := (Raised.alarm c c.plane.emails ⟨.storeUnavailable, "store", e.message⟩).ended
    .storeError
  have counted : Raised _ (Attempt.failed e).adds c _ := ended.congr fun k => by
    cases k <;> simp [Attempt.adds, Attempt.alarms, Attempt.rejected, Attempt.ending?,
      List.countP_singleton]
  exact ⟨counted.notices, counted.history, counted.counters⟩

theorem accounted_endCycle (fetched : Except StoreError (List Row)) :
    Accounted (.ofFetch fetched) c (c.endCycle now fetched) := by
  cases fetched with
  | ok rows => exact accounted_completed c now rows
  | error e => exact accounted_failed c now e

theorem accounted_skipped : Accounted .skipped c (.error .inProgress, c) :=
  ⟨rfl, (Raised.refl c).congr fun k => by cases k <;> rfl⟩

def attemptsAt (c : Control) : Step → List Attempt
  | .beginCycle => if c.running then [.skipped] else []
  | .endCycle _ fetched => if c.running then [.ofFetch fetched] else []
  | _ => []

def attempts (c : Control) : List Step → List Attempt
  | [] => []
  | s :: rest => c.attemptsAt s ++ (c.step s).attempts rest

def added : List Attempt → Counter → Nat
  | [], _ => 0
  | a :: rest, k => a.adds k + added rest k

theorem added_append (before after : List Attempt) (k : Counter) :
    added (before ++ after) k = added before k + added after k := by
  induction before with
  | nil => exact (Nat.zero_add _).symm
  | cons a rest ih => rw [List.cons_append, added, added, ih, Nat.add_assoc]

/-- Between two states of a run, the alarms of the attempts were raised one after the other,
and every counter that is not of requests grew by what they add. -/
structure Tallied (attempts : List Attempt) (c d : Control) : Prop where
  notices : d.notices.map Notice.alarm =
    c.notices.map Notice.alarm ++ attempts.flatMap Attempt.alarms
  history : d.center = (attempts.flatMap Attempt.alarms).foldl AlarmCenter.raise c.center
  counters : ∀ k : Counter, k.isOfRequest = false →
    d.counters.value k = c.counters.value k + added attempts k

namespace Tallied

variable {a : Attempt} {before after : List Attempt} {c d e : Control}

theorem aside (notices : d.notices = c.notices) (center : d.center = c.center)
    (counters : ∀ k : Counter, k.isOfRequest = false → d.counters.value k = c.counters.value k) :
    Tallied [] c d where
  notices := by rw [notices]; exact (List.append_nil _).symm
  history := center
  counters := counters

theorem refl (c : Control) : Tallied [] c c :=
  aside rfl rfl fun _ _ => rfl

theorem withPlane (c : Control) (p : Plane) : Tallied [] c (c.withPlane p) :=
  aside rfl rfl fun _ _ => rfl

theorem of_raised (h : Raised a.alarms a.adds c d) : Tallied [a] c d where
  notices := by rw [List.flatMap_singleton]; exact h.notices
  history := by rw [List.flatMap_singleton]; exact h.history
  counters k _ := h.counters k

theorem trans (h : Tallied before c d) (follows : Tallied after d e) :
    Tallied (before ++ after) c e where
  notices := by rw [follows.notices, h.notices, List.flatMap_append, List.append_assoc]
  history := by rw [follows.history, h.history, List.flatMap_append, List.foldl_append]
  counters k own := by
    rw [follows.counters k own, h.counters k own, added_append, Nat.add_assoc]

theorem count (c : Control) {k : Counter} (ofRequest : k.isOfRequest) : Tallied [] c (c.count k) := by
  refine aside rfl rfl fun l own => ?_
  have other : k ≠ l := by
    rintro rfl
    rw [ofRequest] at own
    cases own
  exact (Counters.value_raise _ _ _).trans (by rw [if_neg other, Nat.add_zero])

end Tallied

open Admission Http in
theorem tallied_judge (c : Control) (trustForwarded : Bool) (m : Mount) (r : Request) (now : Nat) :
    Tallied [] c (judge c trustForwarded m r now).2 := by
  simp only [judge]
  split
  next _ => exact .count c rfl
  next _ =>
    split
    next _ => exact .refl c
    next _ =>
      simp only [enterGate]
      split
      next _ => exact .withPlane c _
      next _ =>
        split
        next _ => exact (Tallied.withPlane c _).trans (.count _ rfl)
        next _ => exact .withPlane c _

theorem tallied_call (c : Control) (now : Nat) (call : Call) :
    Tallied [] c (c.call now call).2 := by
  cases call with
  | look _ => exact .refl c
  | arrive trustForwarded m r => exact tallied_judge c trustForwarded m r now
  | _ => exact .withPlane c _

theorem tallied_step (c : Control) (s : Step) : Tallied (c.attemptsAt s) c (c.step s) := by
  cases s with
  | call now call => exact tallied_call c now call
  | beginCycle =>
    rw [attemptsAt, step, beginCycle]
    cases c.running with
    | true => exact .of_raised (accounted_skipped c).raised
    | false => exact .aside rfl rfl fun _ _ => rfl
  | endCycle now fetched =>
    rw [attemptsAt, step]
    cases c.running with
    | true => exact .of_raised (accounted_endCycle c now fetched).raised
    | false => exact .refl c
  | cancelCycle => exact .aside rfl rfl fun _ _ => rfl
  | change p => exact .withPlane c _
  | limit limits => exact .withPlane c _

theorem tallied_run (c : Control) (steps : List Step) :
    Tallied (c.attempts steps) c (c.run steps) := by
  induction steps generalizing c with
  | nil => exact .refl c
  | cons s rest ih => exact (tallied_step c s).trans (ih (c.step s))

end Tollgate.Control
