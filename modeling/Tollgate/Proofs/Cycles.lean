import Tollgate.Proofs.Publish
import Tollgate.Service.Schedule

/-!
# Overlapping refreshes

Timers, triggers and operators call for refreshes at any time. A call begins a cycle or is
skipped; a cycle waits for its fetch, and ends by applying what was fetched, or because its
caller gave up. Whatever the interleaving, the control plane counts as running exactly while
one cycle is under way, no second one begins meanwhile, and only cycles that published rows
leave anything behind.
-/

namespace Tollgate

open Control (Plane RefreshError Report)
open Policy (Row)
open Store (StoreError)

inductive Turn where
  /-- Its fetch is under way. -/
  | fetching
  /-- The store has answered; nothing is applied yet. -/
  | fetched (answer : Except StoreError (List Row))
  | returned (result : Except RefreshError Report)
  /-- The caller gave up before the end. -/
  | dropped
  deriving Repr

def Turn.isUnderWay : Turn → Bool
  | .fetching => true
  | .fetched _ => true
  | _ => false

/-- A control plane with all calls for its refresh, in the order in which they were made. -/
structure Cycles where
  control : Control
  turns : List Turn
  deriving Repr

namespace Cycles

inductive Event where
  | call
  | answer (i : Nat) (fetched : Except StoreError (List Row))
  /-- What was fetched is applied at a clock reading. -/
  | finish (i : Nat) (now : Nat)
  | drop (i : Nat)
  /-- Requests, admissions and direct changes turn the control plane into this one. -/
  | meanwhile (control : Control)
  deriving Repr

def call (t : Cycles) : Cycles :=
  match t.control.beginCycle with
  | none => { t with turns := t.turns ++ [.returned (.error .inProgress)] }
  | some control => ⟨control, t.turns ++ [.fetching]⟩

def answer (t : Cycles) (i : Nat) (fetched : Except StoreError (List Row)) : Cycles :=
  match t.turns[i]? with
  | some .fetching => { t with turns := t.turns.set i (.fetched fetched) }
  | _ => t

def finish (t : Cycles) (i : Nat) (now : Nat) : Cycles :=
  match t.turns[i]? with
  | some (.fetched fetched) =>
    let (result, control) := t.control.endCycle now fetched
    ⟨control, t.turns.set i (.returned result)⟩
  | _ => t

def drop (t : Cycles) (i : Nat) : Cycles :=
  if t.turns[i]?.any Turn.isUnderWay then ⟨t.control.cancelCycle, t.turns.set i .dropped⟩ else t

/-- Nothing but refreshes sets the flag and the last report. -/
def meanwhile (t : Cycles) (control : Control) : Cycles :=
  { t with
    control := { control with running := t.control.running, lastReport := t.control.lastReport } }

def step (t : Cycles) : Event → Cycles
  | .call => t.call
  | .answer i fetched => t.answer i fetched
  | .finish i now => t.finish i now
  | .drop i => t.drop i
  | .meanwhile control => t.meanwhile control

def run (t : Cycles) (es : List Event) : Cycles :=
  es.foldl step t

def start (control : Control) : Cycles :=
  ⟨control, []⟩

def IsUnderWay (t : Cycles) (i : Nat) : Prop :=
  ∃ turn, t.turns[i]? = some turn ∧ turn.isUnderWay

theorem any_isUnderWay {t : Cycles} {i : Nat} :
    t.turns[i]?.any Turn.isUnderWay = true ↔ t.IsUnderWay i :=
  Option.any_eq_true _ _

instance (t : Cycles) (i : Nat) : Decidable (t.IsUnderWay i) :=
  decidable_of_iff _ any_isUnderWay

-- ---------------------------------------------------------------------------
-- What an event does

/-- The flag is down, and policy and last report are those of before. -/
structure Released (c after : Control) : Prop where
  running : after.running = false
  plane : after.plane = c.plane
  lastReport : after.lastReport = c.lastReport

theorem released_cancelCycle (c : Control) : Released c c.cancelCycle :=
  ⟨rfl, rfl, rfl⟩

theorem released_endCycle_error (c : Control) (now : Nat) (e : StoreError) :
    Released c (c.endCycle now (.error e)).2 :=
  ⟨rfl, rfl, rfl⟩

structure Published (c : Control) (now : Nat) (rows : List Row) (after : Control) : Prop where
  running : after.running = false
  plane : after.plane = (c.plane.publish now rows).plane
  lastReport : after.lastReport = some (c.plane.publish now rows).report

theorem published_endCycle_ok (c : Control) (now : Nat) (rows : List Row) :
    Published c now rows (c.endCycle now (.ok rows)).2 :=
  ⟨rfl, rfl, rfl⟩

theorem running_endCycle (c : Control) (now : Nat) (fetched : Except StoreError (List Row)) :
    (c.endCycle now fetched).2.running = false := by
  cases fetched with
  | error e => exact (released_endCycle_error c now e).running
  | ok rows => exact (published_endCycle_ok c now rows).running

inductive Moved (t : Cycles) : Event → Cycles → Prop where
  | skipped (busy : t.control.running = true) :
      t.Moved .call ⟨t.control, t.turns ++ [.returned (.error .inProgress)]⟩
  | began (free : t.control.running = false) :
      t.Moved .call ⟨{ t.control with running := true }, t.turns ++ [.fetching]⟩
  | answered (i : Nat) (fetched : Except StoreError (List Row))
      (there : t.turns[i]? = some .fetching) :
      t.Moved (.answer i fetched) ⟨t.control, t.turns.set i (.fetched fetched)⟩
  | ended (i now : Nat) (fetched : Except StoreError (List Row))
      (there : t.turns[i]? = some (.fetched fetched)) :
      t.Moved (.finish i now)
        ⟨(t.control.endCycle now fetched).2,
          t.turns.set i (.returned (t.control.endCycle now fetched).1)⟩
  | dropped (i : Nat) (there : t.IsUnderWay i) :
      t.Moved (.drop i) ⟨t.control.cancelCycle, t.turns.set i .dropped⟩
  | changed (control : Control) : t.Moved (.meanwhile control) (t.meanwhile control)
  /-- An event that comes for a call which does not wait for it. -/
  | aside (e : Event) (stale : ∀ i now, e = .finish i now → ∀ fetched,
      t.turns[i]? ≠ some (.fetched fetched)) (foreign : ∀ control, e ≠ .meanwhile control) :
      t.Moved e t

variable (t : Cycles)

theorem call_of_running (busy : t.control.running = true) :
    t.call = ⟨t.control, t.turns ++ [.returned (.error .inProgress)]⟩ := by
  rw [call, Control.beginCycle, if_pos busy]

theorem call_of_not_running (free : t.control.running = false) :
    t.call = ⟨{ t.control with running := true }, t.turns ++ [.fetching]⟩ := by
  rw [call, Control.beginCycle, free]
  rfl

theorem finish_of_fetched {i : Nat} {fetched : Except StoreError (List Row)}
    (there : t.turns[i]? = some (.fetched fetched)) (now : Nat) :
    t.finish i now = ⟨(t.control.endCycle now fetched).2,
      t.turns.set i (.returned (t.control.endCycle now fetched).1)⟩ := by
  rw [finish, there]

theorem drop_of_isUnderWay {i : Nat} (there : t.IsUnderWay i) :
    t.drop i = ⟨t.control.cancelCycle, t.turns.set i .dropped⟩ := by
  rw [drop, if_pos (any_isUnderWay.mpr there)]

theorem step_moved (e : Event) : t.Moved e (t.step e) := by
  cases e with
  | call =>
    cases running : t.control.running with
    | true =>
      rw [step, t.call_of_running running]
      exact .skipped running
    | false =>
      rw [step, t.call_of_not_running running]
      exact .began running
  | answer i fetched =>
    simp only [step, answer]
    split
    next there => exact .answered i fetched there
    next _ => exact .aside _ (by simp) (by simp)
  | finish i now =>
    simp only [step, finish]
    split
    next fetched there => exact .ended i now fetched there
    next stale =>
      refine .aside _ (fun j at_j same fetched there => ?_) (by simp)
      cases same
      exact stale fetched there
  | drop i =>
    by_cases there : t.IsUnderWay i
    · rw [step, t.drop_of_isUnderWay there]
      exact .dropped i there
    · have kept : t.drop i = t := by rw [drop, if_neg (mt any_isUnderWay.mp there)]
      rw [step, kept]
      exact .aside _ (by simp) (by simp)
  | meanwhile control => exact .changed control

-- ---------------------------------------------------------------------------
-- At most one cycle

/-- The flag is up exactly while a cycle is under way, and at most one is. -/
structure Orderly (t : Cycles) : Prop where
  flag : t.control.running = true ↔ ∃ i, t.IsUnderWay i
  one : ∀ i j, t.IsUnderWay i → t.IsUnderWay j → i = j

variable {t}

theorem isUnderWay_append (control : Control) (turn : Turn) (i : Nat) :
    IsUnderWay ⟨control, t.turns ++ [turn]⟩ i ↔
      t.IsUnderWay i ∨ i = t.turns.length ∧ turn.isUnderWay := by
  simp only [IsUnderWay, List.getElem?_append]
  split
  next inside => simp [Nat.ne_of_lt inside]
  next outside =>
    have beyond : t.turns[i]? = none := List.getElem?_eq_none (Nat.le_of_not_lt outside)
    simp only [beyond, reduceCtorEq, false_and, exists_false, false_or]
    by_cases last : i = t.turns.length
    · simp [last]
    · simp [last, show i - t.turns.length ≠ 0 by omega]

theorem isUnderWay_set (control : Control) {turn old : Turn} {i : Nat}
    (there : t.turns[i]? = some old) (j : Nat) :
    IsUnderWay ⟨control, t.turns.set i turn⟩ j ↔
      if j = i then turn.isUnderWay = true else t.IsUnderWay j := by
  obtain ⟨inside, -⟩ := List.getElem?_eq_some_iff.mp there
  simp only [IsUnderWay, List.getElem?_set]
  split
  next same =>
    subst same
    simp
  next differs => rw [if_neg (Ne.symm differs)]

theorem Orderly.congr (h : t.Orderly) {u : Cycles}
    (running : u.control.running = t.control.running)
    (same : ∀ i, u.IsUnderWay i ↔ t.IsUnderWay i) : u.Orderly := by
  refine ⟨?_, fun i j at_i at_j => h.one i j ((same i).mp at_i) ((same j).mp at_j)⟩
  rw [running, h.flag]
  exact exists_congr fun i => (same i).symm

theorem Orderly.none_left (h : t.Orderly) {i : Nat} (there : t.IsUnderWay i) {control : Control}
    (running : control.running = false) {turn : Turn} (inactive : turn.isUnderWay = false) :
    Orderly ⟨control, t.turns.set i turn⟩ := by
  obtain ⟨old, at_i, active⟩ := there
  have none : ∀ j, ¬IsUnderWay ⟨control, t.turns.set i turn⟩ j := by
    intro j
    rw [isUnderWay_set control at_i, inactive]
    split
    next _ => simp
    next differs => exact fun other => differs (h.one j i other ⟨old, at_i, active⟩)
  refine ⟨?_, fun j k at_j _ => absurd at_j (none j)⟩
  simp only [running, Bool.false_eq_true, false_iff, not_exists]
  exact none

theorem Orderly.moved (h : t.Orderly) {e : Event} {u : Cycles} (moved : t.Moved e u) :
    u.Orderly := by
  cases moved with
  | skipped busy =>
    refine h.congr rfl fun i => ?_
    rw [isUnderWay_append]
    simp [Turn.isUnderWay]
  | began free =>
    have none : ∀ i, ¬t.IsUnderWay i := by
      intro i there
      have busy := h.flag.mpr ⟨i, there⟩
      rw [free] at busy
      cases busy
    have last : ∀ i, IsUnderWay ⟨{ t.control with running := true }, t.turns ++ [.fetching]⟩ i ↔
        i = t.turns.length := by
      intro i
      rw [isUnderWay_append]
      simp [none i, Turn.isUnderWay]
    refine ⟨?_, fun i j at_i at_j => ?_⟩
    · simp only [true_iff]
      exact ⟨_, (last _).mpr rfl⟩
    · rw [(last i).mp at_i, (last j).mp at_j]
  | answered i fetched there =>
    refine h.congr rfl fun j => ?_
    rw [isUnderWay_set _ there]
    split
    next same =>
      subst same
      exact iff_of_true rfl ⟨_, there, rfl⟩
    next _ => rfl
  | ended i now fetched there =>
    exact h.none_left ⟨_, there, rfl⟩ (running_endCycle _ now fetched) rfl
  | dropped i there => exact h.none_left there rfl rfl
  | changed control => exact h.congr rfl fun _ => Iff.rfl
  | aside _ _ _ => exact h

theorem orderly_start {control : Control} (idle : control.running = false) :
    (start control).Orderly := by
  have none : ∀ i, ¬(start control).IsUnderWay i := by simp [start, IsUnderWay]
  refine ⟨?_, fun i j at_i _ => absurd at_i (none i)⟩
  simp only [start, idle, Bool.false_eq_true, false_iff, not_exists]
  exact none

theorem Orderly.run (h : t.Orderly) (es : List Event) : (t.run es).Orderly := by
  induction es generalizing t with
  | nil => exact h
  | cons e es ih => exact ih (h.moved (t.step_moved e))

-- ---------------------------------------------------------------------------
-- What calls leave behind

inductive Trace where
  | published (now : Nat) (rows : List Row)
  | changed (plane : Plane)
  deriving DecidableEq

structure Standing where
  plane : Plane
  lastReport : Option Report

def standing (t : Cycles) : Standing :=
  ⟨t.control.plane, t.control.lastReport⟩

def Standing.after (s : Standing) : Trace → Standing
  | .published now rows =>
    ⟨(s.plane.publish now rows).plane, some (s.plane.publish now rows).report⟩
  | .changed plane => { s with plane := plane }

def trace? (t : Cycles) : Event → Option Trace
  | .finish i now =>
    match t.turns[i]? with
    | some (.fetched (.ok rows)) => some (.published now rows)
    | _ => none
  | .meanwhile control => some (.changed control.plane)
  | _ => none

/-- The traces of a run: the rows that its cycles published, and what changed the policy
meanwhile. -/
def traces (t : Cycles) : List Event → List Trace
  | [] => []
  | e :: es => (t.trace? e).toList ++ (t.step e).traces es

theorem standing_moved {e : Event} {u : Cycles} (moved : t.Moved e u) :
    u.standing = (t.trace? e).toList.foldl Standing.after t.standing := by
  cases moved with
  | skipped _ => rfl
  | began _ => rfl
  | answered _ _ _ => rfl
  | ended i now fetched there =>
    cases fetched with
    | error e =>
      obtain ⟨-, plane, lastReport⟩ := released_endCycle_error t.control now e
      simp only [standing, trace?, there, plane, lastReport, Option.toList_none, List.foldl_nil]
    | ok rows =>
      obtain ⟨-, plane, lastReport⟩ := published_endCycle_ok t.control now rows
      simp only [standing, trace?, there, plane, lastReport, Option.toList_some, List.foldl_cons,
        List.foldl_nil, Standing.after]
  | dropped _ _ => rfl
  | changed _ => rfl
  | aside e stale foreign =>
    cases e with
    | finish i now =>
      have none : t.trace? (.finish i now) = none := by
        simp only [trace?]
        split
        next rows there => exact absurd there (stale i now rfl _)
        next _ => rfl
      rw [none]
      rfl
    | meanwhile control => exact absurd rfl (foreign control)
    | _ => rfl

theorem standing_run (t : Cycles) (es : List Event) :
    (t.run es).standing = (t.traces es).foldl Standing.after t.standing := by
  induction es generalizing t with
  | nil => rfl
  | cons e es ih =>
    calc ((t.step e).run es).standing
        = ((t.step e).traces es).foldl Standing.after (t.step e).standing := ih _
      _ = ((t.step e).traces es).foldl Standing.after
            ((t.trace? e).toList.foldl Standing.after t.standing) := by
          rw [standing_moved (t.step_moved e)]
      _ = (t.traces (e :: es)).foldl Standing.after t.standing := by
          rw [traces, List.foldl_append]

structure Lawful (t : Cycles) : Prop where
  skips : t.control.running = true →
    t.call = ⟨t.control, t.turns ++ [.returned (.error .inProgress)]⟩
  begins : t.control.running = false →
    t.call = ⟨{ t.control with running := true }, t.turns ++ [.fetching]⟩
  answers : ∀ i fetched, t.turns[i]? = some .fetching →
    t.answer i fetched = ⟨t.control, t.turns.set i (.fetched fetched)⟩
  fails : ∀ i now e, t.turns[i]? = some (.fetched (.error e)) →
    ∃ control, Released t.control control ∧
      t.finish i now = ⟨control, t.turns.set i (.returned (.error (.store e)))⟩
  publishes : ∀ i now rows, t.turns[i]? = some (.fetched (.ok rows)) →
    ∃ control, Published t.control now rows control ∧
      t.finish i now =
        ⟨control, t.turns.set i (.returned (.ok (t.control.plane.publish now rows).report))⟩
  drops : ∀ i, t.IsUnderWay i →
    ∃ control, Released t.control control ∧ t.drop i = ⟨control, t.turns.set i .dropped⟩

theorem lawful (t : Cycles) : t.Lawful where
  skips := t.call_of_running
  begins := t.call_of_not_running
  answers i fetched there := by rw [answer, there]
  fails i now e there :=
    ⟨_, released_endCycle_error t.control now e, t.finish_of_fetched there now⟩
  publishes i now rows there :=
    ⟨_, published_endCycle_ok t.control now rows, t.finish_of_fetched there now⟩
  drops _ there := ⟨_, released_cancelCycle t.control, t.drop_of_isUnderWay there⟩

/-- After every interleaving of calls, answers, ends and cancellations, from a control plane
at rest: the flag is up exactly while a cycle is under way, and at most one is; while it is
up calls are skipped and change nothing, and while it is down the next call begins a cycle;
every end of a cycle takes the flag down. Policy and last report are those that the
published rows left, so skipped, failed and cancelled calls left nothing. -/
theorem one_at_a_time (control : Control) (idle : control.running = false) (es : List Event) :
    let t := (start control).run es
    t.Orderly ∧ t.Lawful ∧
      t.standing = ((start control).traces es).foldl Standing.after (start control).standing :=
  ⟨(orderly_start idle).run es, lawful _, standing_run _ es⟩

/-- Of five calls one is skipped and not heard of again, one fails, one is cancelled, one
publishes no rows, and the last one still fetches. -/
theorem one_at_a_time_five_calls :
    let control := Control.ofPlane (.ofRoutes [⟨"GET /a"⟩] ["key"]) (.ofCapacity "alarm" 1)
    let t := (start control).run
      [.call, .call, .drop 1, .answer 0 (.error (.unavailable "down")), .finish 0 5,
       .call, .drop 2, .call, .answer 3 (.ok []), .finish 3 7, .finish 3 8, .call]
    t.Orderly ∧ t.IsUnderWay 4 ∧ t.standing = (start control).standing.after (.published 7 []) := by
  intro control t
  have fetching : t.IsUnderWay 4 := by decide +kernel
  have traces : (start control).traces
      [.call, .call, .drop 1, .answer 0 (.error (.unavailable "down")), .finish 0 5,
       .call, .drop 2, .call, .answer 3 (.ok []), .finish 3 7, .finish 3 8, .call] =
      [.published 7 []] := by decide +kernel
  obtain ⟨orderly, -, standing⟩ := one_at_a_time control rfl
    [.call, .call, .drop 1, .answer 0 (.error (.unavailable "down")), .finish 0 5,
     .call, .drop 2, .call, .answer 3 (.ok []), .finish 3 7, .finish 3 8, .call]
  rw [traces] at standing
  exact ⟨orderly, fetching, standing⟩

end Cycles

-- ---------------------------------------------------------------------------
-- The refreshes of a service

namespace Service

open Cycles

def turnOf : Job → Turn
  | .cycle => .fetching
  | .refreshed result => .returned result
  | _ => .dropped

variable (s : Service) (turns : List Turn)

theorem resume_cycles {i : Nat} (there : turns[i]? = some .fetching) :
    ∃ es, run ⟨s.control, turns⟩ es =
      ⟨(s.resume .cycle).2.control, turns.set i (turnOf (s.resume .cycle).1)⟩ := by
  by_cases hangs : s.source.hangs
  · have kept : turns.set i .fetching = turns := by
      obtain ⟨inside, at_i⟩ := List.getElem?_eq_some_iff.mp there
      rw [← at_i, List.set_getElem_self]
    refine ⟨[], ?_⟩
    simp only [run, List.foldl_nil, resume, hangs, if_true, turnOf, kept]
  · refine ⟨[.answer i s.source.fetch, .finish i s.nanos], ?_⟩
    have answered := (lawful ⟨s.control, turns⟩).answers i s.source.fetch there
    have waits : (turns.set i (.fetched s.source.fetch))[i]? = some (.fetched s.source.fetch) := by
      obtain ⟨inside, -⟩ := List.getElem?_eq_some_iff.mp there
      rw [List.getElem?_set_self inside]
    have ended := finish_of_fetched ⟨s.control, turns.set i (.fetched s.source.fetch)⟩ waits s.nanos
    have resumed : s.resume .cycle =
        (.refreshed s.finishCycle.1, s.finishCycle.2) := by simp [resume, hangs]
    simp only [run, List.foldl_cons, List.foldl_nil, step, answered, ended, resumed, finishCycle,
      turnOf, List.set_set]

def fetching : Service :=
  { s with control := { s.control with running := true }, source := s.source.beginFetch }

theorem startRefresh_of_not_running (free : s.control.running = false) :
    s.startRefresh = s.fetching.resume .cycle := by
  cases hangs : s.source.beginFetch.hangs <;>
    simp [startRefresh, resume, fetching, Control.beginCycle, free, hangs]

/-- A refresh of the service is a call, which is skipped or goes on at once. -/
theorem startRefresh_cycles :
    ∃ es, run ⟨s.control, turns⟩ es =
      ⟨s.startRefresh.2.control, turns ++ [turnOf s.startRefresh.1]⟩ := by
  cases running : s.control.running with
  | true =>
    have skipped := call_of_running ⟨s.control, turns⟩ running
    refine ⟨[.call], ?_⟩
    simp only [run, List.foldl_cons, List.foldl_nil, step, skipped, startRefresh,
      Control.beginCycle, running, if_true, turnOf]
  | false =>
    have began : call ⟨s.control, turns⟩ = ⟨s.fetching.control, turns ++ [.fetching]⟩ :=
      call_of_not_running ⟨s.control, turns⟩ running
    have last : (turns ++ [Turn.fetching])[turns.length]? = some .fetching := by simp
    obtain ⟨es, ended⟩ := s.fetching.resume_cycles _ last
    refine ⟨.call :: es, ?_⟩
    rw [s.startRefresh_of_not_running running]
    calc run ⟨s.control, turns⟩ (.call :: es)
        = run ⟨s.fetching.control, turns ++ [.fetching]⟩ es := by
          rw [run, List.foldl_cons, step, began, run]
      _ = ⟨(s.fetching.resume .cycle).2.control,
            (turns ++ [Turn.fetching]).set turns.length (turnOf (s.fetching.resume .cycle).1)⟩ :=
          ended
      _ = _ := by rw [List.set_append_right _ _ (Nat.le_refl _), Nat.sub_self, List.set_cons_zero]

theorem cancel_cycles {i : Nat} (there : turns[i]? = some .fetching) :
    drop ⟨s.control, turns⟩ i = ⟨(s.cancel .cycle).control, turns.set i .dropped⟩ :=
  drop_of_isUnderWay _ ⟨_, there, rfl⟩

end Service

end Tollgate
