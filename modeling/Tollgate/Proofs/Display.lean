import Tollgate.Proofs.Governed

/-!
# What operators see of rates

A gate shows its ceiling and the rate and interval that its limiter was made for. After a
refresh both are those of the row in force. A route without a row has no ceiling; its rate
is empty, unless the last row that was applied to it limits nothing: a gate that governs
nothing is not touched by a reset, and goes on showing the rate of that row.
-/

namespace Tollgate

open Control (Plane)
open Policy

-- ---------------------------------------------------------------------------
-- Policies and the rows they show

namespace Policy

/-- Whether a row sets neither a ceiling nor a rate that can be kept. -/
def GateSpec.limitsNothing (s : GateSpec) : Bool :=
  s.rule = .free

def GateSpec.shown : Option GateSpec → String
  | some spec => spec.descriptor
  | none => ""

namespace GatePolicy

variable {p : GatePolicy} {row? last : Option GateSpec}

/-- The rule and the rate of a row stand, or there is neither. -/
structure Shows (p : GatePolicy) (row? : Option GateSpec) : Prop where
  rule : p.rule = .ofSpec? row?
  rate : p.descriptor = GateSpec.shown row?

theorem shows_ungoverned (generation : Nat) : (ungoverned generation).Shows none :=
  ⟨rfl, rfl⟩

theorem Shows.faithful (h : p.Shows row?) : p.Faithful := by
  have pace : p.limiter.pace? = (GateRule.ofSpec? row?).pace? := congrArg GateRule.pace? h.rule
  cases row? with
  | none => exact .initial h.rate pace
  | some spec => exact .ofSpec spec h.rate pace

theorem Shows.ceiling (h : p.Shows row?) : p.ceiling = (GateRule.ofSpec? row?).ceiling :=
  congrArg GateRule.ceiling h.rule

theorem Shows.update (h : p.Shows row?) (now : Nat) (spec : GateSpec) :
    (p.update now spec).Shows (some spec) :=
  ⟨rule_update h.faithful now spec, descriptor_update p now spec⟩

theorem rule_eq_free_iff : p.rule = .free ↔ p.ceiling = 0 ∧ p.limiter.isUnlimited := by
  rw [rule, GateRule.free, GateRule.mk.injEq, Rate.Limiter.pace?_eq_none]

theorem Shows.reset (h : p.Shows row?) : p.reset.Shows (row?.filter GateSpec.limitsNothing) := by
  cases row? with
  | none =>
    rw [GatePolicy.reset, if_pos (rule_eq_free_iff.mp h.rule)]
    exact h
  | some spec =>
    by_cases idle : spec.rule = .free
    · have nothing : spec.limitsNothing := decide_eq_true idle
      rw [GatePolicy.reset, if_pos (rule_eq_free_iff.mp (h.rule.trans idle)),
        Option.filter_some_pos nothing]
      exact h
    · have something : spec.limitsNothing = false := decide_eq_false idle
      have governs : ¬(p.ceiling = 0 ∧ p.limiter.isUnlimited) := fun free =>
        idle (h.rule.symm.trans (rule_eq_free_iff.mpr free))
      rw [GatePolicy.reset, if_neg governs, Option.filter_some_neg something]
      exact shows_ungoverned _

/-- The last row that was applied stands, or the gate was reset since. -/
inductive Follows (p : GatePolicy) (last : Option GateSpec) : Prop
  | stands (shows : p.Shows last)
  | reset (shows : p.Shows (last.filter GateSpec.limitsNothing))

theorem Follows.shows_update (h : p.Follows last) (now : Nat) (spec : GateSpec) :
    (p.update now spec).Shows (some spec) := by
  cases h with
  | stands shows => exact shows.update now spec
  | reset shows => exact shows.update now spec

theorem Follows.shows_reset (h : p.Follows last) :
    p.reset.Shows (last.filter GateSpec.limitsNothing) := by
  cases h with
  | stands shows => exact shows.reset
  | reset shows =>
    have again := shows.reset
    simpa only [Option.filter_filter, Bool.and_self] using again

theorem Follows.apply (h : p.Follows last) (now : Nat) (row? : Option GateSpec) :
    (p.apply now row?).Follows (row?.or last) := by
  cases row? with
  | none => exact .reset h.shows_reset
  | some spec => exact .stands (h.shows_update now spec)

end GatePolicy

-- ---------------------------------------------------------------------------
-- Gates

namespace Gates

variable {gates : Gates} {P Q : Route.Key → GatePolicy → Prop}

theorem All.leave (h : gates.All P) (route? : Option Route.Key) : (gates.leave route?).All P := by
  cases route? with
  | none => exact h
  | some route => exact h.release route

theorem map_route_snapshot (gates : Gates) :
    gates.snapshot.map GateSnapshot.route = gates.routes := by
  simp [snapshot, routes]

theorem All.apply (h : gates.All P) (now : Nat) (batch : Table Route.Key GateSpec)
    (becomes : ∀ key p, P key p → Q key (p.apply now (batch.lookup key))) :
    (gates.apply now batch).All Q := by
  intro entry mem
  obtain ⟨⟨key, g⟩, old, rfl⟩ := List.mem_map.mp mem
  exact becomes key g.policy (h _ old)

theorem All.change (h : gates.All P) (route : Route.Key) {f : GatePolicy → GatePolicy}
    (there : ∀ p, P route p → Q route (f p)) (elsewhere : ∀ key p, key ≠ route → P key p → Q key p) :
    (gates.modify route fun g => { g with policy := f g.policy }).All Q := by
  rw [modify_eq_map]
  intro entry mem
  obtain ⟨⟨key, g⟩, old, rfl⟩ := List.mem_map.mp mem
  have held : P key g.policy := h _ old
  by_cases same : key = route
  · subst same
    simpa using there _ held
  · simpa [same] using elsewhere key _ same held

theorem all_ofRoutes (routes : List Route.Key) (fresh : ∀ key, P key (.ungoverned 0)) :
    (ofRoutes routes).All P := by
  intro entry mem
  have idle : entry.2 = Gate.idle := idle_of_mem_foldl (fun _ none => by simp at none) mem
  rw [idle]
  exact fresh entry.1

end Gates

theorem GatePolicy.Follows.answer {g : Gate} {last : Option GateSpec} (h : g.policy.Follows last)
    (current now : Nat) : (g.answer current now).2.policy.Follows last := by
  have shows : ∀ {row?}, g.policy.Shows row? → (g.answer current now).2.policy.Shows row? := by
    intro row? shows
    exact ⟨(g.rule_answer current now).trans shows.rule,
      (g.descriptor_answer current now).trans shows.rate⟩
  cases h with
  | stands old => exact .stands (shows old)
  | reset old => exact .reset (shows old)

end Policy

-- ---------------------------------------------------------------------------
-- Traffic

namespace Traffic

section Passing

variable {p q : Plane} {P : Route.Key → GatePolicy → Prop}
  (keeps : ∀ key g current now, P key g.policy → P key (Gate.answer g current now).2.policy)
  (h : p.gates.All P)

include h

theorem all_ofResumed {f : Service.Flight} {job : Service.Job} (resumed : Service.Resumed p f job q) :
    q.gates.All P := by
  cases resumed with
  | waits _ _ _ plane =>
    rw [plane]
    exact h
  | ends _ _ plane =>
    rw [plane]
    exact h.leave f.route?

include keeps

theorem all_ofStarted {now : Nat} {asked : Option Route.Key} {job : Service.Job}
    (started : Service.Started p now asked job q) : q.gates.All P := by
  cases started with
  | aside _ _ plane =>
    rw [plane]
    exact h
  | passed route _ _ _ plane =>
    rw [plane]
    exact (Gates.All.enter route now h keeps).release route
  | waits route _ _ _ _ _ plane =>
    rw [plane]
    exact Gates.All.enter route now h keeps

end Passing

theorem Moved.all {t u : Traffic} {e : Event} (moved : t.Moved e u) (direct : e.isDirect = false)
    (unfetched : ∀ fetched, e ≠ .endCycle fetched) {P : Route.Key → GatePolicy → Prop}
    (keeps : ∀ key g current now, P key g.policy → P key (Gate.answer g current now).2.policy)
    (h : t.gates.All P) : u.gates.All P := by
  cases moved with
  | aside e s limits plane _ =>
    rw [gates_aside plane]
    exact h
  | ended fetched => exact absurd rfl (unfetched fetched)
  | direct _ _ isDirect _ =>
    rw [direct] at isDirect
    cases isDirect
  | counted route current gates told =>
    have passed := h.countIn route
    rw [told] at passed
    exact passed
  | ungoverned route gates told =>
    have passed := h.countIn route
    rw [told] at passed
    exact passed
  | answered i route current others entry gates _ told =>
    have passed := Gates.All.answer route current t.service.nanos h keeps
    rw [told] at passed
    exact passed
  | token _ _ _ _ _ => exact h
  | left i g _ =>
    have plane : ((t.withService (g.leave t.service)).become i .gone).plane =
        t.plane.withGates (t.gates.leave g.route?) := g.leave_plane t.service
    rw [gates, plane]
    exact h.leave g.route?
  | owing _ _ _ _ => exact h
  | paid route _ => exact h.release route
  | requested router r =>
    have started := t.service.startRequest_started router r
    exact all_ofStarted keeps h started
  | woken i f _ =>
    have resumed := t.service.resumeFlight_resumed f
    exact all_ofResumed h resumed

/-- What an event asks of the gate of a route: to apply a row, to be reset, or nothing. -/
def asked? (t : Traffic) (route : Route.Key) : Event → Option (Option GateSpec)
  | .endCycle (.ok rows) =>
    if t.service.control.running then some ((Control.specsOf rows).lookup route) else none
  | .update key spec => if key = route then some (some spec) else none
  | .reset key => if key = route then some none else none
  | .apply batch => some (batch.lookup route)
  | _ => none

def lastRow? (t : Traffic) (route : Route.Key) : List Event → Option GateSpec
  | [] => none
  | e :: es => ((t.step e).lastRow? route es).or (t.asked? route e).join

variable {t : Traffic} {last : Route.Key → Option GateSpec}

theorem follows_step (h : t.gates.All fun key p => p.Follows (last key)) (e : Event) :
    (t.step e).gates.All fun key p => p.Follows ((t.asked? key e).join.or (last key)) := by
  have apart : e.isDirect = false → (∀ fetched, e ≠ .endCycle fetched) →
      (t.step e).gates.All fun key p => p.Follows (last key) := fun direct unfetched =>
    (t.step_moved e).all direct unfetched (fun _ _ current now old => old.answer current now) h
  cases e with
  | endCycle fetched =>
    cases fetched with
    | error _ =>
      simp only [step]
      split <;> exact h
    | ok rows =>
      cases running : t.service.control.running with
      | false =>
        simp only [step, asked?, running]
        exact h
      | true =>
        have published : (t.endCycle (.ok rows)).gates =
            t.gates.apply t.service.nanos (Control.specsOf rows) := by
          rw [gates, plane_endCycle]
          exact t.plane.publish_gates _ rows
        simp only [step, asked?, running, if_true, published]
        exact h.apply _ _ fun key p old => old.apply _ _
  | update route spec =>
    refine h.change route (f := fun p => p.update t.service.nanos spec) (fun p old => ?_)
      fun key p other old => ?_
    · simp only [asked?, if_true]
      exact .stands (old.shows_update _ spec)
    · simp only [asked?, Ne.symm other, if_false]
      exact old
  | reset route =>
    refine h.change route (f := GatePolicy.reset) (fun p old => ?_) fun key p other old => ?_
    · simp only [asked?, if_true]
      exact .reset old.shows_reset
    · simp only [asked?, Ne.symm other, if_false]
      exact old
  | apply batch => exact h.apply _ _ fun key p old => old.apply _ _
  | _ => exact apart rfl (by simp)

theorem follows_run (h : t.gates.All fun key p => p.Follows (last key)) (es : List Event) :
    (t.run es).gates.All fun key p => p.Follows ((t.lastRow? key es).or (last key)) := by
  induction es generalizing t last with
  | nil => exact h
  | cons e es ih =>
    have later := ih (follows_step h e)
    simpa only [run_cons, lastRow?, Option.or_assoc] using later

-- ---------------------------------------------------------------------------
-- After a refresh

/-- What operators see of a route after a refresh, where `last` is the row that was applied
to it before. -/
inductive Displayed (fetched : List Row) (last : Option GateSpec) (g : GateSnapshot) : Prop
  | inForce (spec : GateSpec)
      (decided : Decided GateSpec.assign? .routerConcurrency fetched g.route (some spec))
      (ceiling : g.ceiling = spec.max) (rate : g.rate = spec.descriptor)
  | cleared (decided : Decided GateSpec.assign? .routerConcurrency fetched g.route none)
      (limited : ∀ spec, last = some spec → spec.limitsNothing = false)
      (ceiling : g.ceiling = 0) (rate : g.rate = "")
  /-- A row that limits nothing is shown although it is in force no longer. -/
  | lingering (decided : Decided GateSpec.assign? .routerConcurrency fetched g.route none)
      (spec : GateSpec) (applied : last = some spec) (unlimited : spec.limitsNothing)
      (ceiling : g.ceiling = 0) (rate : g.rate = spec.descriptor)

theorem displayed_apply {p : GatePolicy} {last row? : Option GateSpec} (h : p.Follows last)
    {fetched : List Row} {key : Route.Key}
    (decided : Decided GateSpec.assign? .routerConcurrency fetched key row?) (current now : Nat) :
    Displayed fetched last
      ⟨key, current, (p.apply now row?).ceiling, (p.apply now row?).descriptor⟩ := by
  cases row? with
  | some spec =>
    have shows := h.shows_update now spec
    exact .inForce spec decided shows.ceiling shows.rate
  | none =>
    have shows := h.shows_reset
    have free : p.reset.ceiling = 0 := congrArg GateRule.ceiling p.rule_reset
    by_cases lingers : ∃ spec, last = some spec ∧ spec.limitsNothing
    · obtain ⟨spec, rfl, unlimited⟩ := lingers
      rw [Option.filter_some_pos unlimited] at shows
      exact .lingering decided spec rfl unlimited free shows.rate
    · have limited : ∀ spec, last = some spec → spec.limitsNothing = false := fun spec applied =>
        Bool.eq_false_iff.mpr fun unlimited => lingers ⟨spec, applied, unlimited⟩
      have nothing : last.filter GateSpec.limitsNothing = none := by
        simpa [Option.filter_eq_none_iff] using limited
      rw [nothing] at shows
      exact .cleared decided limited free shows.rate

/-- After every run, also of direct changes, a refresh leaves operators with exactly the
registered routes. Each shows the ceiling and the rate of the row in force for it. A route
without one shows no ceiling, and no rate either, unless the last row that was applied to it
limits nothing: then the rate of that row goes on being shown. -/
theorem rates_shown_run (s : Service) (routes : List Route.Key) (defaults : List String)
    (center : Control.AlarmCenter) (es : List Event) (now : Nat) (fetched : List Row) :
    let before := start s routes defaults center
    let ended := (before.run es).service.control.endCycle now (.ok fetched)
    (∀ key, key ∈ ended.2.plane.gates.snapshot.map GateSnapshot.route ↔ key ∈ routes) ∧
    ∀ g ∈ ended.2.plane.gates.snapshot, Displayed fetched (before.lastRow? g.route es) g := by
  intro before ended
  have published : ended.2.plane.gates = (before.run es).gates.apply now
      (Table.ofEntries (Control.entriesIn GateSpec.assign? fetched .routerConcurrency)) := by
    have plane := (before.run es).service.control.endCycle_plane now (.ok fetched)
    rw [plane]
    simp only [Plane.publish_putOn, Control.putOn_entries]
    rfl
  have follows : (before.run es).gates.All fun key p => p.Follows (before.lastRow? key es) := by
    have fresh : before.gates.All fun _ p => p.Follows none :=
      Gates.all_ofRoutes routes fun _ => .stands (GatePolicy.shows_ungoverned 0)
    simpa only [Option.or_none] using follows_run fresh es
  have registered : ended.2.plane.gates.routes = (Gates.ofRoutes routes).routes := by
    rw [published, Gates.routes_apply, routes_run]
    rfl
  refine ⟨fun key => ?_, fun g mem => ?_⟩
  · rw [Gates.map_route_snapshot, registered, Gates.mem_routes_iff]
    simp [Gates.lookup_ofRoutes]
  · rw [published] at mem
    obtain ⟨_, entry, rfl⟩ := List.mem_map.mp mem
    obtain ⟨⟨key, old⟩, was, rfl⟩ := List.mem_map.mp entry
    have decided := Control.decided_lookup GateSpec.assign? .routerConcurrency fetched key
    rw [← Table.lookup_ofEntries] at decided
    exact displayed_apply (follows _ was) decided old.current now

theorem rates_shown_run_dropped :
    let before := start quiet [⟨"GET /a"⟩] ["key"] (.ofCapacity "alarm" 1)
    let ended := (before.run [.beginCycle, .endCycle (.ok [ceilingRow])]).service.control.endCycle 0
      (.ok [])
    ended.2.plane.gates.snapshot = [⟨⟨"GET /a"⟩, 0, 0, ""⟩] ∧
      Displayed [] (some ⟨1, 0, ""⟩) ⟨⟨"GET /a"⟩, 0, 0, ""⟩ := by
  intro before ended
  have snapshot : ended.2.plane.gates.snapshot = [⟨⟨"GET /a"⟩, 0, 0, ""⟩] := by decide +kernel
  have last : before.lastRow? ⟨"GET /a"⟩ [.beginCycle, .endCycle (.ok [ceilingRow])] =
      some ⟨1, 0, ""⟩ := by decide +kernel
  have shown := (rates_shown_run quiet [⟨"GET /a"⟩] ["key"] (.ofCapacity "alarm" 1)
    [.beginCycle, .endCycle (.ok [ceilingRow])] 0 []).2 ⟨⟨"GET /a"⟩, 0, 0, ""⟩
    (by rw [snapshot]; exact List.mem_singleton_self _)
  exact ⟨snapshot, last ▸ shown⟩

def unreadableRate : Row :=
  ⟨"soon", .routerConcurrency, .enabled,
    "\x7b\"router\":\"GET /a\",\"rate\":5,\"interval\":\"soon\"\x7d", ⟨0, 0⟩, ⟨9, 0⟩, ⟨0, 0⟩⟩

/-- Its rate is shown after a refresh without any rows. -/
theorem dropped_rate_lingers :
    let ended := ((start quiet [⟨"GET /a"⟩] ["key"] (.ofCapacity "alarm" 1)).run
      [.beginCycle, .endCycle (.ok [unreadableRate])]).service.control.endCycle 0 (.ok [])
    ended.1.toBool ∧ Decided GateSpec.assign? .routerConcurrency [] ⟨"GET /a"⟩ none ∧
      ended.2.plane.gates.snapshot = [⟨⟨"GET /a"⟩, 0, 0, "5/soon"⟩] := by
  refine ⟨rfl, .silent (by simp), by decide +kernel⟩

end Traffic

end Tollgate
