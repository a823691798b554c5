import Tollgate.Proofs.Moves

/-!
# The last good policy

Whatever requests, admissions and permits do, and however refreshes fail, overlap or are
cancelled, the policy in force is that of the last fetch that was published: a plane of
a fresh start enforces the same after one refresh from its rows. Before the first such
fetch it is the policy of the start. The exception are changes made to gates directly.
-/

namespace Tollgate

open Control (Enforced Plane)
open Policy (Gates RequestLimits Row)
open Store (StoreError)

-- ---------------------------------------------------------------------------
-- Planes of one policy

/-- The second plane differs from the first one in counts and tokens at most. -/
structure Control.Plane.SamePolicy (p q : Plane) : Prop where
  enforced : q.enforced = p.enforced
  defaults : q.signingKeys.defaults = p.signingKeys.defaults
  faithful : p.gates.Faithful → q.gates.Faithful

namespace Control.Plane.SamePolicy

variable {p q : Plane}

theorem refl (p : Plane) : p.SamePolicy p :=
  ⟨rfl, rfl, fun faithful => faithful⟩

theorem withGates {gates : Gates} (rules : gates.rules = p.gates.rules)
    (faithful : p.gates.Faithful → gates.Faithful) : p.SamePolicy (p.withGates gates) := by
  refine ⟨?_, rfl, faithful⟩
  simp only [Plane.enforced, Plane.withGates, rules]

theorem withLimits {limits : RequestLimits} (h : limits.limits = p.limits.limits) :
    p.SamePolicy { p with limits := limits } := by
  refine ⟨?_, rfl, fun faithful => faithful⟩
  simp only [Plane.enforced, h]

theorem leave (p : Plane) (route? : Option Route.Key) :
    p.SamePolicy (p.withGates (p.gates.leave route?)) :=
  withGates (p.gates.rules_leave route?) fun faithful => faithful.leave route?

theorem grounded {routes : List Route.Key} {defaults : List String} (h : p.SamePolicy q)
    (old : p.Grounded routes defaults) : q.Grounded routes defaults := by
  refine ⟨?_, h.defaults.trans old.defaults, h.faithful old.faithful⟩
  exact (Gates.routes_congr (congrArg Enforced.gates h.enforced)).trans old.routes

theorem ofStarted {now : Nat} {asked : Option Route.Key} {job : Service.Job}
    (h : Service.Started p now asked job q) : p.SamePolicy q := by
  cases h with
  | aside _ _ plane => exact plane ▸ refl p
  | passed route _ _ _ plane =>
    rw [plane]
    refine withGates ?_ fun faithful => (faithful.enter route now).release route
    rw [Gates.rules_release, Gates.rules_enter]
  | waits route _ _ _ _ _ plane =>
    rw [plane]
    exact withGates (Gates.rules_enter _ route now) fun faithful => faithful.enter route now

theorem ofResumed {f : Service.Flight} {job : Service.Job} (h : Service.Resumed p f job q) :
    p.SamePolicy q := by
  cases h with
  | waits _ _ _ plane => exact plane ▸ refl p
  | ends _ _ plane => exact plane ▸ leave p f.route?

end Control.Plane.SamePolicy

-- ---------------------------------------------------------------------------
-- Moves

namespace Traffic

open Control.Plane (SamePolicy)

theorem Moved.samePolicy {t u : Traffic} {e : Event} (moved : t.Moved e u)
    (direct : e.isDirect = false) (unfetched : ∀ fetched, e ≠ .endCycle fetched) :
    t.plane.SamePolicy u.plane := by
  cases moved with
  | aside e s limits plane same =>
    have after : (t.withService s).plane = { t.plane with limits := limits } := plane
    rw [after]
    exact .withLimits same
  | ended fetched => exact absurd rfl (unfetched fetched)
  | direct _ _ isDirect _ => rw [direct] at isDirect; cases isDirect
  | counted route current gates told =>
    have same : t.plane.SamePolicy (t.plane.withGates (t.gates.countIn route).2) :=
      .withGates (t.gates.rules_countIn route) fun faithful => faithful.countIn route
    rw [told] at same
    exact same
  | ungoverned route gates told =>
    have same : t.plane.SamePolicy (t.plane.withGates (t.gates.countIn route).2) :=
      .withGates (t.gates.rules_countIn route) fun faithful => faithful.countIn route
    rw [told] at same
    exact same
  | answered i route current others entry gates _ told =>
    have same : t.plane.SamePolicy
        (t.plane.withGates (t.gates.answer route current t.service.nanos).2) :=
      .withGates (t.gates.rules_answer route current _) fun faithful => faithful.answer route current _
    rw [told] at same
    exact same
  | token _ _ _ _ _ => exact .refl _
  | left i g _ =>
    have plane : ((t.withService (g.leave t.service)).become i .gone).plane =
        t.plane.withGates (t.gates.leave g.route?) := g.leave_plane t.service
    rw [plane]
    exact .leave t.plane g.route?
  | owing _ _ _ _ => exact .refl _
  | paid route _ => exact .leave t.plane (some route)
  | requested router r => exact .ofStarted (t.service.startRequest_started router r)
  | woken i f _ => exact .ofResumed (t.service.resumeFlight_resumed f)

theorem Moved.fetched_eq {t u : Traffic} {e : Event} (moved : t.Moved e u)
    (unfetched : ∀ fetched, e ≠ .endCycle fetched) : u.fetched = t.fetched := by
  cases moved with
  | ended fetched => exact absurd rfl (unfetched fetched)
  | _ => rfl

-- ---------------------------------------------------------------------------
-- Runs

/-- The policy of a start, or that of the rows which were published last. -/
def lastPolicy (routes : List Route.Key) (defaults : List String) : List (List Row) → Enforced
  | [] => (Plane.ofRoutes routes defaults).enforced
  | rows :: _ => .ofRows (Gates.ofRoutes routes).routes defaults rows

/-- What carries through every run: the plane is grounded, and it enforces the policy
of the rows published last. -/
structure Current (routes : List Route.Key) (defaults : List String) (t : Traffic) : Prop where
  grounded : t.plane.Grounded routes defaults
  enforced : t.plane.enforced = lastPolicy routes defaults t.fetched

variable {t : Traffic} {routes : List Route.Key} {defaults : List String}

theorem current_start (s : Service) (center : Control.AlarmCenter) :
    (start s routes defaults center).Current routes defaults :=
  ⟨Plane.grounded_ofRoutes routes defaults, rfl⟩

theorem Current.of_samePolicy {u : Traffic} (h : t.Current routes defaults)
    (same : t.plane.SamePolicy u.plane) (fetched : u.fetched = t.fetched) :
    u.Current routes defaults := by
  refine ⟨same.grounded h.grounded, ?_⟩
  rw [same.enforced, h.enforced, fetched]

theorem Current.endCycle (h : t.Current routes defaults)
    (fetched : Except StoreError (List Row)) : (t.endCycle fetched).Current routes defaults := by
  have plane : (t.service.control.endCycle t.service.nanos fetched).2.plane = _ :=
    Control.endCycle_plane t.service.control t.service.nanos fetched
  cases fetched with
  | error e =>
    have kept : (t.endCycle (.error e)).plane = t.plane := plane
    exact h.of_samePolicy (kept ▸ .refl _) rfl
  | ok rows =>
    have published : (t.endCycle (.ok rows)).plane =
        (t.plane.publish t.service.nanos rows).plane := plane
    refine ⟨?_, ?_⟩
    · rw [published]
      exact h.grounded.publish t.service.nanos rows
    · rw [published, Plane.enforced_publish _ _ _ h.grounded.faithful, h.grounded.routes,
        h.grounded.defaults]
      rfl

theorem Current.step (h : t.Current routes defaults) {e : Event} (direct : e.isDirect = false) :
    (t.step e).Current routes defaults := by
  by_cases fetches : ∃ fetched, e = .endCycle fetched
  · obtain ⟨fetched, rfl⟩ := fetches
    simp only [Traffic.step]
    split
    next _ => exact h.endCycle fetched
    next _ => exact h
  · have unfetched : ∀ fetched, e ≠ .endCycle fetched := fun fetched same =>
      fetches ⟨fetched, same⟩
    have moved := t.step_moved e
    exact h.of_samePolicy (moved.samePolicy direct unfetched) (moved.fetched_eq unfetched)

theorem Current.run (h : t.Current routes defaults) {es : List Event}
    (direct : ∀ e ∈ es, e.isDirect = false) : (t.run es).Current routes defaults := by
  induction es generalizing t with
  | nil => exact h
  | cons e es ih =>
    exact ih (h.step (direct e List.mem_cons_self)) fun e mem =>
      direct e (List.mem_cons_of_mem _ mem)

/-- After every run without direct changes, whatever its requests, admissions, permits
and refreshes: before any published fetch the policy of the start is in force, and after
one a plane of a fresh start enforces the same once it refreshed from the rows of the
last one; the routes and names that these rows do not name are not governed. -/
theorem enforced_run (s : Service) (routes : List Route.Key) (defaults : List String)
    (center : Control.AlarmCenter) (es : List Event) (direct : ∀ e ∈ es, e.isDirect = false) :
    let t := (start s routes defaults center).run es
    (t.fetched = [] → t.plane.enforced = (Plane.ofRoutes routes defaults).enforced) ∧
    ∀ rows earlier, t.fetched = rows :: earlier →
      (∀ center' now', t.plane.enforced =
        ((Control.ofPlane (.ofRoutes routes defaults) center').refresh now'
          (.ok rows)).2.plane.enforced) ∧
      t.plane.enforced.NothingElse routes defaults rows := by
  intro t
  have current : t.Current routes defaults := (current_start s center).run direct
  refine ⟨fun none => ?_, fun rows earlier last => ?_⟩
  · rw [current.enforced, none]
    rfl
  · have enforced : t.plane.enforced = .ofRows (Gates.ofRoutes routes).routes defaults rows := by
      rw [current.enforced, last]
      rfl
    refine ⟨fun center' now' => ?_, ?_⟩
    · rw [enforced, Control.enforced_refresh_fresh]
    · have nothing := Control.nothingElse_ofRows (Gates.ofRoutes routes).routes defaults rows
      rw [enforced]
      exact { nothing with
        gates := fun key registered => nothing.gates key (Gates.mem_routes_ofRoutes registered) }

def ceilingRow : Row :=
  ⟨"one at a time", .routerConcurrency, .enabled,
    "\x7b\"router\":\"GET /a\",\"max\":1\x7d", ⟨0, 0⟩, ⟨9, 0⟩, ⟨0, 0⟩⟩

/-- Two cycles, of which the second one fails, while an admission waits for its answer. -/
theorem enforced_run_two_cycles :
    let t := (start quiet [⟨"GET /a"⟩] ["key"] (.ofCapacity "alarm" 1)).run
      [.countIn ⟨"GET /a"⟩, .beginCycle, .endCycle (.ok [ceilingRow]), .answer 0, .beginCycle,
       .beginCycle, .endCycle (.error (.unavailable "down"))]
    t.fetched = [[ceilingRow]] ∧
      t.plane.enforced.gates = [(⟨"GET /a"⟩, ⟨1, none⟩)] ∧
      t.plane.enforced = ((Control.ofPlane (.ofRoutes [⟨"GET /a"⟩] ["key"])
        (.ofCapacity "alarm" 1)).refresh 0 (.ok [ceilingRow])).2.plane.enforced := by
  intro t
  have fetched : t.fetched = [[ceilingRow]] := by decide +kernel
  have gates : t.plane.enforced.gates = [(⟨"GET /a"⟩, ⟨1, none⟩)] := by decide +kernel
  exact ⟨fetched, gates, ((enforced_run quiet _ _ _ _ (by decide)).2 _ _ fetched).1 _ 0⟩

end Traffic

end Tollgate
