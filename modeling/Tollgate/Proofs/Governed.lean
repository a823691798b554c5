import Tollgate.Proofs.Decisions
import Tollgate.Proofs.Mounting
import Tollgate.Proofs.Newest
import Tollgate.Proofs.Routing

/-!
# No request escapes its gate

The gates of a service are made for the same keys as its mounted routes, and no event takes
one away. So a request that goes to a mounted route passes the gate of exactly this route:
what becomes of it depends on the gate, the mock and the scripts of its own key and on none
of another, and it changes no other gate. A request that no mounted route is for leaves
everything as it was.
-/

namespace Tollgate

open Control (Plane)
open Http (Mount Request Response Router)
open Policy (Gate Gates)

-- ---------------------------------------------------------------------------
-- Gates by their keys

namespace Policy.Gates

theorem routes_modify (gates : Gates) (route : Route.Key) (f : Gate → Gate) :
    (gates.modify route f).routes = gates.routes := by
  rw [modify_eq_map]
  simp [routes]

theorem routes_update (gates : Gates) (route : Route.Key) (now : Nat) (spec : GateSpec) :
    (gates.update route now spec).routes = gates.routes := by
  unfold update
  exact routes_modify gates route _

theorem routes_reset (gates : Gates) (route : Route.Key) :
    (gates.reset route).routes = gates.routes := by
  unfold reset
  exact routes_modify gates route _

section Other

variable (gates : Gates) {route key : Route.Key} (other : key ≠ route)

include other

theorem lookup_release_other : (gates.release route).lookup key = gates.lookup key := by
  rw [release, lookup_modify]
  simp [other]

theorem lookup_enter_other (now : Nat) :
    (gates.enter route now).2.lookup key = gates.lookup key := by
  cases found : gates.lookup route with
  | none => rw [enter_of_none gates route now found]
  | some g =>
    rw [enter_of_some gates route now found, answer, lookup_modify, countIn, lookup_modify]
    simp [other]

end Other

theorem enter_congr {gates gates' : Gates} {route : Route.Key}
    (same : gates'.lookup route = gates.lookup route) (now : Nat) :
    (gates'.enter route now).1 = (gates.enter route now).1 ∧
      (gates'.enter route now).2.lookup route = (gates.enter route now).2.lookup route := by
  cases found : gates.lookup route with
  | none =>
    rw [found] at same
    rw [enter_of_none gates route now found, enter_of_none gates' route now same]
    exact ⟨rfl, same.trans found.symm⟩
  | some g =>
    rw [found] at same
    rw [enter_of_some gates route now found, enter_of_some gates' route now same]
    simp [answer, countIn, lookup_modify, found, same]

theorem release_congr {gates gates' : Gates} {route : Route.Key}
    (same : gates'.lookup route = gates.lookup route) :
    (gates'.release route).lookup route = (gates.release route).lookup route := by
  rw [release, lookup_modify, release, lookup_modify, same]

end Policy.Gates

-- ---------------------------------------------------------------------------
-- Runs

namespace Traffic

open Policy (Mocks)

theorem routes_of_samePolicy {t u : Traffic} (same : t.plane.SamePolicy u.plane) :
    u.gates.routes = t.gates.routes :=
  Policy.Gates.routes_congr (congrArg Control.Enforced.gates same.enforced)

theorem routes_step (t : Traffic) (e : Event) : (t.step e).gates.routes = t.gates.routes := by
  cases e with
  | endCycle fetched =>
    simp only [step]
    split
    next _ =>
      cases fetched with
      | error _ => rfl
      | ok rows =>
        have published := t.plane_endCycle (.ok rows)
        simp only [gates, published, Plane.publish_gates, Policy.Gates.routes_apply]
    next _ => rfl
  | update route spec => exact Policy.Gates.routes_update t.gates route _ spec
  | reset route => exact Policy.Gates.routes_reset t.gates route
  | apply batch => exact Policy.Gates.routes_apply t.gates _ batch
  | _ => exact routes_of_samePolicy ((t.step_moved _).samePolicy rfl (by simp))

theorem routes_run (t : Traffic) (es : List Event) : (t.run es).gates.routes = t.gates.routes := by
  induction es generalizing t with
  | nil => rfl
  | cons e es ih => exact (ih (t.step e)).trans (t.routes_step e)

theorem published_step {t : Traffic} (h : t.plane.mocks.Published) (e : Event) :
    (t.step e).plane.mocks.Published := by
  by_cases fetches : ∃ fetched, e = .endCycle fetched
  · obtain ⟨fetched, rfl⟩ := fetches
    simp only [step]
    split
    next _ =>
      rw [plane_endCycle]
      cases fetched with
      | error _ => exact h
      | ok rows => exact ⟨_, by simp only [Plane.publish_plane]; rfl⟩
    next _ => exact h
  · obtain ⟨gates, limits, plane⟩ := (t.step_moved e).plane_eq fun fetched same =>
      fetches ⟨fetched, same⟩
    rw [plane]
    exact h

theorem published_run {t : Traffic} (h : t.plane.mocks.Published) (es : List Event) :
    (t.run es).plane.mocks.Published := by
  induction es generalizing t with
  | nil => exact h
  | cons e es ih => exact ih (published_step h e)

end Traffic

namespace Service

open Admission (Verdict)

-- ---------------------------------------------------------------------------
-- One route alone

/-- Two services agree on all that a request to one route looks at. They may differ in the
gates, mocks and scripts of all other routes, and in everything else. -/
structure AgreeAt (key : Route.Key) (s t : Service) : Prop where
  config : t.config = s.config
  surroundings : t.surroundings = s.surroundings
  runner : t.runner = s.runner
  notes : t.notes = s.notes
  now : t.now = s.now
  serial : t.serial = s.serial
  blocked : t.control.plane.blocked = s.control.plane.blocked
  gate : t.control.plane.gates.lookup key = s.control.plane.gates.lookup key
  mock : t.control.plane.mocks.lookup key = s.control.plane.mocks.lookup key
  scripts : t.control.plane.interceptors.lookup key = s.control.plane.interceptors.lookup key

structure SameFor (key : Route.Key) (x y : Job × Service) : Prop where
  job : y.1 = x.1
  agree : AgreeAt key x.2 y.2

variable {s t : Service} {m : Mount}

theorem AgreeAt.leaveGate (h : AgreeAt m.key s t) :
    AgreeAt m.key { s with control := Admission.leaveGate s.control m }
      { t with control := Admission.leaveGate t.control m } :=
  { h with gate := Policy.Gates.release_congr h.gate }

theorem AgreeAt.noted {key : Route.Key} (h : AgreeAt key s t) (notes : List Admission.ScriptNote) :
    AgreeAt key { s with notes := notes } { t with notes := notes } :=
  { h with notes := rfl }

theorem AgreeAt.served (h : AgreeAt m.key s t) (r : Request) (response : Response) :
    SameFor m.key (s.served m r response) (t.served m r response) :=
  ⟨rfl, h.leaveGate⟩

theorem AgreeAt.mocked (h : AgreeAt m.key s t) (r : Request) (mock : Policy.Mock) :
    SameFor m.key (s.mocked m r mock) (t.mocked m r mock) :=
  ⟨rfl, { h with }⟩

theorem AgreeAt.nanos_eq {key : Route.Key} (h : AgreeAt key s t) : t.nanos = s.nanos := by
  unfold Service.nanos
  rw [h.now]

theorem AgreeAt.setTimer {key : Route.Key} (h : AgreeAt key s t) {tick tick' : Nat}
    (same : tick' = tick) :
    (t.setTimer tick').1 = (s.setTimer tick).1 ∧
      AgreeAt key (s.setTimer tick).2 (t.setTimer tick').2 := by
  simp only [Service.setTimer, h.serial, same, true_and]
  exact { h with serial := rfl }

theorem AgreeAt.flight {key : Route.Key} (h : AgreeAt key s t) {tick tick' : Nat}
    (same : tick' = tick) (flight : Timer → Flight) :
    SameFor key (.flight (flight (s.setTimer tick).1), (s.setTimer tick).2)
      (.flight (flight (t.setTimer tick').1), (t.setTimer tick').2) := by
  obtain ⟨timer, later⟩ := h.setTimer same
  exact ⟨by rw [timer], later⟩

theorem AgreeAt.handled (h : AgreeAt m.key s t) (r : Request) (deadline : Timer) :
    SameFor m.key (s.handled m r deadline) (t.handled m r deadline) := by
  have same : Admission.runHandler t.runner (fun r notes => (Admission.echo m r, notes))
      t.control.plane m.key r t.notes =
      Admission.runHandler s.runner (fun r notes => (Admission.echo m r, notes))
        s.control.plane m.key r s.notes := by
    simp only [Admission.runHandler, h.runner, h.notes, h.scripts]
  have lasts : t.runner.lasts r = s.runner.lasts r := by rw [h.runner]
  unfold Service.handled
  rw [same]
  dsimp only
  rw [lasts]
  split
  next _ => exact (h.noted _).served r _
  next _ =>
    exact (h.noted _).flight (by rw [h.now]) fun timer => ⟨m, r, .handling _, timer, deadline⟩

theorem AgreeAt.enterGate (h : AgreeAt m.key s t) :
    (Admission.enterGate t.control m t.nanos).1 = (Admission.enterGate s.control m s.nanos).1 ∧
      AgreeAt m.key { s with control := (Admission.enterGate s.control m s.nanos).2 }
        { t with control := (Admission.enterGate t.control m t.nanos).2 } := by
  obtain ⟨told, left⟩ := Policy.Gates.enter_congr h.gate s.nanos
  rw [h.nanos_eq]
  unfold Admission.enterGate
  simp only [told]
  cases (s.control.plane.gates.enter m.key s.nanos).1 with
  | none => exact ⟨rfl, { h with gate := left }⟩
  | some entry =>
    by_cases exceeds : entry.admission.isOverLimit
    · simp only [exceeds, if_true, true_and]
      exact { h with gate := Policy.Gates.release_congr left }
    · simp only [exceeds, Bool.false_eq_true, if_false, true_and]
      exact { h with gate := left }

theorem AgreeAt.judge (h : AgreeAt m.key s t) (r : Request) :
    (Admission.judge t.control t.config.governance.trustForwardedFor m r t.nanos).1 =
      (Admission.judge s.control s.config.governance.trustForwardedFor m r s.nanos).1 ∧
    AgreeAt m.key
      { s with
        control := (Admission.judge s.control s.config.governance.trustForwardedFor m r s.nanos).2 }
      { t with
        control :=
          (Admission.judge t.control t.config.governance.trustForwardedFor m r t.nanos).2 } := by
  have client : Admission.blockedClient t.control.plane t.config.governance.trustForwardedFor r =
      Admission.blockedClient s.control.plane s.config.governance.trustForwardedFor r := by
    simp only [Admission.blockedClient, h.config, h.blocked]
  have answering : t.control.plane.mocks.answering? m.key r.uri.pathAndQuery =
      s.control.plane.mocks.answering? m.key r.uri.pathAndQuery := by
    simp only [Policy.Mocks.answering?, h.mock]
  unfold Admission.judge
  rw [client, answering]
  cases Admission.blockedClient s.control.plane s.config.governance.trustForwardedFor r with
  | some a => exact ⟨rfl, { h with }⟩
  | none =>
    cases s.control.plane.mocks.answering? m.key r.uri.pathAndQuery with
    | some mock => exact ⟨rfl, h⟩
    | none => exact h.enterGate

theorem AgreeAt.arrive (h : AgreeAt m.key s t) (r : Request) (deadline : Timer) :
    SameFor m.key (s.arrive m r deadline) (t.arrive m r deadline) := by
  obtain ⟨verdict, judged⟩ := h.judge r
  simp only [Service.arrive, verdict]
  split
  next response _ => exact ⟨rfl, judged⟩
  next mock _ =>
    by_cases now : mock.delaySeconds = 0
    · simp only [if_pos now]
      exact judged.mocked r mock
    · simp only [if_neg now]
      exact judged.flight (by rw [h.now]) fun timer => ⟨m, r, .mocking mock, timer, deadline⟩
  next wait _ =>
    by_cases now : wait = 0
    · simp only [if_pos now]
      exact judged.handled r deadline
    · simp only [if_neg now]
      exact judged.flight (congrArg (fun nanos => Rate.tickAfter (nanos + wait)) h.nanos_eq)
        fun timer => ⟨m, r, .entering, timer, deadline⟩

theorem AgreeAt.dropFlight {f : Flight} (h : AgreeAt f.mount.key s t) :
    AgreeAt f.mount.key (s.dropFlight f) (t.dropFlight f) := by
  unfold Service.dropFlight
  split
  next _ _ => exact h
  next _ => exact h.leaveGate
  next _ _ => exact h.leaveGate

theorem AgreeAt.resumeFlight {f : Flight} (h : AgreeAt f.mount.key s t) :
    SameFor f.mount.key (s.resumeFlight f) (t.resumeFlight f) := by
  unfold Service.resumeFlight
  rw [h.now]
  by_cases late : f.deadline.tick ≤ s.now
  · simp only [if_pos late]
    exact ⟨rfl, h.dropFlight⟩
  · simp only [if_neg late]
    by_cases fired : f.timer.tick ≤ s.now
    · simp only [if_pos fired]
      split
      next mock _ => exact h.mocked f.request mock
      next _ => exact h.handled f.request f.deadline
      next response _ => exact h.served f.request response
    · simp only [if_neg fired]
      exact ⟨rfl, h⟩

theorem AgreeAt.startRequest {router : Router} {r : Request} (h : AgreeAt m.key s t)
    (found : router.dispatch (s.identified r).2.method (s.identified r).2.uri.path = .found m) :
    SameFor m.key (s.startRequest router r) (t.startRequest router r) := by
  have identified : t.identified r = s.identified r := by
    simp only [Service.identified, h.surroundings]
  have limit : tickAfterSeconds t.now t.config.timeouts.requestSecs =
      tickAfterSeconds s.now s.config.timeouts.requestSecs := by
    rw [h.now, h.config]
  obtain ⟨timer, started⟩ := h.setTimer limit
  unfold Service.startRequest
  simp only [identified, found]
  rw [timer, started.now]
  split
  next _ => exact ⟨rfl, started⟩
  next _ => exact started.arrive _ _

-- ---------------------------------------------------------------------------
-- Other routes

/-- Of all that a plane holds, at most the gate of one route changes. -/
structure OthersKept (key : Route.Key) (p q : Plane) : Prop where
  plane : q = p.withGates q.gates
  gates : ∀ other, other ≠ key → q.gates.lookup other = p.gates.lookup other

theorem OthersKept.refl (key : Route.Key) (p : Plane) : OthersKept key p p :=
  ⟨rfl, fun _ _ => rfl⟩

theorem OthersKept.leave (p : Plane) {key : Route.Key} {route? : Option Route.Key}
    (own : ∀ route, route? = some route → route = key) :
    OthersKept key p (p.withGates (p.gates.leave route?)) := by
  refine ⟨rfl, fun other differs => ?_⟩
  cases route? with
  | none => rfl
  | some route =>
    obtain rfl := own route rfl
    exact Policy.Gates.lookup_release_other p.gates differs

theorem identified_eq (s : Service) (r : Request) :
    (s.identified r).2.method = r.method ∧ (s.identified r).2.uri = r.uri := by
  unfold identified
  split
  next _ => exact ⟨rfl, rfl⟩
  next _ => exact ⟨rfl, rfl⟩

section Found

variable {router : Router} {r : Request} (found : router.dispatch r.method r.uri.path = .found m)

include found

theorem gateAsked?_eq_some {route : Route.Key} (h : s.gateAsked? router r = some route) :
    route = m.key := by
  obtain ⟨method, uri⟩ := s.identified_eq r
  unfold gateAsked? at h
  simp only [method, uri, found] at h
  obtain ⟨-, h⟩ := Option.ite_none_left_eq_some.mp h
  obtain ⟨-, h⟩ := Option.ite_none_right_eq_some.mp h
  exact (Option.some.inj h).symm

theorem othersKept_startRequest :
    OthersKept m.key s.control.plane (s.startRequest router r).2.control.plane := by
  cases s.startRequest_started router r with
  | aside _ _ plane => exact plane ▸ .refl _ _
  | passed route asks _ _ plane =>
    obtain rfl := gateAsked?_eq_some found asks
    rw [plane]
    refine ⟨rfl, fun other differs => ?_⟩
    exact (Policy.Gates.lookup_release_other _ differs).trans
      (Policy.Gates.lookup_enter_other _ differs s.nanos)
  | waits route asks _ _ _ _ plane =>
    obtain rfl := gateAsked?_eq_some found asks
    rw [plane]
    exact ⟨rfl, fun other differs => Policy.Gates.lookup_enter_other _ differs s.nanos⟩

end Found

theorem othersKept_resumeFlight (u : Service) (f : Flight) :
    OthersKept f.mount.key u.control.plane (u.resumeFlight f).2.control.plane := by
  cases u.resumeFlight_resumed f with
  | waits _ _ _ plane => exact plane ▸ .refl _ _
  | ends _ _ plane =>
    rw [plane]
    refine .leave _ fun route held => ?_
    unfold Flight.route? at held
    split at held
    next _ => cases held
    next _ => exact (Option.some.inj held).symm
    next _ => exact (Option.some.inj held).symm

theorem mount_of_handled {r : Request} {deadline : Timer} {f : Flight}
    (h : (s.handled m r deadline).1 = .flight f) : f.mount = m := by
  rcases s.handled_cases m r deadline with ⟨response, answer, -⟩ | ⟨f', flies, mount, -⟩
  · cases h.symm.trans answer
  · obtain rfl := Job.flight.inj (h.symm.trans flies)
    exact mount

theorem mount_of_resumeFlight {u : Service} {f f' : Flight}
    (h : (u.resumeFlight f).1 = .flight f') : f'.mount = f.mount := by
  rw [resumeFlight] at h
  split at h
  next _ => cases h
  next _ =>
    split at h
    next _ =>
      split at h
      next _ => cases h
      next _ => exact mount_of_handled h
      next _ => cases h
    next _ => exact congrArg Flight.mount (Job.flight.inj h).symm

theorem mount_of_arrive {r : Request} {deadline : Timer} {f : Flight}
    (h : (s.arrive m r deadline).1 = .flight f) : f.mount = m := by
  simp only [arrive] at h
  split at h
  next _ => cases h
  next _ =>
    split at h
    next _ => cases h
    next _ =>
      cases h
      rfl
  next _ =>
    split at h
    next _ => exact mount_of_handled h
    next _ =>
      cases h
      rfl

-- ---------------------------------------------------------------------------
-- Requests

def limit (s : Service) : Timer :=
  ⟨tickAfterSeconds s.now s.config.timeouts.requestSecs, s.serial⟩

def timing (s : Service) : Service :=
  { s with serial := s.serial + 1 }

/-- A request goes to a mounted route. What applies to it there says all that happens to it;
it is decided by what there is for this route alone, at once and for as long as the request
is under way, and no gate of another route changes. -/
structure PassesGate (s : Service) (router : Router) (m : Mount) (r : Request) : Prop where
  gate : ∃ g, s.control.plane.gates.lookup m.key = some g
  decided : ∃ d, s.timing.Applies m (s.identified r).2 d ∧
    (∀ e, s.timing.Applies m (s.identified r).2 e → e = d) ∧
    s.timing.Happens m (s.identified r).2 s.limit (s.startRequest router r) d
  /-- Only an admission at the gate leads to the handler. -/
  admission : ∀ wait, s.timing.Applies m (s.identified r).2 (.admitted wait) →
    ∃ g, s.control.plane.gates.lookup m.key = some g ∧ ¬IsFull g ∧
      wait = (g.policy.limiter.take s.nanos).1
  alone : ∀ t, AgreeAt m.key s t → SameFor m.key (s.startRequest router r) (t.startRequest router r)
  others : OthersKept m.key s.control.plane (s.startRequest router r).2.control.plane
  underWay : ∀ f, (s.startRequest router r).1 = .flight f → f.mount = m
  /-- So it is in every stage of a request that is under way to the route. -/
  goesOn : ∀ f : Flight, f.mount = m → ∀ u : Service,
    OthersKept m.key u.control.plane (u.resumeFlight f).2.control.plane ∧
      (∀ v, AgreeAt m.key u v → SameFor m.key (u.resumeFlight f) (v.resumeFlight f)) ∧
      ∀ f', (u.resumeFlight f).1 = .flight f' → f'.mount = m

inductive Routed (router : Router) (s : Service) (r : Request) : Prop
  /-- Its time is up at once. -/
  | late (up : s.limit.tick ≤ s.now)
      (result : s.startRequest router r = (timedOut (s.identified r).2, s.timing))
  /-- It goes to no mounted route, and nothing but a timer is touched. -/
  | unmounted (nowhere : ∀ m, router.dispatch r.method r.uri.path ≠ .found m) (response : Response)
      (status : response.status = 404 ∨ response.status = 405)
      (result : s.startRequest router r = (answered (s.identified r).2 response, s.timing))
  | mounted (m : Mount) (found : router.dispatch r.method r.uri.path = .found m)
      (mem : m ∈ router.mounts) (serves : m.Serves r.method r.uri.path)
      (passes : s.PassesGate router m r)

theorem startRequest_of_late {router : Router} {r : Request} (up : s.limit.tick ≤ s.now) :
    s.startRequest router r = (timedOut (s.identified r).2, s.timing) := by
  have up : (s.setTimer (tickAfterSeconds s.now s.config.timeouts.requestSecs)).1.tick ≤
      (s.setTimer (tickAfterSeconds s.now s.config.timeouts.requestSecs)).2.now := up
  simp only [startRequest, if_pos up]
  rfl

theorem startRequest_of_inTime {router : Router} {r : Request} (inTime : ¬s.limit.tick ≤ s.now) :
    s.startRequest router r =
      match router.dispatch r.method r.uri.path with
      | .notFound => (answered (s.identified r).2 (.bare 404), s.timing)
      | .methodNotAllowed allow =>
        (answered (s.identified r).2 { Response.bare 405 with headers := [("allow", allow)] },
          s.timing)
      | .found m => s.timing.arrive m (s.identified r).2 s.limit := by
  obtain ⟨method, uri⟩ := s.identified_eq r
  have inTime : ¬(s.setTimer (tickAfterSeconds s.now s.config.timeouts.requestSecs)).1.tick ≤
      (s.setTimer (tickAfterSeconds s.now s.config.timeouts.requestSecs)).2.now := inTime
  simp only [startRequest, if_neg inTime, method, uri]
  rfl

theorem passesGate_of_found {router : Router} {r : Request}
    (found : router.dispatch r.method r.uri.path = .found m) (inTime : ¬s.limit.tick ≤ s.now)
    (gate : ∃ g, s.control.plane.gates.lookup m.key = some g)
    (published : s.control.plane.mocks.Published) : s.PassesGate router m r := by
  have arrives : s.startRequest router r = s.timing.arrive m (s.identified r).2 s.limit := by
    rw [startRequest_of_inTime inTime, found]
  obtain ⟨d, applies⟩ := exists_applies s.timing m (s.identified r).2
  refine ⟨gate, ⟨d, applies, fun e other => applies.unique other, ?_⟩, fun wait admitted => ?_,
    fun t agree => ?_, othersKept_startRequest found, fun f flies => ?_, fun f own u => ?_⟩
  · rw [arrives]
    exact happens_arrive (s := s.timing) published s.config.timeouts.requestSecs s.serial applies
  · cases admitted with
    | admitted g _ _ own within => exact ⟨g, own, within, rfl⟩
    | ungoverned _ _ none =>
      obtain ⟨g, own⟩ := gate
      cases own.symm.trans none
  · obtain ⟨method, uri⟩ := s.identified_eq r
    exact agree.startRequest (by rw [method, uri, found])
  · rw [arrives] at flies
    exact mount_of_arrive flies
  · obtain rfl := own
    exact ⟨othersKept_resumeFlight u f, fun v agree => agree.resumeFlight,
      fun f' => mount_of_resumeFlight⟩

theorem routed {router : Router} (made : ∀ m ∈ router.mounts, m = .ofKey m.key)
    (gated : ∀ m ∈ router.mounts, ∃ g, s.control.plane.gates.lookup m.key = some g)
    (published : s.control.plane.mocks.Published) (r : Request) : s.Routed router r := by
  by_cases up : s.limit.tick ≤ s.now
  · exact .late up (startRequest_of_late up)
  · have inTime : s.startRequest router r = _ := startRequest_of_inTime up
    cases dispatched : router.dispatch r.method r.uri.path with
    | notFound =>
      rw [dispatched] at inTime
      exact .unmounted (by simp [dispatched]) _ (.inl rfl) inTime
    | methodNotAllowed allow =>
      rw [dispatched] at inTime
      exact .unmounted (by simp [dispatched]) _ (.inr rfl) inTime
    | found m =>
      obtain ⟨mem, serves⟩ := Router.serves_of_dispatch made dispatched
      exact .mounted m dispatched mem serves (passesGate_of_found dispatched up (gated m mem) published)

end Service

-- ---------------------------------------------------------------------------
-- Rows

namespace Control

open Policy

/-- After every refresh, what is in force for a route is what is decided about it by the rows
that are about its key. -/
def RowsGovern (c : Control) (key : Route.Key) : Prop :=
  ∀ now fetched, let p := (c.endCycle now (.ok fetched)).2.plane
    (∃ g spec?, p.gates.lookup key = some g ∧
      Decided GateSpec.assign? .routerConcurrency fetched key spec? ∧
      g.policy.rule = .ofSpec? spec?) ∧
    Decided Mock.assign? .router fetched key (p.mocks.lookup key) ∧
    Decided Interceptor.assign? .httpServerInterceptor fetched key (p.interceptors.lookup key)

theorem rowsGovern_of_gate {c : Control} {key : Route.Key} (faithful : c.plane.gates.Faithful)
    {g : Gate} (gate : c.plane.gates.lookup key = some g) : c.RowsGovern key := by
  intro now fetched
  have plane := c.endCycle_plane now (.ok fetched)
  have wins := newestWins_publish c.plane now fetched faithful
  have kept : ∃ g', (c.plane.publish now fetched).plane.gates.lookup key = some g' := by
    rw [Plane.publish_gates, Gates.lookup_apply, gate]
    exact ⟨_, rfl⟩
  obtain ⟨g', found⟩ := kept
  obtain ⟨spec?, decided, rule, -⟩ := wins.gates key g' found
  simp only [plane]
  exact ⟨⟨g', spec?, found, decided, rule⟩, (wins.mocks key _).mpr rfl,
    (wins.interceptors key _).mpr rfl⟩

end Control

namespace Traffic

/-- No request escapes the gate of its route. Of any configuration whose routes are mounted,
the router has them in their order, each under the key that its method and path spell. In
every state that a service with gates for these keys can come to, the rows that are about
the key of a mounted route govern it, and these are the ones whose router text spells it;
and every request either has no time, or goes to no mounted route and touches nothing, or
goes to a mounted route that is one for it and passes the gate of this route alone. -/
theorem requests_governed {c : Config} {router : Router}
    (mounted : Service.routerOf c = .ok router) :
    ∃ keys, c.routeKeys = .ok keys ∧
      List.Forall₂ Config.Route.MountedAs c.routes router.mounts ∧ Control.RoutesSpelled ∧
      ∀ (s₀ : Service) (defaults : List String) (center : Control.AlarmCenter) (es : List Event),
        let s := ((start s₀ keys defaults center).run es).service
        (∀ m ∈ router.mounts, s.control.RowsGovern m.key) ∧ ∀ r, s.Routed router r := by
  obtain ⟨keys, named, mounts, entries⟩ := Service.mounts_of_routerOf mounted
  refine ⟨keys, named, entries, ⟨Policy.GateSpec.spells_iff_of_assign?,
    Policy.Mock.spells_iff_of_assign?, Policy.Interceptor.spells_iff_of_assign?⟩,
    fun s₀ defaults center es => ?_⟩
  intro s
  have made : ∀ m ∈ router.mounts, m = .ofKey m.key ∧ m.key ∈ keys := by
    intro m mem
    rw [mounts] at mem
    obtain ⟨key, registered, rfl⟩ := List.mem_map.mp mem
    exact ⟨rfl, registered⟩
  have gated : ∀ m ∈ router.mounts, ∃ g, s.control.plane.gates.lookup m.key = some g := by
    intro m mem
    have registered := Policy.Gates.mem_routes_ofRoutes (made m mem).2
    have kept := (start s₀ keys defaults center).routes_run es
    exact Policy.Gates.mem_routes_iff.mp (kept ▸ registered)
  have faithful : s.control.plane.gates.Faithful :=
    faithful_run (t := start s₀ keys defaults center) (Policy.Gates.faithful_ofRoutes keys) es
  have published : s.control.plane.mocks.Published :=
    published_run (t := start s₀ keys defaults center) Policy.Mocks.published_nil es
  refine ⟨fun m mem => ?_, Service.routed (fun m mem => (made m mem).1) gated published⟩
  obtain ⟨g, gate⟩ := gated m mem
  exact Control.rowsGovern_of_gate faithful gate

def usersConfig : Config :=
  { Config.default with
    routes := [⟨"get", "/users/\x7bid\x7d"⟩, ⟨"DELETE", "/users/\x7bid\x7d"⟩] }

def getUser : Route.Key := ⟨"GET /users/\x7bid\x7d"⟩

def deleteUser : Route.Key := ⟨"DELETE /users/\x7bid\x7d"⟩

def usersRow : Policy.Row :=
  ⟨"users", .routerConcurrency, .enabled,
    "\x7b\"router\":\" Get  /users/\x7bid\x7d\",\"max\":2\x7d", ⟨0, 0⟩, ⟨9, 0⟩, ⟨0, 0⟩⟩

def headRequest : Request :=
  ⟨"HEAD", ⟨none, "", "/users/5", none⟩, [], none⟩

/-- A request for the head of a user is governed as one that gets the user. -/
theorem requests_governed_head :
    ∃ router, Service.routerOf usersConfig = .ok router ∧
      router.dispatch "HEAD" "/users/5" = .found (.ofKey getUser) ∧
      let s := ((start quiet [getUser, deleteUser] ["key"] (.ofCapacity "alarm" 1)).run
        [.beginCycle, .endCycle (.ok [usersRow])]).service
      s.Routed router headRequest ∧ s.PassesGate router (.ofKey getUser) headRequest ∧
        (s.control.plane.gates.lookup getUser).map (fun g => g.policy.ceiling) = some 2 ∧
        (s.control.plane.gates.lookup deleteUser).map (fun g => g.policy.ceiling) = some 0 := by
  have keysOf : usersConfig.routeKeys = .ok [getUser, deleteUser] :=
    Config.routeKeys_ok (by decide +kernel)
  have mounted : Service.routerOf usersConfig =
      .ok ⟨[getUser, deleteUser].map Mount.ofKey⟩ := by
    simp only [Service.routerOf, keysOf]
    rfl
  obtain ⟨keys, named, -, -, governed⟩ := requests_governed mounted
  obtain rfl : [getUser, deleteUser] = keys := Except.ok.inj (keysOf.symm.trans named)
  have dispatched : (⟨[getUser, deleteUser].map Mount.ofKey⟩ : Router).dispatch "HEAD" "/users/5" =
      .found (.ofKey getUser) := by
    decide +kernel
  refine ⟨_, mounted, dispatched, ?_⟩
  intro s
  obtain ⟨-, routed⟩ := governed quiet ["key"] (.ofCapacity "alarm" 1)
    [.beginCycle, .endCycle (.ok [usersRow])]
  refine ⟨routed headRequest, ?_, by decide +kernel, by decide +kernel⟩
  cases routed headRequest with
  | late up _ => exact absurd up (by decide +kernel)
  | unmounted nowhere _ _ _ => exact absurd dispatched (nowhere _)
  | mounted m found _ _ passes =>
    obtain rfl : Mount.ofKey getUser = m := Http.Dispatch.found.inj (dispatched.symm.trans found)
    exact passes

end Traffic

end Tollgate
