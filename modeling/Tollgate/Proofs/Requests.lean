import Tollgate.Proofs.Gates
import Tollgate.Service.Schedule

/-!
# Requests at their gates

A request that starts asks the gate of its route unless its time is up, no route is
found, or it is blocked or mocked. It leaves the gate at once, or it stays there, for its
token and for its handling. A request that goes on either waits further or ends, and when
it ends in any way it gives back the place that it held. Nothing else of the plane changes.
-/

namespace Tollgate

open Control (Plane)
open Http (Mount Request Router)
open Policy (Gates)

-- ---------------------------------------------------------------------------
-- Places

def Service.Flight.route? (f : Service.Flight) : Option Route.Key :=
  match f.stage with
  | .mocking _ => none
  | .entering => some f.mount.key
  | .handling _ => some f.mount.key

def Service.Job.route? : Service.Job → Option Route.Key
  | .flight f => f.route?
  | _ => none

def Control.Plane.withGates (p : Plane) (gates : Gates) : Plane :=
  { p with gates := gates }

namespace Service

theorem dropHeld_plane (s : Service) (h : Held) :
    (s.dropHeld h).control.plane =
      s.control.plane.withGates (s.control.plane.gates.leave h.route) := by
  cases held : h.route with
  | none =>
    simp only [dropHeld, held]
    rfl
  | some route =>
    simp only [dropHeld, held]
    rfl

theorem dropFlight_plane (s : Service) (f : Flight) :
    (s.dropFlight f).control.plane =
      s.control.plane.withGates (s.control.plane.gates.leave f.route?) := by
  cases stage : f.stage with
  | mocking mock =>
    simp only [dropFlight, Flight.route?, stage]
    rfl
  | entering =>
    simp only [dropFlight, Flight.route?, stage]
    rfl
  | handling response =>
    simp only [dropFlight, Flight.route?, stage]
    rfl

-- ---------------------------------------------------------------------------
-- Going on

theorem handled_cases (s : Service) (m : Mount) (r : Request) (deadline : Timer) :
    (∃ response, (s.handled m r deadline).1 = .answered response ∧
      (s.handled m r deadline).2.control = Admission.leaveGate s.control m) ∨
    (∃ f, (s.handled m r deadline).1 = .flight f ∧ f.mount = m ∧ f.route? = some m.key ∧
      f.deadline = deadline ∧ s.now < f.timer.tick ∧
      (s.handled m r deadline).2.control = s.control) := by
  simp only [handled]
  split
  next _ => exact .inl ⟨_, rfl, rfl⟩
  next lasts =>
    refine .inr ⟨_, rfl, rfl, rfl, rfl, ?_, rfl⟩
    exact Nat.lt_add_of_pos_right (Nat.pos_of_ne_zero lasts)

/-- What becomes of a request that goes on, and the plane before and after: it waits
further, or it ends and gives its place back. -/
inductive Resumed (p : Plane) (f : Flight) (job : Job) (q : Plane) : Prop
  | waits (f' : Flight) (flies : job = .flight f') (holds : f'.route? = f.route?) (plane : q = p)
  | ends (response : Http.Response) (answer : job = .answered response)
      (plane : q = p.withGates (p.gates.leave f.route?))

theorem resumeFlight_resumed (s : Service) (f : Flight) :
    Resumed s.control.plane f (s.resumeFlight f).1 (s.resumeFlight f).2.control.plane := by
  simp only [resumeFlight]
  split
  next _ => exact .ends _ rfl (dropFlight_plane s f)
  next _ =>
    split
    next _ =>
      split
      next mock stage =>
        have none : f.route? = none := by simp only [Flight.route?, stage]
        exact .ends _ rfl (by rw [none]; rfl)
      next stage =>
        have held : f.route? = some f.mount.key := by simp only [Flight.route?, stage]
        rcases s.handled_cases f.mount f.request f.deadline with
          ⟨response, answer, control⟩ | ⟨f', flies, -, holds, -, -, control⟩
        · exact .ends response answer (by rw [control, held]; rfl)
        · exact .waits f' flies (holds.trans held.symm) (congrArg Control.plane control)
      next response stage =>
        have held : f.route? = some f.mount.key := by simp only [Flight.route?, stage]
        exact .ends _ rfl (by rw [held]; rfl)
    next _ => exact .waits f rfl rfl rfl

-- ---------------------------------------------------------------------------
-- Starting

def asksGate (s : Service) (m : Mount) (r : Request) : Bool :=
  (Admission.blockedClient s.control.plane s.config.governance.trustForwardedFor r).isNone &&
    (s.control.plane.mocks.answering? m.key r.uri.pathAndQuery).isNone

def gateAsked? (s : Service) (router : Router) (r : Request) : Option Route.Key :=
  let (_, r) := s.identified r
  if tickAfterSeconds s.now s.config.timeouts.requestSecs ≤ s.now then none
  else
    match router.dispatch r.method r.uri.path with
    | .found m => if s.asksGate m r then some m.key else none
    | _ => none

/-- What becomes of a request that starts at a clock reading and asks a gate or none,
and the plane before and after. -/
inductive Started (p : Plane) (now : Nat) (asked : Option Route.Key) (job : Job) (q : Plane) :
    Prop
  | aside (asks : asked = none) (holds : job.route? = none) (plane : q = p)
  /-- It is counted in and out again: it is over the limit, or it is handled at once. -/
  | passed (route : Route.Key) (asks : asked = some route) (response : Http.Response)
      (answer : job = .answered response)
      (plane : q = p.withGates ((p.gates.enter route now).2.release route))
  /-- It is not over the limit, and it waits for its token or its handling lasts. -/
  | waits (route : Route.Key) (asks : asked = some route) (f : Flight) (flies : job = .flight f)
      (holds : f.route? = some route)
      (within : ∀ entry, (p.gates.enter route now).1 = some entry →
        entry.admission.isOverLimit = false)
      (plane : q = p.withGates (p.gates.enter route now).2)

theorem enterGate_cases (c : Control) (m : Mount) (now : Nat) :
    (∃ response, (Admission.enterGate c m now).1 = .refused response ∧
      (Admission.enterGate c m now).2.plane =
        c.plane.withGates ((c.plane.gates.enter m.key now).2.release m.key)) ∨
    (∃ wait, (Admission.enterGate c m now).1 = .admitted wait ∧
      (Admission.enterGate c m now).2.plane =
        c.plane.withGates (c.plane.gates.enter m.key now).2 ∧
      ∀ entry, (c.plane.gates.enter m.key now).1 = some entry →
        entry.admission.isOverLimit = false) := by
  simp only [Admission.enterGate]
  split
  next untold => exact .inr ⟨0, rfl, rfl, fun entry told => nomatch untold.symm.trans told⟩
  next entry told =>
    split
    next _ => exact .inl ⟨_, rfl, rfl⟩
    next within =>
      refine .inr ⟨entry.wait, rfl, rfl, fun entry' told' => ?_⟩
      obtain rfl := Option.some.inj (told.symm.trans told')
      exact Bool.not_eq_true _ ▸ within

theorem arrive_started (s : Service) (m : Mount) (r : Request) (deadline : Timer) :
    Started s.control.plane s.nanos (if s.asksGate m r then some m.key else none)
      (s.arrive m r deadline).1 (s.arrive m r deadline).2.control.plane := by
  cases blocked : Admission.blockedClient s.control.plane
      s.config.governance.trustForwardedFor r with
  | some a =>
    have asks : s.asksGate m r = false := by simp [asksGate, blocked]
    simp only [asks, arrive, Admission.judge, blocked]
    exact .aside rfl rfl rfl
  | none =>
    cases answering : s.control.plane.mocks.answering? m.key r.uri.pathAndQuery with
    | some mock =>
      have asks : s.asksGate m r = false := by simp [asksGate, answering]
      simp only [asks, arrive, Admission.judge, blocked, answering]
      by_cases delay : mock.delaySeconds = 0
      · rw [if_pos delay]
        exact .aside rfl rfl rfl
      · rw [if_neg delay]
        exact .aside rfl rfl rfl
    | none =>
      have asks : s.asksGate m r = true := by simp [asksGate, blocked, answering]
      simp only [asks, if_true, arrive, Admission.judge, blocked, answering]
      rcases enterGate_cases s.control m s.nanos with
        ⟨response, verdict, plane⟩ | ⟨wait, verdict, plane, within⟩
      · simp only [verdict]
        exact .passed m.key rfl _ rfl plane
      · simp only [verdict]
        by_cases immediate : wait = 0
        · rw [if_pos immediate]
          rcases handled_cases { s with control := (Admission.enterGate s.control m s.nanos).2 } m r
              deadline with ⟨response, answer, control⟩ | ⟨f, flies, -, holds, -, -, control⟩
          · refine .passed m.key rfl response answer ?_
            rw [control, Admission.leaveGate, plane]
            rfl
          · exact .waits m.key rfl f flies holds within ((congrArg Control.plane control).trans plane)
        · rw [if_neg immediate]
          exact .waits m.key rfl _ rfl rfl within plane

theorem startRequest_started (s : Service) (router : Router) (r : Request) :
    Started s.control.plane s.nanos (s.gateAsked? router r) (s.startRequest router r).1
      (s.startRequest router r).2.control.plane := by
  simp only [startRequest, gateAsked?]
  by_cases late : tickAfterSeconds s.now s.config.timeouts.requestSecs ≤ s.now
  · have timer : (s.setTimer (tickAfterSeconds s.now s.config.timeouts.requestSecs)).1.tick ≤
        (s.setTimer (tickAfterSeconds s.now s.config.timeouts.requestSecs)).2.now := late
    rw [if_pos late, if_pos timer]
    exact .aside rfl rfl rfl
  · have timer : ¬(s.setTimer (tickAfterSeconds s.now s.config.timeouts.requestSecs)).1.tick ≤
        (s.setTimer (tickAfterSeconds s.now s.config.timeouts.requestSecs)).2.now := late
    rw [if_neg late, if_neg timer]
    cases router.dispatch (s.identified r).2.method (s.identified r).2.uri.path with
    | notFound => exact .aside rfl rfl rfl
    | methodNotAllowed _ => exact .aside rfl rfl rfl
    | found m => exact arrive_started { s with serial := s.serial + 1 } m (s.identified r).2 _

end Service

end Tollgate
