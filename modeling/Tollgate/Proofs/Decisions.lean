import Tollgate.Proofs.Mocks
import Tollgate.Proofs.Scripts
import Tollgate.Proofs.Waiting

/-!
# What becomes of a request

Exactly one thing applies to a request that arrives at a mounted route: its client is
blocked, a mock is in force for it, its route is over the ceiling, or it is admitted, and
each only if nothing before it applies. What applies says all that happens: a blocked
client and a mock touch no gate and no limiter, a route over its ceiling counts the request
in and out and takes no token, and an admitted request takes one token, waits for it, and
runs its handler once between its scripts. A mock answers with its own status, whatever
rows were ever published, and after exactly its own delay, unless the time of its request
is up by then.
-/

namespace Tollgate

namespace Service

open Control (Counter Plane)
open Http (Mount Request Response)
open Policy (Gate Gates Mock)

-- ---------------------------------------------------------------------------
-- What applies

inductive Decision where
  | blocked (a : Address)
  | mocked (mock : Mock)
  | overLimit (a : Policy.Admission)
  /-- It has to wait so many nanoseconds for its token. -/
  | admitted (wait : Nat)

section Conditions

variable (s : Service) (m : Mount) (r : Request)

def Blocked (a : Address) : Prop :=
  Admission.clientAddress s.config.governance.trustForwardedFor r = some a ∧
    s.control.plane.blocked.blocks a

/-- There is a mock for the route, for all its requests or for those of this URL. -/
def InForce (mock : Mock) : Prop :=
  s.control.plane.mocks.lookup m.key = some mock ∧
    (mock.url = "" ∨ mock.url = r.uri.pathAndQuery)

def IsFull (g : Gate) : Prop :=
  0 < g.policy.ceiling ∧ g.policy.ceiling < g.increment.1

/-- What applies to a request that arrives, and nothing before it. -/
inductive Applies : Decision → Prop
  | blocked (a : Address) (is : s.Blocked r a) : Applies (.blocked a)
  | mocked (mock : Mock) (passes : ∀ a, ¬s.Blocked r a) (inForce : s.InForce m r mock) :
      Applies (.mocked mock)
  | overLimit (g : Gate) (passes : ∀ a, ¬s.Blocked r a) (unmocked : ∀ mock, ¬s.InForce m r mock)
      (gate : s.control.plane.gates.lookup m.key = some g) (full : IsFull g) :
      Applies (.overLimit ⟨g.increment.1, g.policy.ceiling⟩)
  | admitted (g : Gate) (passes : ∀ a, ¬s.Blocked r a) (unmocked : ∀ mock, ¬s.InForce m r mock)
      (gate : s.control.plane.gates.lookup m.key = some g) (within : ¬IsFull g) :
      Applies (.admitted (g.policy.limiter.take s.nanos).1)
  | ungoverned (passes : ∀ a, ¬s.Blocked r a) (unmocked : ∀ mock, ¬s.InForce m r mock)
      (gate : s.control.plane.gates.lookup m.key = none) : Applies (.admitted 0)

variable {s m r}

theorem blockedClient_eq_some {a : Address} :
    Admission.blockedClient s.control.plane s.config.governance.trustForwardedFor r = some a ↔
      s.Blocked r a := by
  rw [Admission.blockedClient, Option.filter_eq_some_iff, Blocked]

theorem answering_eq_some {mock : Mock} :
    s.control.plane.mocks.answering? m.key r.uri.pathAndQuery = some mock ↔
      s.InForce m r mock := by
  rw [Policy.Mocks.answering?, Option.filter_eq_some_iff, InForce, Mock.answers, Bool.or_eq_true,
    beq_iff_eq, beq_iff_eq]

theorem Applies.unique {d e : Decision} (h : s.Applies m r d) (h' : s.Applies m r e) : e = d := by
  cases h with
  | blocked a is =>
    cases h' with
    | blocked b is' => rw [Option.some.inj (is'.1.symm.trans is.1)]
    | mocked _ passes _ => exact absurd is (passes a)
    | overLimit _ passes _ _ _ => exact absurd is (passes a)
    | admitted _ passes _ _ _ => exact absurd is (passes a)
    | ungoverned passes _ _ => exact absurd is (passes a)
  | mocked mock passes inForce =>
    cases h' with
    | blocked a is => exact absurd is (passes a)
    | mocked _ _ inForce' => rw [Option.some.inj (inForce'.1.symm.trans inForce.1)]
    | overLimit _ _ unmocked _ _ => exact absurd inForce (unmocked mock)
    | admitted _ _ unmocked _ _ => exact absurd inForce (unmocked mock)
    | ungoverned _ unmocked _ => exact absurd inForce (unmocked mock)
  | overLimit g passes unmocked gate full =>
    cases h' with
    | blocked a is => exact absurd is (passes a)
    | mocked mock _ inForce => exact absurd inForce (unmocked mock)
    | overLimit g' _ _ gate' _ => rw [Option.some.inj (gate'.symm.trans gate)]
    | admitted g' _ _ gate' within =>
      exact absurd (Option.some.inj (gate.symm.trans gate') ▸ full) within
    | ungoverned _ _ none => cases gate.symm.trans none
  | admitted g passes unmocked gate within =>
    cases h' with
    | blocked a is => exact absurd is (passes a)
    | mocked mock _ inForce => exact absurd inForce (unmocked mock)
    | overLimit g' _ _ gate' full =>
      exact absurd (Option.some.inj (gate'.symm.trans gate) ▸ full) within
    | admitted g' _ _ gate' _ => rw [Option.some.inj (gate'.symm.trans gate)]
    | ungoverned _ _ none => cases gate.symm.trans none
  | ungoverned passes unmocked none =>
    cases h' with
    | blocked a is => exact absurd is (passes a)
    | mocked mock _ inForce => exact absurd inForce (unmocked mock)
    | overLimit _ _ _ gate _ => cases gate.symm.trans none
    | admitted _ _ _ gate _ => cases gate.symm.trans none
    | ungoverned _ _ _ => rfl

end Conditions

-- ---------------------------------------------------------------------------
-- What happens

section Effects

def counting (s : Service) (k : Counter) : Service :=
  { s with control := s.control.count k }

def withGates (s : Service) (gates : Gates) : Service :=
  { s with control := s.control.withPlane (s.control.plane.withGates gates) }

/-- A gate after a request was counted in and out again. -/
def passed (g : Gate) : Gate :=
  g.increment.2.decrement

/-- A gate after a request was counted in and took one token. -/
def taken (now : Nat) (g : Gate) : Gate :=
  { g.increment.2 with policy := { g.policy with limiter := (g.policy.limiter.take now).2 } }

def Changes (route : Route.Key) (f : Gate → Gate) (before after : Gates) : Prop :=
  ∀ key, after.lookup key = (before.lookup key).map fun g => if key = route then f g else g

/-- What a mock answers: its body, exactly its status, and its content type if that can be
the value of a header. -/
structure AnswersAs (mock : Mock) (response : Response) : Prop where
  status : response.status = mock.status
  body : response.body = mock.response
  headers : response.headers =
    if Http.Headers.isValue mock.contentType then [("content-type", mock.contentType)] else []

/-- How a request under way goes on: not before its timer, and then as `next` says, unless
its time is up. In the foreground it goes on when the clock stands at the timer. -/
structure Waits (f : Flight) (next : Service → Job × Service → Prop) : Prop where
  still : ∀ u : Service, u.now < f.deadline.tick → u.now < f.timer.tick →
    u.resumeFlight f = (.flight f, u)
  done : ∀ u : Service, u.now < f.deadline.tick → f.timer.tick ≤ u.now → next u (u.resumeFlight f)
  late : ∀ u : Service, f.deadline.tick ≤ u.now →
    u.resumeFlight f = (timedOut f.request, u.dropFlight f)
  foreground : ∀ u : Service, u.now < f.timer.tick → f.timer.tick < f.deadline.tick →
    ∃ (v : Service) (result : Job × Service), v.now = f.timer.tick ∧ next v result ∧
      finish (.flight f, u) = conclude result

/-- A request that has its token runs its handler once and leaves with the response: at once,
or when the handling is over that lasts until then. -/
structure Served (u : Service) (m : Mount) (r : Request) (deadline : Timer)
    (result : Job × Service) : Prop where
  handling : ∃ response notes,
    Admission.Handling u.runner (fun r notes => (Admission.echo m r, notes)) u.control.plane m.key
      r u.notes (response, notes) ∧
    (u.runner.lasts r = 0 → result = (answered r response,
      { u with notes := notes, control := Admission.leaveGate u.control m })) ∧
    (u.runner.lasts r ≠ 0 → ∃ f : Flight,
      result = (.flight f, { u with notes := notes, serial := u.serial + 1 }) ∧
      f.stage = .handling response ∧ f.deadline = deadline ∧
      f.timer.tick = u.now + u.runner.lasts r ∧
      Waits f fun v result => result = (answered r response,
        { v with control := Admission.leaveGate v.control m }))

/-- A timer fires exactly so many seconds from now, or not before the deadline. -/
structure FiresAfter (now seconds : Nat) (timer deadline : Timer) : Prop where
  exact : now + seconds * 1000 < deadline.tick → timer.tick = now + seconds * 1000
  late : deadline.tick ≤ now + seconds * 1000 → deadline.tick ≤ timer.tick

variable (s : Service) (m : Mount) (r : Request) (deadline : Timer)

/-- What happens to a request to which a decision applies when it arrives, and what the
service is afterwards. Nothing else of the service changes. -/
def Happens (result : Job × Service) : Decision → Prop
  | .blocked a =>
    (Admission.blockedResponse a).status = 403 ∧
      result = (answered r (Admission.blockedResponse a), s.counting (.refused .blockedIp m.key))
  | .mocked mock =>
    ∃ response, AnswersAs mock response ∧
      (mock.delaySeconds = 0 → result = (answered r response, s.counting (.mocked m.key))) ∧
      (mock.delaySeconds ≠ 0 → ∃ f : Flight,
        result = (.flight f, { s with serial := s.serial + 1 }) ∧ f.deadline = deadline ∧
        f.timer.tick = tickAfterSeconds s.now mock.delaySeconds ∧
        FiresAfter s.now mock.delaySeconds f.timer deadline ∧
        Waits f fun u result => result = (answered r response, u.counting (.mocked m.key)))
  | .overLimit a =>
    (Admission.overLimitResponse m.key a).status = 429 ∧
    ∃ gates, Changes m.key passed s.control.plane.gates gates ∧
      result = (answered r (Admission.overLimitResponse m.key a),
        (s.withGates gates).counting (.refused .overLimit m.key))
  | .admitted wait =>
    ∃ gates, Changes m.key (taken s.nanos) s.control.plane.gates gates ∧
      (wait = 0 → Served (s.withGates gates) m r deadline result) ∧
      (wait ≠ 0 → ∃ f : Flight,
        result = (.flight f, { s.withGates gates with serial := s.serial + 1 }) ∧
        f.deadline = deadline ∧ f.timer.tick = Rate.tickAfter (s.nanos + wait) ∧
        Waits f fun u result => Served u m r deadline result)

end Effects

-- ---------------------------------------------------------------------------
-- Gates

section Gates

variable {gates : Gates} {route : Route.Key} {g : Gate}

theorem changes_none (f : Gate → Gate) (none : gates.lookup route = none) :
    Changes route f gates gates := by
  intro key
  by_cases same : key = route
  · rw [same, none]
    rfl
  · simp [same]

theorem Changes.release {f : Gate → Gate} {after : Gates} (h : Changes route f gates after) :
    Changes route (fun g => (f g).decrement) gates (after.release route) := by
  intro key
  rw [Policy.Gates.release, Policy.Gates.lookup_modify, h key, Option.map_map]
  refine congrArg (fun f => (gates.lookup key).map f) (funext fun g => ?_)
  by_cases same : key = route <;> simp [same]

theorem enter_found (found : gates.lookup route = some g) (now : Nat) {entry : Gate.Entry} {g' : Gate}
    (answers : g.increment.2.answer g.increment.1 now = (entry, g')) {f : Gate → Gate}
    (becomes : f g = g') :
    (gates.enter route now).1 = some entry ∧ Changes route f gates (gates.enter route now).2 := by
  rw [Policy.Gates.enter_of_some gates route now found, Policy.Gates.answer, Policy.Gates.countIn]
  refine ⟨?_, fun key => ?_⟩
  · rw [Policy.Gates.lookup_modify, found, Option.map_some, Option.map_some, if_pos rfl, answers]
  · rw [Policy.Gates.lookup_modify, Policy.Gates.lookup_modify, Option.map_map]
    by_cases same : key = route
    · subst same
      simp only [found, Option.map_some, Function.comp_apply, if_true, answers, becomes]
    · simp only [same, if_false]
      cases gates.lookup key <;> rfl

theorem isOverLimit_iff_isFull :
    Policy.Admission.isOverLimit ⟨g.increment.1, g.policy.ceiling⟩ = true ↔ IsFull g := by
  rw [Policy.Admission.isOverLimit, Bool.and_eq_true, decide_eq_true_eq, decide_eq_true_eq, IsFull]

theorem answer_of_full (full : IsFull g) (now : Nat) :
    g.increment.2.answer g.increment.1 now =
      (⟨⟨g.increment.1, g.policy.ceiling⟩, 0⟩, g.increment.2) :=
  Gate.answer_of_overLimit now (isOverLimit_iff_isFull.mpr full)

theorem answer_of_not_full (within : ¬IsFull g) (now : Nat) :
    g.increment.2.answer g.increment.1 now =
      (⟨⟨g.increment.1, g.policy.ceiling⟩, (g.policy.limiter.take now).1⟩, taken now g) := by
  have told : Policy.Admission.isOverLimit ⟨g.increment.1, g.increment.2.policy.ceiling⟩ ≠ true :=
    fun told => within (isOverLimit_iff_isFull.mp told)
  rw [Gate.answer, if_neg told]
  rfl

end Gates

-- ---------------------------------------------------------------------------
-- Arriving

section Arriving

variable {s : Service} {m : Mount} {r : Request}

theorem answersAs_mockResponse {mock : Mock} (accepted : Mock.isStatus mock.status) :
    AnswersAs mock (Admission.mockResponse mock) where
  status := if_pos accepted
  body := rfl
  headers := rfl

theorem waits_goOn (f : Flight) {next : Service → Job × Service → Prop}
    (goesOn : ∀ u, next u (u.goOn f)) : Waits f next where
  still _ inTime before := resumeFlight_still inTime before
  done u inTime fired := by
    rw [resumeFlight_done inTime fired]
    exact goesOn u
  late _ late := resumeFlight_late late
  foreground u ahead inTime := by
    obtain ⟨v, now, finished⟩ := finish_flight inTime u ahead
    exact ⟨v, v.goOn f, now, goesOn v, finished⟩

theorem served_handled (u : Service) (m : Mount) (r : Request) (deadline : Timer) :
    Served u m r deadline (u.handled m r deadline) := by
  refine ⟨_, _, Admission.handling_runHandler .., fun atOnce => ?_, fun lasts => ?_⟩
  · simp only [handled, if_pos atOnce]
    rfl
  · simp only [handled, if_neg lasts]
    exact ⟨_, rfl, rfl, rfl, rfl, waits_goOn _ fun v => rfl⟩

/-- Nothing sleeps longer than a deadline that is set now, if not for its exact time. -/
theorem firesAfter_tickAfterSeconds (now seconds limit serial : Nat) {timer : Timer}
    (set : timer.tick = tickAfterSeconds now seconds) :
    FiresAfter now seconds timer ⟨tickAfterSeconds now limit, serial⟩ := by
  constructor
  · intro sooner
    rw [set]
    simp only [tickAfterSeconds] at sooner ⊢
    omega
  · intro later
    rw [set]
    simp only [tickAfterSeconds] at later ⊢
    omega

theorem blockedClient_eq_none :
    Admission.blockedClient s.control.plane s.config.governance.trustForwardedFor r = none ↔
      ∀ a, ¬s.Blocked r a := by
  simp only [Option.eq_none_iff_forall_ne_some, ne_eq, blockedClient_eq_some]

theorem answering_eq_none :
    s.control.plane.mocks.answering? m.key r.uri.pathAndQuery = none ↔
      ∀ mock, ¬s.InForce m r mock := by
  simp only [Option.eq_none_iff_forall_ne_some, ne_eq, answering_eq_some]

theorem exists_applies (s : Service) (m : Mount) (r : Request) : ∃ d, s.Applies m r d := by
  cases client : Admission.blockedClient s.control.plane s.config.governance.trustForwardedFor r with
  | some a => exact ⟨_, .blocked a (blockedClient_eq_some.mp client)⟩
  | none =>
    have passes := blockedClient_eq_none.mp client
    cases answering : s.control.plane.mocks.answering? m.key r.uri.pathAndQuery with
    | some mock => exact ⟨_, .mocked mock passes (answering_eq_some.mp answering)⟩
    | none =>
      have unmocked := answering_eq_none.mp answering
      cases gate : s.control.plane.gates.lookup m.key with
      | none => exact ⟨_, .ungoverned passes unmocked gate⟩
      | some g =>
        by_cases full : IsFull g
        · exact ⟨_, .overLimit g passes unmocked gate full⟩
        · exact ⟨_, .admitted g passes unmocked gate full⟩

theorem judge_of_unmocked (passes : ∀ a, ¬s.Blocked r a) (unmocked : ∀ mock, ¬s.InForce m r mock) :
    Admission.judge s.control s.config.governance.trustForwardedFor m r s.nanos =
      Admission.enterGate s.control m s.nanos := by
  rw [Admission.judge, blockedClient_eq_none.mpr passes, answering_eq_none.mpr unmocked]

theorem happens_admitted (deadline : Timer) {wait : Nat} {gates : Gates}
    (changes : Changes m.key (taken s.nanos) s.control.plane.gates gates)
    (judged : Admission.judge s.control s.config.governance.trustForwardedFor m r s.nanos =
      (.admitted wait, (s.withGates gates).control)) :
    s.Happens m r deadline (s.arrive m r deadline) (.admitted wait) := by
  refine ⟨gates, changes, fun now => ?_, fun later => ?_⟩
  · simp only [arrive, judged, if_pos now]
    exact served_handled _ m r deadline
  · simp only [arrive, judged, if_neg later]
    exact ⟨_, rfl, rfl, rfl, waits_goOn _ fun u => served_handled u m r deadline⟩

theorem happens_arrive (published : s.control.plane.mocks.Published) (limit serial : Nat)
    {d : Decision} (h : s.Applies m r d) :
    let deadline : Timer := ⟨tickAfterSeconds s.now limit, serial⟩
    s.Happens m r deadline (s.arrive m r deadline) d := by
  intro deadline
  cases h with
  | blocked a is =>
    refine ⟨rfl, ?_⟩
    simp only [arrive, Admission.judge, blockedClient_eq_some.mpr is]
    rfl
  | mocked mock passes inForce =>
    have accepted := published.isStatus inForce.1
    refine ⟨_, answersAs_mockResponse accepted, fun now => ?_, fun later => ?_⟩
    · simp only [arrive, Admission.judge, blockedClient_eq_none.mpr passes,
        answering_eq_some.mpr inForce, if_pos now]
      rfl
    · simp only [arrive, Admission.judge, blockedClient_eq_none.mpr passes,
        answering_eq_some.mpr inForce, if_neg later]
      exact ⟨_, rfl, rfl, rfl, firesAfter_tickAfterSeconds _ _ limit serial rfl,
        waits_goOn _ fun u => rfl⟩
  | overLimit g passes unmocked gate full =>
    have entered := enter_found gate s.nanos (answer_of_full full s.nanos) (f := fun g => g.increment.2) rfl
    refine ⟨rfl, _, entered.2.release, ?_⟩
    simp only [arrive, judge_of_unmocked passes unmocked, Admission.enterGate, entered.1,
      isOverLimit_iff_isFull.mpr full, if_true]
    rfl
  | admitted g passes unmocked gate within =>
    have entered := enter_found gate s.nanos (answer_of_not_full within s.nanos) rfl
    refine happens_admitted deadline entered.2 ?_
    have told := mt isOverLimit_iff_isFull.mp within
    simp only [judge_of_unmocked passes unmocked, Admission.enterGate, entered.1, if_neg told]
    rfl
  | ungoverned passes unmocked gate =>
    refine happens_admitted deadline (changes_none _ gate) ?_
    simp only [judge_of_unmocked passes unmocked, Admission.enterGate,
      Policy.Gates.enter_of_none _ _ _ gate]
    rfl

end Arriving

-- ---------------------------------------------------------------------------
-- All of it

def xRoute : Mount :=
  ⟨⟨"GET /x"⟩, "GET", "/x", [.literal ['x']]⟩

def xRequest : Request :=
  ⟨"GET", ⟨none, "", "/x", none⟩, [], none⟩

end Service

end Tollgate
