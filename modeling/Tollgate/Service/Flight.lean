import Tollgate.Service.State

/-!
# Requests under way

A request gets its identifier, its time limit, and its route; then the passage
decides on it. It may have to wait, for a mock's delay or for its token, and its
handling may last. When it goes on, the time limit is looked at first: a request whose
time is up is answered so, whatever else is ready, and gives back what it holds.
-/

namespace Tollgate.Service

open Admission (Verdict)
open Http (Mount Request Response)

/-- The request with its identifier: its own, or a fresh one. -/
def identified (s : Service) (r : Request) : String × Request :=
  match r.headers.get? Http.requestIdHeader with
  | some id => (id, r)
  | none =>
    let id := s.surroundings.freshId
    (id, { r with headers := r.headers ++ [(Http.requestIdHeader, id)] })

/-- The response as it leaves: it carries the identifier of its request. -/
def sealed (r : Request) (response : Response) : Response :=
  match r.headers.get? Http.requestIdHeader, response.headers.get? Http.requestIdHeader with
  | some id, none =>
    { response with headers := response.headers ++ [(Http.requestIdHeader, id)] }
  | _, _ => response

def timedOut (r : Request) : Job :=
  .answered (sealed r (.bare 408))

def answered (r : Request) (response : Response) : Job :=
  .answered (sealed r (response.answering r.method))

/-- Answers a request whose handling is over; it gives its place back. -/
def served (s : Service) (m : Mount) (r : Request) (response : Response) : Job × Service :=
  (answered r response, { s with control := Admission.leaveGate s.control m })

/-- Handles a request that has its token. As long as that lasts it keeps its place. -/
def handled (s : Service) (m : Mount) (r : Request) (deadline : Timer) : Job × Service :=
  let (response, notes) :=
    Admission.runHandler s.runner (fun r notes => (Admission.echo m r, notes)) s.control.plane m.key
      r s.notes
  let s := { s with notes := notes }
  if s.runner.lasts r = 0 then s.served m r response
  else
    let (timer, s) := s.setTimer (s.now + s.runner.lasts r)
    (.flight ⟨m, r, .handling response, timer, deadline⟩, s)

def mocked (s : Service) (m : Mount) (r : Request) (mock : Policy.Mock) : Job × Service :=
  let (response, control) := Admission.answerMock s.control m mock
  (answered r response, { s with control := control })

def arrive (s : Service) (m : Mount) (r : Request) (deadline : Timer) : Job × Service :=
  let (verdict, control) :=
    Admission.judge s.control s.config.governance.trustForwardedFor m r s.nanos
  let s := { s with control := control }
  match verdict with
  | .refused response => (answered r response, s)
  | .mocked mock =>
    if mock.delaySeconds = 0 then s.mocked m r mock
    else
      let (timer, s) := s.setTimer (tickAfterSeconds s.now mock.delaySeconds)
      (.flight ⟨m, r, .mocking mock, timer, deadline⟩, s)
  | .admitted wait =>
    if wait = 0 then s.handled m r deadline
    else
      let (timer, s) := s.setTimer (Rate.tickAfter (s.nanos + wait))
      (.flight ⟨m, r, .entering, timer, deadline⟩, s)

def startRequest (s : Service) (router : Http.Router) (r : Request) : Job × Service :=
  let (_, r) := s.identified r
  let (deadline, s) := s.setTimer (tickAfterSeconds s.now s.config.timeouts.requestSecs)
  if deadline.tick ≤ s.now then (timedOut r, s)
  else
    match router.dispatch r.method r.uri.path with
    | .notFound => (answered r (.bare 404), s)
    | .methodNotAllowed allow =>
      (answered r { Response.bare 405 with headers := [("allow", allow)] }, s)
    | .found m => s.arrive m r deadline

/-- A request under way gives back what it holds. -/
def dropFlight (s : Service) (f : Flight) : Service :=
  match f.stage with
  | .mocking _ => s
  | .entering => { s with control := Admission.leaveGate s.control f.mount }
  | .handling _ => { s with control := Admission.leaveGate s.control f.mount }

def resumeFlight (s : Service) (f : Flight) : Job × Service :=
  if f.deadline.tick ≤ s.now then (timedOut f.request, s.dropFlight f)
  else if f.timer.tick ≤ s.now then
    match f.stage with
    | .mocking mock => s.mocked f.mount f.request mock
    | .entering => s.handled f.mount f.request f.deadline
    | .handling response => s.served f.mount f.request response
  else (.flight f, s)

end Tollgate.Service
