import Tollgate.Admission.Client
import Tollgate.Admission.Script
import Tollgate.Control.Cycle
import Tollgate.Http.Router

/-!
# The passage of a request

A request to a mounted route passes the block list, the mocks, and the gate of the
route, in this order, before its handler runs between the scripts of the route. The
first of them that decides ends the passage: blocked clients, mocked routes and
routes over their ceiling never reach the gate's limiter or the handler.
-/

namespace Tollgate.Admission

open Control (Counter Plane)
open Http (Mount Request Response)
open Policy (Mock)

def refusal (reason : Control.Refusal) (status : Nat) (message : String) : Response :=
  .json status (.table [("error", .text reason.name), ("message", .text message)])

def blockedResponse (a : Address) : Response :=
  refusal .blockedIp 403 ("client address " ++ a.text ++ " is blocked")

def overLimitResponse (route : Route.Key) (a : Policy.Admission) : Response :=
  refusal .overLimit 429
    ("route " ++ route.text ++ " is over its concurrency limit (" ++ Text.ofNat a.current ++
      " > " ++ Text.ofNat a.ceiling ++ ")")

/-- The status of a response; one that responses do not accept becomes 200. -/
def acceptedStatus (status : Nat) : Nat :=
  if Mock.isStatus status then status else 200

/-- The answer of a mock. A content type that cannot be a header value is left out. -/
def mockResponse (m : Mock) : Response :=
  let headers := if Http.Headers.isValue m.contentType then [("content-type", m.contentType)]
    else []
  ⟨acceptedStatus m.status, headers, m.response⟩

def echo (m : Mount) (r : Request) : Response :=
  let id := r.headers.readable? Http.requestIdHeader
  .json 200
    (.table
      [("method", .text r.method), ("route", .text m.pattern), ("uri", .text r.uri.text),
       ("request_id", .ofText? id)])

/-- What is decided when a request arrives. -/
inductive Verdict where
  /-- It is turned away; it holds nothing. -/
  | refused (r : Response)
  /-- A mock answers it after its delay; it holds nothing. -/
  | mocked (m : Mock)
  /-- It holds a place at its gate and has to wait for its token. -/
  | admitted (wait : Nat)
  deriving DecidableEq, Repr

def blockedClient (p : Plane) (trustForwarded : Bool) (r : Request) : Option Address :=
  (clientAddress trustForwarded r).filter p.blocked.blocks

/-- Lets a request that is neither blocked nor mocked in at the gate of its route. -/
def enterGate (c : Control) (m : Mount) (now : Nat) : Verdict × Control :=
  let (entry, gates) := c.plane.gates.enter m.key now
  let c := { c with plane := { c.plane with gates := gates } }
  match entry with
  | none => (.admitted 0, c)
  | some entry =>
    if entry.admission.isOverLimit then
      let c := { c with plane := { c.plane with gates := c.plane.gates.release m.key } }
      (.refused (overLimitResponse m.key entry.admission), c.count (.refused .overLimit m.key))
    else (.admitted entry.wait, c)

def judge (c : Control) (trustForwarded : Bool) (m : Mount) (r : Request) (now : Nat) :
    Verdict × Control :=
  match blockedClient c.plane trustForwarded r with
  | some a => (.refused (blockedResponse a), c.count (.refused .blockedIp m.key))
  | none =>
    match c.plane.mocks.answering? m.key r.uri.pathAndQuery with
    | some mock => (.mocked mock, c)
    | none => enterGate c m now

def answerMock (c : Control) (m : Mount) (mock : Mock) : Response × Control :=
  (mockResponse mock, c.count (.mocked m.key))

/-- Runs a script unless it is blank. It does not matter whether it fails. -/
def runScript (run : String → α → σ → Scripted α σ) (script : String) (a : α) (s : σ) : α × σ :=
  if Text.isBlankText script then (a, s)
  else
    let done := run script a s
    (done.value, done.state)

/-- A request that has its token runs its handler between the scripts of its route. -/
def runHandler (runner : ScriptRunner σ) (handler : Request → σ → Response × σ) (p : Plane)
    (route : Route.Key) (r : Request) (s : σ) : Response × σ :=
  match p.interceptors.lookup route with
  | none => handler r s
  | some scripts =>
    let (r, s) := runScript runner.before scripts.before r s
    let (response, s) := handler r s
    let (head, s) := runScript runner.after scripts.after response.head s
    (response.withHead head, s)

def leaveGate (c : Control) (m : Mount) : Control :=
  { c with plane := { c.plane with gates := c.plane.gates.release m.key } }

end Tollgate.Admission
