import Tollgate.Admission.Passage
import Tollgate.Config.Validation
import Tollgate.Control.Cycle
import Tollgate.Http.Router
import Tollgate.Store.Source

/-!
# The running service

The service is the control plane at work: requests, refreshes and admissions under
way, a clock, and timers. The clock counts ticks of a millisecond and stands still
while anything runs. Whatever waits is kept as data, so that what happens next
depends on the state alone.
-/

namespace Tollgate

namespace Service

open Control (RefreshError Report)
open Http (Mount Request Response)
open Policy (Mock)

/-- A timer that was set: the tick it fires at, and its place in the order of setting. -/
structure Timer where
  tick : Nat
  serial : Nat
  deriving DecidableEq, Repr

namespace Timer

/-- Timers fire in the order of their ticks, and of one tick in the order of setting. -/
def le (a b : Timer) : Bool :=
  a.tick < b.tick || (a.tick == b.tick && a.serial ≤ b.serial)

def first (a b : Timer) : Timer :=
  if a.le b then a else b

end Timer

/-- What a request under way waits for. -/
inductive Stage where
  /-- The delay of the mock that answers it. -/
  | mocking (m : Mock)
  /-- Its token; it holds a place at its gate. -/
  | entering
  /-- The end of its handling, which comes to a response; it still holds its place. -/
  | handling (response : Response)
  deriving DecidableEq, Repr

/-- A request under way. -/
structure Flight where
  mount : Mount
  request : Request
  stage : Stage
  /-- Ends the stage. -/
  timer : Timer
  /-- Ends the request. -/
  deadline : Timer
  deriving DecidableEq, Repr

/-- A place at a gate that someone holds. -/
structure Held where
  admission : Policy.Admission
  /-- The route whose count includes the place; none if the route has no gate. -/
  route : Option Route.Key
  deriving DecidableEq, Repr

/-- Something that was started, and its result once it has one. -/
inductive Job where
  | flight (f : Flight)
  | answered (r : Response)
  /-- A refresh whose fetch hangs. -/
  | cycle
  | refreshed (r : Except RefreshError Report)
  /-- An admission that waits for its token. -/
  | entry (h : Held) (timer : Timer)
  | entered (h : Held)

/-- What something in the background is kept under. -/
inductive JobId where
  | call (id : String)
  | entry (id : String)
  deriving DecidableEq, Repr

/-- Where a refresh loop stands. -/
inductive LoopPhase where
  /-- It waits for its ticker, a trigger, or the shutdown; `since` orders the waiters. -/
  | waiting (since : Nat)
  /-- The fetch of its cycle hangs. -/
  | cycling
  | finished
  deriving DecidableEq, Repr

/-- A refresh loop. -/
structure Loop where
  ticker : Timer
  /-- It was started before the shutdown and hears of it. -/
  hears : Bool
  phase : LoopPhase
  deriving DecidableEq, Repr

structure Surroundings where
  /-- The text that stands for moments of the real clock. -/
  stamp : String
  /-- The identifier of a request that brings none. -/
  freshId : String
  version : String
  deriving DecidableEq, Repr

end Service

/-- A running service. -/
structure Service where
  config : Config
  surroundings : Service.Surroundings
  router : Option Http.Router
  runner : Admission.ScriptRunner (List Admission.ScriptNote)
  notes : List Admission.ScriptNote
  control : Control
  source : Store.Source
  now : Nat
  serial : Nat
  jobs : List (Service.JobId × Service.Job)
  held : List (String × Service.Held)
  permits : List (String × Policy.Permit)
  /-- The refresh loops, last started first. -/
  loops : List Service.Loop
  /-- A trigger that no loop has taken up. -/
  triggered : Bool
  stopped : Bool

namespace Service

open Admission (ScriptNote ScriptRunner)
open Http (Router)
open Store (Source)

def nanos (s : Service) : Nat :=
  s.now * Rate.tickNanos

def setTimer (s : Service) (tick : Nat) : Timer × Service :=
  (⟨tick, s.serial⟩, { s with serial := s.serial + 1 })

/-- The last tick there is. -/
def lastTick : Nat := Nat.pow 2 64 - 3

/-- The seconds of the longest sleep: thirty years. -/
def farSeconds : Nat := 86400 * 365 * 30

/-- The tick at which a sleep of so many seconds ends. -/
def tickAfterSeconds (now seconds : Nat) : Nat :=
  min (now + min seconds farSeconds * 1000) lastTick

def ofControl (config : Config) (surroundings : Surroundings) (router : Option Router)
    (runner : ScriptRunner (List ScriptNote)) (control : Control) (source : Source) : Service :=
  { config, surroundings, router, runner, control, source
    notes := [], now := 0, serial := 0, jobs := [], held := [], permits := [], loops := []
    triggered := false, stopped := false }

end Service

end Tollgate
