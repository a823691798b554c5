import Tollgate.Admin.Api
import Tollgate.Service.Schedule

/-!
# What can be done to a running service

Each action runs to its end, waiting if it has to, and leaves everything in the
background where it waits. Places and permits are kept under names; a name that is
used again gives back what it kept, after the new one was obtained.
-/

namespace Tollgate.Service

open Control (RefreshError Report)
open Http (Request Response Router)
open Policy

inductive StartError where
  | invalid (violations : List Config.Violation)
  | noRoute (text : String)
  | unmountable (error : Http.MountError)
  deriving DecidableEq, Repr

-- ---------------------------------------------------------------------------
-- Starting

def controlOf (config : Config) : Except StartError Control :=
  match config.routeKeys with
  | .error text => .error (.noRoute text)
  | .ok keys =>
    .ok (.ofPlane (.ofRoutes keys config.signing.defaultKeys)
      (.ofCapacity config.governance.alarmGroup config.governance.alarmHistory))

def routerOf (config : Config) : Except StartError Router :=
  match config.routeKeys with
  | .error text => .error (.noRoute text)
  | .ok keys => (Router.ofKeys keys).mapError .unmountable

def validated (config : Config) : Except StartError Unit :=
  if config.isValid then .ok () else .error (.invalid config.violations)

-- ---------------------------------------------------------------------------
-- Requests

def request (s : Service) (router : Router) (r : Request) : Job × Service :=
  finish (s.startRequest router r)

/-- Keeps a job in the background, in place of one of the same name. -/
def keepJob (s : Service) (id : JobId) (job : Job) : Service :=
  let s := match s.jobs.lookup id with
    | some old => s.cancel old
    | none => s
  { s with jobs := put id job s.jobs }.settle

def requestInBackground (s : Service) (router : Router) (id : String) (r : Request) : Service :=
  let (job, s) := s.startRequest router r
  s.keepJob (.call id) job

/-- Takes the result of a background job, if it has one. -/
def join (s : Service) (id : JobId) : Option Job × Service :=
  match s.jobs.lookup id with
  | none => (none, s)
  | some job =>
    if isDone job then (some job, { s with jobs := erase id s.jobs }) else (none, s)

def abort (s : Service) (id : String) : Service :=
  [JobId.call id, JobId.entry id].foldl (fun s id =>
    match s.jobs.lookup id with
    | none => s
    | some job => { s.cancel job with jobs := erase id s.jobs }) s |>.settle

def adminRequest (s : Service) (r : Request) : Option Response × Service :=
  let settings : Admin.Settings :=
    ⟨s.config.admin.apiKey, s.config.refresh.intervalSecs, s.surroundings.version,
      s.surroundings.stamp⟩
  match Admin.reply settings s.control r with
  | .answer response => (some response, s.settle)
  | .refresh =>
    match finish s.startRefresh with
    | (.refreshed result, s) => (some (Admin.refreshResponse settings result), s)
    | (_, s) => (none, s)

def takeNotes (s : Service) : List Admission.ScriptNote × Service :=
  (s.notes, { s with notes := [] })

-- ---------------------------------------------------------------------------
-- Refreshes

def refresh (s : Service) : Option (Except RefreshError Report) × Service :=
  match finish s.startRefresh with
  | (.refreshed result, s) => (some result, s)
  | (_, s) => (none, s)

def refreshInBackground (s : Service) (id : String) : Service :=
  let (job, s) := s.startRefresh
  s.keepJob (.call id) job

def fetch (s : Service) : Option (Except Store.StoreError (List Row)) × Service :=
  let s := { s with source := s.source.beginFetch }
  (if s.source.hangs then none else some s.source.fetch, s.settle)

/-- Starts a refresh loop; its first tick comes after one interval. -/
def startLoop (s : Service) : Service :=
  let seconds := s.config.refresh.intervalSecs
  let (ticker, s) := s.setTimer (min (s.now + seconds * 1000) lastTick)
  let phase := if isPeriod seconds then LoopPhase.waiting ticker.serial else .finished
  { s with loops := ⟨ticker, !s.stopped, phase⟩ :: s.loops }.settle

def trigger (s : Service) : Service :=
  { s with triggered := true }.settle

def stop (s : Service) : Service :=
  { s with stopped := true }.settle

/-- Whether the loop last started has finished; none if none was started. -/
def loopFinished (s : Service) : Option Bool :=
  s.loops.head?.map fun l => l.phase == .finished

def withSource (s : Service) (f : Store.Source → Store.Source) : Service :=
  { s with source := f s.source }.settle

-- ---------------------------------------------------------------------------
-- Places at gates

def withPlane (s : Service) (f : Control.Plane → Control.Plane) : Service :=
  { s with control := { s.control with plane := f s.control.plane } }

def keepHeld (s : Service) (id : String) (h : Held) : Service :=
  let s := match s.held.lookup id with
    | some old => s.dropHeld old
    | none => s
  { s with held := put id h s.held }

/-- Admits to a route, waits for the token, and keeps the place under a name. -/
def enter (s : Service) (id : String) (route : Route.Key) : Option Admission × Service :=
  match finish (s.startEntry route) with
  | (.entered h, s) => (some h.admission, s.keepHeld id h)
  | (_, s) => (none, s)

def admitInBackground (s : Service) (id : String) (route : Route.Key) : Service :=
  let (job, s) := s.startEntry route
  s.keepJob (.entry id) job

/-- Takes over an admission that has its token, under the same name. -/
def joinAdmission (s : Service) (id : String) : Option Admission × Service :=
  match s.join (.entry id) with
  | (some (.entered h), s) => (some h.admission, s.keepHeld id h)
  | (_, s) => (none, s)

def release (s : Service) (id : String) : Bool × Service :=
  match s.held.lookup id with
  | none => (false, s)
  | some h => (true, { s.dropHeld h with held := erase id s.held })

/-- The counts of the place of a name, which stays taken from now on. -/
def intoCounts (s : Service) (id : String) : Option Admission × Service :=
  match s.held.lookup id with
  | none => (none, s)
  | some h => (some h.admission, { s with held := erase id s.held })

/-- Admits to a route and leaves the place taken. -/
def increment (s : Service) (route : Route.Key) : Option Admission × Service :=
  match finish (s.startEntry route) with
  | (.entered h, s) => (some h.admission, s)
  | (_, s) => (none, s)

def decrement (s : Service) (route : Route.Key) : Option Nat × Service :=
  let s := s.withPlane fun p => { p with gates := p.gates.release route }
  ((s.control.plane.gates.lookup route).map Gate.current, s)

/-- Applies a row to a route; false if it has no gate. -/
def updateGate (s : Service) (route : Route.Key) (spec : GateSpec) : Bool × Service :=
  ((s.control.plane.gates.lookup route).isSome,
    s.withPlane fun p => { p with gates := p.gates.update route s.nanos spec })

def resetGate (s : Service) (route : Route.Key) : Bool × Service :=
  ((s.control.plane.gates.lookup route).isSome,
    s.withPlane fun p => { p with gates := p.gates.reset route })

/-- Applies a batch to all gates; the routes of the batch without a gate, in order. -/
def applyGates (s : Service) (batch : List (Route.Key × GateSpec)) : List Route.Key × Service :=
  let table := batch.foldl
    (fun t (key, spec) => putSorted (fun a b : Route.Key => a.text < b.text) key spec t) []
  (s.control.plane.gates.unknown table,
    s.withPlane fun p => { p with gates := p.gates.apply s.nanos table })

-- ---------------------------------------------------------------------------
-- Other registries

def updateMocks (s : Service) (rows : List String) : Outcome × Service :=
  let (mocks, outcome) := Mocks.ofRows rows
  (outcome, s.withPlane fun p => { p with mocks := mocks })

def updateInterceptors (s : Service) (rows : List String) : Outcome × Service :=
  let (interceptors, outcome) := Interceptors.ofRows rows
  (outcome, s.withPlane fun p => { p with interceptors := interceptors })

def block (s : Service) (items : List String) : Outcome × Service :=
  let (list, outcome) := BlockList.ofItems items
  (outcome, s.withPlane fun p => { p with blocked := list })

def replaceLimits (s : Service) (limits : List RequestLimit) : Service :=
  s.withPlane fun p => { p with limits := p.limits.replace limits }

/-- Acquires a permit and keeps it under a name, if there is room. -/
def acquire (s : Service) (id name : String) : Except OverLimit Unit × Service :=
  let (result, limits) := s.control.plane.limits.acquire name
  let s := s.withPlane fun p => { p with limits := limits }
  match result with
  | .error refused => (.error refused, s)
  | .ok permit =>
    let s := match s.permits.lookup id with
      | some old => s.withPlane fun p => { p with limits := p.limits.release old }
      | none => s
    (.ok (), { s with permits := put id permit s.permits })

def releasePermit (s : Service) (id : String) : Bool × Service :=
  match s.permits.lookup id with
  | none => (false, s)
  | some permit =>
    let s := s.withPlane fun p => { p with limits := p.limits.release permit }
    (true, { s with permits := erase id s.permits })

def setClock (s : Service) (instant : Option Time.Instant) : Service :=
  s.withPlane fun p => { p with mockedTime := instant }

def takeNotices (s : Service) : List Control.Notice × Service :=
  (s.control.notices, { s with control := { s.control with notices := [] } })

end Tollgate.Service
