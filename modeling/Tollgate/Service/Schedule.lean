import Tollgate.Service.Flight

/-!
# The schedule

Everything that was started goes on when its timer fires or when what it waited for
has come. Timers fire in order; what is started in the foreground goes first. A
foreground job that has to wait moves the clock to the next timer, whoever set it,
until the job is done.
-/

namespace Tollgate.Service

open Control (RefreshError Report)

-- ---------------------------------------------------------------------------
-- Refreshes

def finishCycle (s : Service) : Except RefreshError Report × Service :=
  let (result, control) := s.control.endCycle s.nanos s.source.fetch
  (result, { s with control := control })

def startRefresh (s : Service) : Job × Service :=
  match s.control.beginCycle with
  | none => (.refreshed (.error .inProgress), s)
  | some control =>
    let s := { s with control := control, source := s.source.beginFetch }
    if s.source.hangs then (.cycle, s)
    else
      let (result, s) := s.finishCycle
      (.refreshed result, s)

-- ---------------------------------------------------------------------------
-- Admissions

def startEntry (s : Service) (route : Route.Key) : Job × Service :=
  let (entry, gates) := s.control.plane.gates.enter route s.nanos
  let s := { s with control := { s.control with plane := { s.control.plane with gates := gates } } }
  match entry with
  | none => (.entered ⟨.ungoverned, none⟩, s)
  | some entry =>
    let held : Held := ⟨entry.admission, some route⟩
    if entry.wait = 0 then (.entered held, s)
    else
      let (timer, s) := s.setTimer (Rate.tickAfter (s.nanos + entry.wait))
      (.entry held timer, s)

def dropHeld (s : Service) (h : Held) : Service :=
  match h.route with
  | none => s
  | some route =>
    let gates := s.control.plane.gates.release route
    { s with control := { s.control with plane := { s.control.plane with gates := gates } } }

-- ---------------------------------------------------------------------------
-- Jobs

def timerOf : Job → Option Timer
  | .flight f => some (f.timer.first f.deadline)
  | .entry _ timer => some timer
  | _ => none

/-- The tick at which a job that waits has its result at the latest. -/
def lastWake : Job → Nat
  | .flight f => f.deadline.tick
  | .entry _ timer => timer.tick
  | _ => 0

/-- A job goes on as far as it can. -/
def resume (s : Service) : Job → Job × Service
  | .flight f => s.resumeFlight f
  | .cycle =>
    if s.source.hangs then (.cycle, s)
    else
      let (result, s) := s.finishCycle
      (.refreshed result, s)
  | .entry held timer =>
    if timer.tick ≤ s.now then (.entered held, s) else (.entry held timer, s)
  | job => (job, s)

def cancel (s : Service) : Job → Service
  | .flight f => s.dropFlight f
  | .cycle => { s with control := s.control.cancelCycle }
  | .entry held _ => s.dropHeld held
  | .entered held => s.dropHeld held
  | _ => s

def isDone : Job → Bool
  | .answered _ => true
  | .refreshed _ => true
  | .entered _ => true
  | _ => false

-- ---------------------------------------------------------------------------
-- Loops

/-- The next tick of a loop whose ticker fired for `tick`. Ticks that were missed are
left out. -/
def nextTick (now tick period : Nat) : Nat :=
  if tick + 5 < now then now + period - (now - tick) % period else tick + period

def isPeriod (seconds : Nat) : Bool :=
  0 < seconds && seconds < Nat.pow 2 63

def period (s : Service) : Nat :=
  s.config.refresh.intervalSecs * 1000

def rest (s : Service) (l : Loop) (tick : Nat) : Loop × Service :=
  let (ticker, s) := s.setTimer tick
  ({ l with ticker := ticker, phase := .waiting ticker.serial }, s)

def loopRefresh (s : Service) (l : Loop) (tick : Nat) : Loop × Service :=
  match s.startRefresh with
  | (.cycle, s) => ({ l with ticker := { l.ticker with tick := tick }, phase := .cycling }, s)
  | (_, s) => s.rest l tick

def runLoop : Nat → Service → Loop → Loop × Service
  | 0, s, l => (l, s)
  | rounds + 1, s, l =>
    match l.phase with
    | .finished => (l, s)
    | .cycling =>
      if s.source.hangs then (l, s)
      else
        let (_, s) := s.finishCycle
        let (l, s) := s.rest l l.ticker.tick
        runLoop rounds s l
    | .waiting _ =>
      if l.ticker.tick ≤ s.now then
        let (l, s) := s.loopRefresh l (nextTick s.now l.ticker.tick s.period)
        runLoop rounds s l
      else if s.triggered then
        let (l, s) := { s with triggered := false }.loopRefresh l l.ticker.tick
        runLoop rounds s l
      else if s.stopped && l.hears then ({ l with phase := .finished }, s)
      else (l, s)

/-- More rounds than a loop can have reasons to go on at one time. -/
def loopRounds : Nat := 8

-- ---------------------------------------------------------------------------
-- Everything in the background

/-- Something in the background: a job by its name or a loop by its place. -/
inductive Actor where
  | job (id : JobId)
  | loop (index : Nat)
  deriving DecidableEq, Repr

/-- The order in which actors go on: by the timer that fired; those without a timer
go first, and loops among themselves in the order in which they began to wait. -/
def loopOrder (now : Nat) (l : Loop) : Timer :=
  match l.phase with
  | .waiting since => if l.ticker.tick ≤ now then l.ticker else ⟨0, since⟩
  | _ => ⟨0, 0⟩

/-- The actors in the order in which they go on at the present tick. -/
def actors (s : Service) : List Actor :=
  let jobs := s.jobs.map fun (id, job) => ((timerOf job).getD ⟨0, 0⟩, Actor.job id)
  let loops := s.loops.zipIdx.map fun (l, i) => (loopOrder s.now l, Actor.loop i)
  ((jobs ++ loops).mergeSort fun a b => a.1.le b.1).map Prod.snd

def put [DecidableEq κ] (id : κ) (a : α) (entries : List (κ × α)) : List (κ × α) :=
  entries.filter (fun (k, _) => k ≠ id) ++ [(id, a)]

def erase [DecidableEq κ] (id : κ) (entries : List (κ × α)) : List (κ × α) :=
  entries.filter fun (k, _) => k ≠ id

def act (s : Service) : Actor → Service
  | .job id =>
    match s.jobs.lookup id with
    | none => s
    | some job =>
      let (job, s) := s.resume job
      { s with jobs := s.jobs.map fun (k, old) => if k = id then (k, job) else (k, old) }
  | .loop i =>
    match s.loops[i]? with
    | none => s
    | some l =>
      let (l, s) := runLoop loopRounds s l
      { s with loops := s.loops.set i l }

def settle (s : Service) : Service :=
  s.actors.foldl act s

def timers (s : Service) : List Timer :=
  s.jobs.filterMap (fun (_, job) => timerOf job) ++
    s.loops.filterMap fun l => match l.phase with
      | .waiting _ => some l.ticker
      | _ => none

/-- The next tick after the present at which a timer fires, the given one included. -/
def nextWake (s : Service) (timer : Timer) : Nat :=
  s.timers.foldl (fun tick t => if s.now < t.tick then min tick t.tick else tick) timer.tick

/-- Moves the clock on until a foreground job is done, in at most so many wakes. -/
def await : Nat → Service → Job → Job × Service
  | 0, s, job => (job, s)
  | wakes + 1, s, job =>
    match timerOf job with
    | none => (job, s)
    | some timer =>
      let s := { s with now := s.nextWake timer }
      let (job, s) := s.resume job
      await wakes s.settle job

/-- Runs a foreground job to its end. Every wake moves the clock on, so a job needs no
more wakes than there are ticks up to its last one. -/
def finish (start : Job × Service) : Job × Service :=
  let (job, s) := start
  match timerOf job with
  | none => (job, s.settle)
  | some _ => await (lastWake job + 1 - s.now) s job

/-- Goes on with a job that just went on, together with everything in the background. -/
def conclude (result : Job × Service) : Job × Service :=
  let (job, s) := result
  await (lastWake job + 1 - s.now) s.settle job

/-- Moves the clock on at once; timers passed on the way fire afterwards. -/
def advance (s : Service) (ticks : Nat) : Service :=
  { s with now := s.now + ticks }.settle

end Tollgate.Service
