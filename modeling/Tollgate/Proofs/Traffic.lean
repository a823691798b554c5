import Tollgate.Proofs.Publish
import Tollgate.Proofs.Requests
import Tollgate.Service.Actions

/-!
# Traffic

Traffic is a service with everyone who is or was at its gates. It moves on by events,
in any order: time passes; cycles begin, end with any fetch, or are cancelled;
admissions are counted in, answered, get their tokens, are dropped or are left to be
counted out by hand; requests start and go on; permits are acquired and released; gates
are changed directly. An admission is counted in and answered by two events, so that
anything may happen in between. A run is a list of events.
-/

namespace Tollgate

open Control (Plane)
open Http (Request Router)
open Policy (Gates GateSpec Permit Row Table)
open Store (StoreError)

inductive Guest where
  /-- Counted in as number `current` and not answered yet; `others` held places then. -/
  | counted (route : Route.Key) (current others : Nat)
  /-- Answered; it may still wait for its token. -/
  | seated (held : Service.Held) (others : Nat) (waiting : Bool)
  /-- A request under way through the mounted routes. -/
  | flight (f : Service.Flight)
  | gone

namespace Guest

def ofJob : Service.Job → Guest
  | .flight f => .flight f
  | _ => .gone

def route? : Guest → Option Route.Key
  | .counted route _ _ => some route
  | .seated held _ _ => held.route
  | .flight f => f.route?
  | .gone => none

def leave (s : Service) : Guest → Service
  | .counted route _ _ => s.dropHeld ⟨.ungoverned, some route⟩
  | .seated held _ _ => s.dropHeld held
  | .flight f => s.dropFlight f
  | .gone => s

theorem leave_plane (s : Service) (g : Guest) :
    (g.leave s).control.plane = s.control.plane.withGates (s.control.plane.gates.leave g.route?) := by
  cases g with
  | counted route _ _ => exact s.dropHeld_plane _
  | seated held _ _ => exact s.dropHeld_plane held
  | flight f => exact s.dropFlight_plane f
  | gone => rfl

end Guest

/-- What can happen. Guests are named by their places in the order of their coming. -/
inductive Event where
  | pass (ticks : Nat)
  | beginCycle
  | endCycle (fetched : Except StoreError (List Row))
  | cancelCycle
  | countIn (route : Route.Key)
  | answer (guest : Nat)
  | token (guest : Nat)
  | drop (guest : Nat)
  /-- The place of an admission stays taken until it is counted out by hand. -/
  | intoCounts (guest : Nat)
  /-- Counts out by hand, if a place of the route is to be counted out so. -/
  | decrement (route : Route.Key)
  | request (router : Router) (r : Request)
  /-- A request under way looks at its timers. -/
  | wake (guest : Nat)
  | acquire (name : String)
  | release (permit : Permit)
  | update (route : Route.Key) (spec : GateSpec)
  | reset (route : Route.Key)
  | apply (batch : Table Route.Key GateSpec)

/-- Whether an event changes the policy of gates without a refresh. -/
def Event.isDirect : Event → Bool
  | .update .. => true
  | .reset _ => true
  | .apply _ => true
  | _ => false

def Event.isPolicy : Event → Bool
  | .beginCycle => true
  | .endCycle _ => true
  | .cancelCycle => true
  | e => e.isDirect

/-- Whether an event leaves all guests but the one in place `n` alone, and lets nobody
come. -/
def Event.concernsOnly (n : Nat) : Event → Bool
  | .countIn _ => false
  | .request .. => false
  | .intoCounts _ => false
  | .decrement _ => false
  | .answer i => i == n
  | .token i => i == n
  | .drop i => i == n
  | .wake i => i == n
  | _ => true

structure Traffic where
  service : Service
  guests : List Guest
  /-- The routes of the places that are to be counted out by hand. -/
  owed : List Route.Key
  /-- The rows of the fetches that were published, last first. -/
  fetched : List (List Row)

namespace Traffic

def start (s : Service) (routes : List Route.Key) (defaults : List String)
    (center : Control.AlarmCenter) : Traffic :=
  ⟨{ s with control := .ofPlane (.ofRoutes routes defaults) center }, [], [], []⟩

def quiet : Service :=
  .ofControl .default ⟨"", "", ""⟩ none .passthrough
    (.ofPlane (.ofRoutes [] []) (.ofCapacity "" 1)) (.ofMemory .empty ⟨0, 0⟩)

-- ---------------------------------------------------------------------------
-- Parts

def plane (t : Traffic) : Plane :=
  t.service.control.plane

def gates (t : Traffic) : Gates :=
  t.plane.gates

def withService (t : Traffic) (s : Service) : Traffic :=
  { t with service := s }

def withControl (t : Traffic) (c : Control) : Traffic :=
  t.withService { t.service with control := c }

def withPlane (t : Traffic) (p : Plane) : Traffic :=
  t.withControl { t.service.control with plane := p }

def withGates (t : Traffic) (gates : Gates) : Traffic :=
  t.withPlane (t.plane.withGates gates)

def welcome (t : Traffic) (g : Guest) : Traffic :=
  { t with guests := t.guests ++ [g] }

def become (t : Traffic) (i : Nat) (g : Guest) : Traffic :=
  { t with guests := t.guests.set i g }

def inFlight (t : Traffic) (route : Route.Key) : Nat :=
  t.guests.countP (fun g => g.route? = some route) + t.owed.count route

-- ---------------------------------------------------------------------------
-- Steps

def endCycle (t : Traffic) (fetched : Except StoreError (List Row)) : Traffic :=
  let t := t.withControl (t.service.control.endCycle t.service.nanos fetched).2
  match fetched with
  | .ok rows => { t with fetched := rows :: t.fetched }
  | .error _ => t

theorem plane_endCycle (t : Traffic) (fetched : Except StoreError (List Row)) :
    (t.endCycle fetched).plane =
      match fetched with
      | .ok rows => (t.plane.publish t.service.nanos rows).plane
      | .error _ => t.plane := by
  have plane := Control.endCycle_plane t.service.control t.service.nanos fetched
  cases fetched with
  | ok rows => exact plane
  | error e => exact plane

/-- An admission is counted in. One to a route without a gate is not governed. -/
def countIn (t : Traffic) (route : Route.Key) : Traffic :=
  match t.gates.countIn route with
  | (some current, gates) =>
    (t.withGates gates).welcome (.counted route current (t.inFlight route))
  | (none, gates) => (t.withGates gates).welcome (.seated ⟨.ungoverned, none⟩ 0 false)

def answer (t : Traffic) (i : Nat) : Traffic :=
  match t.guests[i]? with
  | some (.counted route current others) =>
    match t.gates.answer route current t.service.nanos with
    | (some entry, gates) =>
      (t.withGates gates).become i
        (.seated ⟨entry.admission, some route⟩ others (entry.wait ≠ 0))
    | (none, _) => t
  | _ => t

def token (t : Traffic) (i : Nat) : Traffic :=
  match t.guests[i]? with
  | some (.seated held others _) => t.become i (.seated held others false)
  | _ => t

def drop (t : Traffic) (i : Nat) : Traffic :=
  match t.guests[i]? with
  | some g => (t.withService (g.leave t.service)).become i .gone
  | none => t

/-- An admission that has its token leaves without counting out. -/
def intoCounts (t : Traffic) (i : Nat) : Traffic :=
  match t.guests[i]? with
  | some (.seated held _ false) => { t.become i .gone with owed := held.route.toList ++ t.owed }
  | _ => t

def decrement (t : Traffic) (route : Route.Key) : Traffic :=
  if route ∈ t.owed then
    { t.withGates (t.gates.release route) with owed := t.owed.erase route }
  else t

def request (t : Traffic) (router : Router) (r : Request) : Traffic :=
  let (job, s) := t.service.startRequest router r
  (t.withService s).welcome (.ofJob job)

def wake (t : Traffic) (i : Nat) : Traffic :=
  match t.guests[i]? with
  | some (.flight f) =>
    let (job, s) := t.service.resumeFlight f
    (t.withService s).become i (.ofJob job)
  | _ => t

def step (t : Traffic) : Event → Traffic
  | .pass ticks => t.withService { t.service with now := t.service.now + ticks }
  | .beginCycle => t.withControl (t.service.control.beginCycle.getD t.service.control)
  | .endCycle fetched => if t.service.control.running then t.endCycle fetched else t
  | .cancelCycle => t.withControl t.service.control.cancelCycle
  | .countIn route => t.countIn route
  | .answer i => t.answer i
  | .token i => t.token i
  | .drop i => t.drop i
  | .intoCounts i => t.intoCounts i
  | .decrement route => t.decrement route
  | .request router r => t.request router r
  | .wake i => t.wake i
  | .acquire name => t.withPlane { t.plane with limits := (t.plane.limits.acquire name).2 }
  | .release permit => t.withPlane { t.plane with limits := t.plane.limits.release permit }
  | .update route spec => t.withGates (t.gates.update route t.service.nanos spec)
  | .reset route => t.withGates (t.gates.reset route)
  | .apply batch => t.withGates (t.gates.apply t.service.nanos batch)

def run (t : Traffic) (es : List Event) : Traffic :=
  es.foldl step t

@[simp] theorem run_nil (t : Traffic) : t.run [] = t := rfl

@[simp] theorem run_cons (t : Traffic) (e : Event) (es : List Event) :
    t.run (e :: es) = (t.step e).run es := rfl

-- ---------------------------------------------------------------------------
-- Who comes, changes and leaves

section Places

variable {t : Traffic} {i : Nat} {g : Guest} (p : Guest → Bool) (route : Route.Key)

@[simp] theorem inFlight_withGates (gates : Gates) :
    (t.withGates gates).inFlight route = t.inFlight route := rfl

theorem countP_welcome (g : Guest) :
    (t.welcome g).guests.countP p = t.guests.countP p + if p g then 1 else 0 := by
  rw [welcome, List.countP_append, List.countP_singleton]

theorem countP_become (found : t.guests[i]? = some g) (g' : Guest) :
    (t.become i g').guests.countP p + (if p g then 1 else 0) =
      t.guests.countP p + if p g' then 1 else 0 := by
  obtain ⟨inside, rfl⟩ := List.getElem?_eq_some_iff.mp found
  rw [become, List.countP_set inside]
  have counted : p t.guests[i] → 0 < t.guests.countP p := fun holds =>
    List.countP_pos_iff.mpr ⟨_, List.getElem_mem inside, holds⟩
  split
  next holds => have := counted holds; omega
  next _ => omega

theorem inFlight_welcome (g : Guest) :
    (t.welcome g).inFlight route =
      t.inFlight route + if g.route? = some route then 1 else 0 := by
  have counted := countP_welcome (t := t) (fun g => g.route? = some route) g
  simp only [welcome, decide_eq_true_eq] at counted
  simp only [inFlight, welcome]
  omega

theorem inFlight_become (found : t.guests[i]? = some g) (g' : Guest) :
    (t.become i g').inFlight route + (if g.route? = some route then 1 else 0) =
      t.inFlight route + if g'.route? = some route then 1 else 0 := by
  have counted := countP_become (fun g => g.route? = some route) found g'
  simp only [decide_eq_true_eq] at counted
  simp only [inFlight, become] at counted ⊢
  omega

theorem inFlight_owe (held : Option Route.Key) :
    ({ t with owed := held.toList ++ t.owed } : Traffic).inFlight route =
      t.inFlight route + if held = some route then 1 else 0 := by
  cases held with
  | none => simp [inFlight]
  | some key =>
    by_cases same : key = route
    · simp [inFlight, same]
      omega
    · simp [inFlight, same]

theorem inFlight_erase {key : Route.Key} (owes : key ∈ t.owed) :
    ({ t with owed := t.owed.erase key } : Traffic).inFlight route +
      (if some key = some route then 1 else 0) = t.inFlight route := by
  by_cases same : key = route
  · subst same
    have counted : 0 < t.owed.count key := List.count_pos_iff.mpr owes
    simp only [inFlight, List.count_erase_self, if_true]
    omega
  · simp [inFlight, List.count_erase_of_ne (Ne.symm same), same]

theorem inFlight_become_of_route (found : t.guests[i]? = some g) {g' : Guest}
    (same : g'.route? = g.route?) : (t.become i g').inFlight route = t.inFlight route := by
  have moved := inFlight_become route found g'
  rw [same] at moved
  exact Nat.add_right_cancel moved

end Places

-- ---------------------------------------------------------------------------
-- Room

def entrance? (t : Traffic) : Event → Option Route.Key
  | .countIn route => some route
  | .request router r => t.service.gateAsked? router r
  | _ => none

/-- The places taken at a route at the fullest moment of an event. -/
def peak (t : Traffic) (e : Event) (route : Route.Key) : Nat :=
  t.inFlight route + if t.entrance? e = some route then 1 else 0

/-- At no moment of a run are there more requests at a route than its count can tell. -/
def Roomy (t : Traffic) : List Event → Prop
  | [] => True
  | e :: es => (∀ route, t.peak e route < Policy.countBound) ∧ (t.step e).Roomy es

theorem roomy_append {t : Traffic} {es fs : List Event} :
    t.Roomy (es ++ fs) ↔ t.Roomy es ∧ (t.run es).Roomy fs := by
  induction es generalizing t with
  | nil => simp [Roomy]
  | cons e es ih => simp only [List.cons_append, Roomy, ih, run_cons, and_assoc]

end Traffic

end Tollgate
