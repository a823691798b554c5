import Tollgate.Proofs.Limits
import Tollgate.Proofs.Traffic

/-!
# What an event can do

An event leaves all guests and gates alone, publishes a fetch, changes gates directly,
lets one guest come, or changes one guest, who may leave. `step_moved` says so once, with
what the gates told; what holds of every run is shown for these moves one by one.
-/

namespace Tollgate

open Control (Plane)
open Policy (Gate Gates Permit RequestLimits Row)
open Store (StoreError)

namespace Traffic

-- ---------------------------------------------------------------------------
-- Moves

inductive Moved (t : Traffic) : Event → Traffic → Prop
  /-- At most permits are given out or back. -/
  | aside (e : Event) (s : Service) (limits : RequestLimits)
      (plane : s.control.plane = { t.plane with limits := limits })
      (same : limits.limits = t.plane.limits.limits) : Moved t e (t.withService s)
  | ended (fetched : Except StoreError (List Row)) :
      Moved t (.endCycle fetched) (t.endCycle fetched)
  | direct (e : Event) (gates : Gates) (isDirect : e.isDirect)
      (counts : ∀ route, gates.count? route = t.gates.count? route) : Moved t e (t.withGates gates)
  | counted (route : Route.Key) (current : Nat) (gates : Gates)
      (told : t.gates.countIn route = (some current, gates)) :
      Moved t (.countIn route) ((t.withGates gates).welcome (.counted route current (t.inFlight route)))
  | ungoverned (route : Route.Key) (gates : Gates) (told : t.gates.countIn route = (none, gates)) :
      Moved t (.countIn route) ((t.withGates gates).welcome (.seated ⟨.ungoverned, none⟩ 0 false))
  | answered (i : Nat) (route : Route.Key) (current others : Nat) (entry : Gate.Entry)
      (gates : Gates) (found : t.guests[i]? = some (.counted route current others))
      (told : t.gates.answer route current t.service.nanos = (some entry, gates)) :
      Moved t (.answer i) ((t.withGates gates).become i
        (.seated ⟨entry.admission, some route⟩ others (entry.wait ≠ 0)))
  | token (i : Nat) (held : Service.Held) (others : Nat) (waiting : Bool)
      (found : t.guests[i]? = some (.seated held others waiting)) :
      Moved t (.token i) (t.become i (.seated held others false))
  | left (i : Nat) (g : Guest) (found : t.guests[i]? = some g) :
      Moved t (.drop i) ((t.withService (g.leave t.service)).become i .gone)
  | owing (i : Nat) (held : Service.Held) (others : Nat)
      (found : t.guests[i]? = some (.seated held others false)) :
      Moved t (.intoCounts i) { t.become i .gone with owed := held.route.toList ++ t.owed }
  | paid (route : Route.Key) (owes : route ∈ t.owed) :
      Moved t (.decrement route)
        { t.withGates (t.gates.release route) with owed := t.owed.erase route }
  | requested (router : Http.Router) (r : Http.Request) :
      Moved t (.request router r) ((t.withService (t.service.startRequest router r).2).welcome
        (.ofJob (t.service.startRequest router r).1))
  | woken (i : Nat) (f : Service.Flight) (found : t.guests[i]? = some (.flight f)) :
      Moved t (.wake i) ((t.withService (t.service.resumeFlight f).2).become i
        (.ofJob (t.service.resumeFlight f).1))

theorem gates_aside {t : Traffic} {s : Service} {limits : RequestLimits}
    (plane : s.control.plane = { t.plane with limits := limits }) :
    (t.withService s).gates = t.gates := by
  have gates := congrArg Plane.gates plane
  exact gates

theorem Moved.idle (t : Traffic) (e : Event) : t.Moved e t :=
  .aside e t.service t.plane.limits rfl rfl

theorem step_moved (t : Traffic) (e : Event) : t.Moved e (t.step e) := by
  cases e with
  | pass _ => exact .aside _ _ t.plane.limits rfl rfl
  | beginCycle => exact .aside _ _ t.plane.limits t.service.control.beginCycle_plane rfl
  | endCycle fetched =>
    simp only [step]
    split
    next _ => exact .ended fetched
    next _ => exact .idle t _
  | cancelCycle => exact .aside _ _ t.plane.limits rfl rfl
  | countIn route =>
    simp only [step, countIn]
    split
    next current gates told => exact .counted route current gates told
    next gates told => exact .ungoverned route gates told
  | answer i =>
    simp only [step, answer]
    split
    next route current others found =>
      split
      next entry gates told => exact .answered i route current others entry gates found told
      next _ _ => exact .idle t _
    next _ => exact .idle t _
  | token i =>
    simp only [step, token]
    split
    next held others waiting found => exact .token i held others waiting found
    next _ => exact .idle t _
  | drop i =>
    simp only [step, drop]
    split
    next g found => exact .left i g found
    next _ => exact .idle t _
  | intoCounts i =>
    simp only [step, intoCounts]
    split
    next held others found => exact .owing i held others found
    next _ => exact .idle t _
  | decrement route =>
    simp only [step, decrement]
    split
    next owes => exact .paid route owes
    next _ => exact .idle t _
  | request router r => exact .requested router r
  | wake i =>
    simp only [step, wake]
    split
    next f found => exact .woken i f found
    next _ => exact .idle t _
  | acquire name => exact .aside _ _ _ rfl (t.plane.limits.limits_acquire name)
  | release permit => exact .aside _ _ _ rfl (t.plane.limits.limits_release permit)
  | update route spec =>
    exact .direct _ _ rfl fun key => t.gates.count?_update route key t.service.nanos spec
  | reset route => exact .direct _ _ rfl fun key => t.gates.count?_reset route key
  | apply batch => exact .direct _ _ rfl fun key => t.gates.count?_apply key t.service.nanos batch

theorem Moved.plane_eq {t u : Traffic} {e : Event} (moved : t.Moved e u)
    (unfetched : ∀ fetched, e ≠ .endCycle fetched) :
    ∃ gates limits, u.plane = { t.plane with gates := gates, limits := limits } := by
  cases moved with
  | aside _ _ limits plane _ => exact ⟨t.gates, limits, plane⟩
  | ended fetched => exact absurd rfl (unfetched fetched)
  | left i g _ =>
    exact ⟨t.gates.leave g.route?, t.plane.limits, g.leave_plane t.service⟩
  | requested router r =>
    cases t.service.startRequest_started router r with
    | aside _ _ plane => exact ⟨_, _, plane⟩
    | passed _ _ _ _ plane => exact ⟨_, _, plane⟩
    | waits _ _ _ _ _ _ plane => exact ⟨_, _, plane⟩
  | woken i f _ =>
    cases t.service.resumeFlight_resumed f with
    | waits _ _ _ plane => exact ⟨_, _, plane⟩
    | ends _ _ plane => exact ⟨_, _, plane⟩
  | _ => exact ⟨_, t.plane.limits, rfl⟩

-- ---------------------------------------------------------------------------
-- Runs that have room

/-- The places that are taken at all routes together, and those that were given back. -/
def size (t : Traffic) : Nat :=
  t.guests.length + t.owed.length

theorem inFlight_le_size (t : Traffic) (route : Route.Key) : t.inFlight route ≤ t.size :=
  Nat.add_le_add List.countP_le_length List.count_le_length

theorem size_welcome (t : Traffic) (g : Guest) : (t.welcome g).size = t.size + 1 := by
  simp only [size, welcome, List.length_append, List.length_singleton]
  omega

theorem size_become (t : Traffic) (i : Nat) (g : Guest) : (t.become i g).size = t.size := by
  simp only [size, become, List.length_set]

theorem Moved.size_le {t u : Traffic} {e : Event} (moved : t.Moved e u) : u.size ≤ t.size + 1 := by
  cases moved with
  | aside _ _ _ _ _ => exact Nat.le_succ _
  | ended fetched => cases fetched <;> exact Nat.le_succ _
  | direct _ _ _ _ => exact Nat.le_succ _
  | counted route current gates _ => exact Nat.le_of_eq (size_welcome (t.withGates gates) _)
  | ungoverned route gates _ => exact Nat.le_of_eq (size_welcome (t.withGates gates) _)
  | answered i _ _ _ _ gates _ _ => exact Nat.le_succ_of_le (Nat.le_of_eq (size_become _ i _))
  | token i _ _ _ _ => exact Nat.le_succ_of_le (Nat.le_of_eq (size_become t i _))
  | left i _ _ => exact Nat.le_succ_of_le (Nat.le_of_eq (size_become _ i _))
  | owing i held _ _ =>
    have one : held.route.toList.length ≤ 1 := by cases held.route <;> simp
    simp only [size, become, List.length_set, List.length_append]
    omega
  | paid route _ =>
    have fewer : (t.owed.erase route).length ≤ t.owed.length := List.length_erase_le
    exact Nat.le_succ_of_le (Nat.add_le_add_left fewer t.guests.length)
  | requested router r => exact Nat.le_of_eq (size_welcome _ _)
  | woken i _ _ => exact Nat.le_succ_of_le (Nat.le_of_eq (size_become _ i _))

theorem roomy_of_size {t : Traffic} {es : List Event}
    (short : t.size + es.length < Policy.countBound) : t.Roomy es := by
  induction es generalizing t with
  | nil => trivial
  | cons e es ih =>
    rw [List.length_cons] at short
    refine ⟨fun route => ?_, ih ?_⟩
    · have places := t.inFlight_le_size route
      simp only [peak]
      split <;> omega
    · have grown := (t.step_moved e).size_le
      omega

end Traffic

end Tollgate
