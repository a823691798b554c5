import Tollgate.Proofs.Moves

/-!
# Requests in flight

The count of a gate is the number of places taken at its route: by admissions that were
counted in and have not left, waiting or not, by requests under way, and by those that
are to be counted out by hand. This holds after every run with room, in any order of
events. So no policy change alters a count, no count is taken below zero, and a request
that ran to any end leaves the counts as it found them.
-/

namespace Tollgate.Traffic

open Control (Plane)
open Policy (Gates Row)
open Store (StoreError)

variable {routes : List Route.Key} {t u : Traffic}

/-- Every registered route counts the places taken there, and no other route counts. -/
def Exact (routes : List Route.Key) (t : Traffic) : Prop :=
  ∀ route, t.gates.count? route = if route ∈ routes then some (t.inFlight route) else none

-- ---------------------------------------------------------------------------
-- How counts and places move together

theorem Exact.of_map {f : Route.Key → Nat → Nat} (h : t.Exact routes)
    (counts : ∀ route, u.gates.count? route = (t.gates.count? route).map (f route))
    (places : ∀ route, u.inFlight route = f route (t.inFlight route)) : u.Exact routes := by
  intro route
  rw [counts, h route, places]
  split <;> rfl

theorem Exact.of_same (h : t.Exact routes)
    (counts : ∀ route, u.gates.count? route = t.gates.count? route)
    (places : ∀ route, u.inFlight route = t.inFlight route) : u.Exact routes :=
  h.of_map (f := fun _ n => n) (fun route => by rw [counts, Option.map_id']) places

theorem Exact.of_enter {key : Route.Key} (h : t.Exact routes)
    (counts : ∀ route, u.gates.count? route =
      (t.gates.count? route).map fun n => if route = key then n + 1 else n)
    (places : ∀ route, u.inFlight route = t.inFlight route + if some key = some route then 1 else 0) :
    u.Exact routes := by
  refine h.of_map (f := fun route n => if route = key then n + 1 else n) counts fun route => ?_
  rw [places]
  by_cases same : route = key
  · simp [same]
  · have other : some key ≠ some route := fun eq => same (Option.some.inj eq).symm
    simp [same, other]

theorem Exact.of_leave {route? : Option Route.Key} (h : t.Exact routes)
    (gates : u.gates = t.gates.leave route?)
    (places : ∀ route, u.inFlight route + (if route? = some route then 1 else 0) =
      t.inFlight route) : u.Exact routes := by
  refine h.of_map (f := fun route n => if route? = some route then n - 1 else n)
    (fun route => ?_) fun route => ?_
  · rw [gates, Gates.count?_leave]
  · have moved := places route
    split at moved
    next held => rw [if_pos held]; omega
    next other => rw [if_neg other]; omega

theorem Exact.hasRoom {key : Route.Key} (h : t.Exact routes)
    (room : t.inFlight key + 1 < Policy.countBound) : t.gates.HasRoom key := by
  intro n counted
  rw [h key] at counted
  split at counted
  next _ =>
    cases counted
    exact room
  next _ => cases counted

-- ---------------------------------------------------------------------------
-- Admissions

theorem Exact.counted {key : Route.Key} {current : Nat} {gates : Gates} (h : t.Exact routes)
    (room : t.inFlight key + 1 < Policy.countBound)
    (told : t.gates.countIn key = (some current, gates)) (others : Nat) :
    ((t.withGates gates).welcome (.counted key current others)).Exact routes := by
  have counts := Gates.count?_countIn (h.hasRoom room)
  rw [told] at counts
  exact h.of_enter counts fun route => inFlight_welcome route _

theorem Exact.ungoverned {key : Route.Key} {gates : Gates} (h : t.Exact routes)
    (room : t.inFlight key + 1 < Policy.countBound)
    (told : t.gates.countIn key = (none, gates)) :
    ((t.withGates gates).welcome (.seated ⟨.ungoverned, none⟩ 0 false)).Exact routes := by
  have counts := Gates.count?_countIn (h.hasRoom room)
  rw [told] at counts
  -- The route has no gate, so that nothing was counted in.
  have none : t.gates.count? key = none := by
    have heard := Gates.countIn_fst (h.hasRoom room)
    rw [told] at heard
    simpa using heard.symm
  refine h.of_same (fun route => ?_) fun route => ?_
  · refine (counts route).trans ?_
    by_cases same : route = key
    · rw [same, none]
      rfl
    · simp only [same, if_false]
      exact Option.map_id'
  · exact (inFlight_welcome route _).trans (by simp [Guest.route?])

theorem gates_leave (g : Guest) :
    (t.withService (g.leave t.service)).gates = t.gates.leave g.route? :=
  congrArg Plane.gates (g.leave_plane t.service)

-- ---------------------------------------------------------------------------
-- Requests

theorem route?_ofJob (job : Service.Job) : (Guest.ofJob job).route? = job.route? := by
  cases job <;> rfl

theorem Exact.request (h : t.Exact routes) (router : Http.Router) (r : Http.Request)
    (room : ∀ route, t.peak (.request router r) route < Policy.countBound) :
    (t.request router r).Exact routes := by
  have places : ∀ route, (t.request router r).inFlight route =
      t.inFlight route + if (t.service.startRequest router r).1.route? = some route then 1 else 0 := by
    intro route
    rw [← route?_ofJob]
    exact inFlight_welcome (t := t.withService (t.service.startRequest router r).2) route _
  have hasRoom : ∀ {key}, t.service.gateAsked? router r = some key → t.gates.HasRoom key := by
    intro key asks
    have fits := room key
    simp only [peak, entrance?, asks, if_true] at fits
    exact h.hasRoom fits
  have started := t.service.startRequest_started router r
  cases started with
  | aside _ holds plane =>
    refine h.of_same (fun route => congrArg (Gates.count? · route) (congrArg Plane.gates plane)) ?_
    intro route
    simp [places, holds]
  | passed key asks response answer plane =>
    have gates : (t.request router r).gates = (t.gates.enter key t.service.nanos).2.release key :=
      congrArg Plane.gates plane
    refine h.of_same (fun route => ?_) fun route => ?_
    · rw [gates, Gates.count?_enter_release (hasRoom asks)]
    · simp [places, answer, Service.Job.route?]
  | waits key asks f flies holds _ plane =>
    have gates : (t.request router r).gates = (t.gates.enter key t.service.nanos).2 :=
      congrArg Plane.gates plane
    have held : (t.service.startRequest router r).1.route? = some key := by rw [flies]; exact holds
    have counts : ∀ route, (t.request router r).gates.count? route =
        (t.gates.count? route).map fun n => if route = key then n + 1 else n := by
      intro route
      rw [gates, Gates.count?_enter (hasRoom asks)]
    exact h.of_enter counts fun route => by rw [places, held]

theorem Exact.woken {i : Nat} {f : Service.Flight} (h : t.Exact routes)
    (found : t.guests[i]? = some (.flight f)) :
    ((t.withService (t.service.resumeFlight f).2).become i
      (.ofJob (t.service.resumeFlight f).1)).Exact routes := by
  have resumed := t.service.resumeFlight_resumed f
  have places := fun route => inFlight_become (t := t.withService (t.service.resumeFlight f).2)
    route found (.ofJob (t.service.resumeFlight f).1)
  simp only [route?_ofJob] at places
  cases resumed with
  | waits f' flies holds plane =>
    refine h.of_same (fun route => congrArg (Gates.count? · route) (congrArg Plane.gates plane)) ?_
    intro route
    have kept := places route
    have same : (t.service.resumeFlight f).1.route? = (Guest.flight f).route? := by
      rw [flies]
      exact holds
    rw [same] at kept
    exact Nat.add_right_cancel kept
  | ends response answer plane =>
    refine h.of_leave (congrArg Plane.gates plane) fun route => ?_
    have left := places route
    rw [answer] at left
    rw [answer]
    exact left

-- ---------------------------------------------------------------------------
-- Refreshes

theorem count?_endCycle (t : Traffic) (fetched : Except StoreError (List Row))
    (route : Route.Key) : (t.endCycle fetched).gates.count? route = t.gates.count? route := by
  have plane := t.plane_endCycle fetched
  cases fetched with
  | error e => exact congrArg (fun p : Plane => p.gates.count? route) plane
  | ok rows =>
    have gates : (t.endCycle (.ok rows)).gates =
        t.gates.apply t.service.nanos (Control.specsOf rows) :=
      (congrArg Plane.gates plane).trans (Plane.publish_gates t.plane t.service.nanos rows)
    rw [gates, Gates.count?_apply]

theorem inFlight_endCycle (t : Traffic) (fetched : Except StoreError (List Row))
    (route : Route.Key) : (t.endCycle fetched).inFlight route = t.inFlight route := by
  cases fetched <;> rfl

theorem Moved.count?_eq {e : Event} (moved : t.Moved e u) (policy : e.isPolicy)
    (route : Route.Key) : u.gates.count? route = t.gates.count? route := by
  cases moved with
  | aside e s limits plane _ =>
    rw [gates_aside plane]
  | ended fetched => exact t.count?_endCycle fetched route
  | direct _ _ _ counts => exact counts route
  | _ => simp [Event.isPolicy, Event.isDirect] at policy

-- ---------------------------------------------------------------------------
-- Steps and runs

theorem Moved.exact {e : Event} (moved : t.Moved e u) (h : t.Exact routes)
    (room : ∀ route, t.peak e route < Policy.countBound) : u.Exact routes := by
  cases moved with
  | aside e s limits plane _ =>
    exact h.of_same (fun route => by rw [gates_aside plane]) fun _ => rfl
  | ended fetched => exact h.of_same (t.count?_endCycle fetched) (t.inFlight_endCycle fetched)
  | direct _ _ _ counts => exact h.of_same counts fun _ => rfl
  | counted key current gates told =>
    have free := room key
    simp only [peak, entrance?, if_true] at free
    exact h.counted free told _
  | ungoverned key gates told =>
    have free := room key
    simp only [peak, entrance?, if_true] at free
    exact h.ungoverned free told
  | answered i key current others entry gates found told =>
    have counts := fun route => t.gates.count?_answer key route current t.service.nanos
    rw [told] at counts
    exact h.of_same counts fun route =>
      inFlight_become_of_route (t := t.withGates gates) route found rfl
  | token i held others _ found =>
    exact h.of_same (fun _ => rfl) fun route => inFlight_become_of_route route found rfl
  | left i g found =>
    exact h.of_leave (gates_leave g) fun route =>
      inFlight_become (t := t.withService (g.leave t.service)) route found .gone
  | owing i held others found =>
    refine h.of_same (fun _ => rfl) fun route => ?_
    calc
      _ = (t.become i .gone).inFlight route + if held.route = some route then 1 else 0 :=
        inFlight_owe (t := t.become i .gone) route held.route
      _ = t.inFlight route := inFlight_become route found .gone
  | paid key owes =>
    have gates : (t.withGates (t.gates.release key)).gates = t.gates.leave (some key) := rfl
    exact h.of_leave gates fun route => inFlight_erase route owes
  | requested router r => exact h.request router r room
  | woken i f found => exact h.woken found

theorem Exact.step (h : t.Exact routes) {e : Event}
    (room : ∀ route, t.peak e route < Policy.countBound) : (t.step e).Exact routes :=
  (t.step_moved e).exact h room

theorem Exact.run (h : t.Exact routes) {es : List Event} (room : t.Roomy es) :
    (t.run es).Exact routes := by
  induction es generalizing t with
  | nil => exact h
  | cons e es ih => exact ih (h.step room.1) room.2

theorem exact_start (s : Service) (defaults : List String) (center : Control.AlarmCenter) :
    (start s routes defaults center).Exact routes :=
  Gates.count?_ofRoutes routes

-- ---------------------------------------------------------------------------
-- One request

def others (n : Nat) (t : Traffic) : List Guest × List Route.Key :=
  (t.guests.set n .gone, t.owed)

theorem others_become (n : Nat) (t : Traffic) (g : Guest) : (t.become n g).others n = t.others n := by
  simp only [others, become, List.set_set]

theorem Moved.others_eq {n : Nat} {e : Event} (moved : t.Moved e u) (own : e.concernsOnly n) :
    u.others n = t.others n := by
  cases moved with
  | aside _ _ _ _ _ => rfl
  | ended fetched => cases fetched <;> rfl
  | direct _ _ _ _ => rfl
  | answered i _ _ _ _ gates _ _ =>
    obtain rfl : i = n := by simpa [Event.concernsOnly] using own
    exact others_become i (t.withGates gates) _
  | token i _ _ _ _ =>
    obtain rfl : i = n := by simpa [Event.concernsOnly] using own
    exact others_become i t _
  | left i g _ =>
    obtain rfl : i = n := by simpa [Event.concernsOnly] using own
    exact others_become i (t.withService (g.leave t.service)) _
  | woken i f _ =>
    obtain rfl : i = n := by simpa [Event.concernsOnly] using own
    exact others_become i (t.withService (t.service.resumeFlight f).2) _
  | _ => simp [Event.concernsOnly] at own

theorem others_run {n : Nat} {es : List Event} (t : Traffic) (h : ∀ e ∈ es, e.concernsOnly n) :
    (t.run es).others n = t.others n := by
  induction es generalizing t with
  | nil => rfl
  | cons e es ih =>
    calc
      ((t.step e).run es).others n = (t.step e).others n :=
        ih (t.step e) fun e mem => h e (List.mem_cons_of_mem _ mem)
      _ = t.others n := (t.step_moved e).others_eq (h e List.mem_cons_self)

theorem inFlight_request_gone (t : Traffic) (router : Http.Router) (r : Http.Request)
    {es : List Event} (own : ∀ e ∈ es, e.concernsOnly t.guests.length)
    (left : ((t.request router r).run es).guests[t.guests.length]? = some .gone)
    (route : Route.Key) : ((t.request router r).run es).inFlight route = t.inFlight route := by
  have came : (t.request router r).others t.guests.length = (t.guests ++ [.gone], t.owed) := by
    simp [others, request, welcome, withService]
  obtain ⟨guests, owed⟩ := Prod.mk.inj ((others_run _ own).trans came)
  have same : ((t.request router r).run es).guests = t.guests ++ [.gone] := by
    obtain ⟨inside, gone⟩ := List.getElem?_eq_some_iff.mp left
    rw [← guests, ← gone, List.set_getElem_self]
  simp only [inFlight, same, owed, List.countP_append]
  simp [Guest.route?]

-- ---------------------------------------------------------------------------
-- Routes without gates

theorem startEntry_of_none {s : Service} {route : Route.Key}
    (none : s.control.plane.gates.lookup route = none) :
    s.startEntry route = (.entered ⟨⟨0, 0⟩, Option.none⟩, s) := by
  simp only [Service.startEntry, Gates.enter_of_none _ route s.nanos none]
  rfl

theorem gates_countIn_of_none {route : Route.Key} (none : t.gates.lookup route = none) :
    (t.countIn route).gates = t.gates := by
  simp only [countIn, Gates.countIn_of_none t.gates route none]
  rfl

-- ---------------------------------------------------------------------------
-- All of it

structure CountsKept (routes : List Route.Key) (t : Traffic) : Prop where
  /-- Every registered route counts its places: those of admissions that have not left,
  waiting or not, those of requests under way, and those to be counted out by hand. -/
  exact : ∀ route ∈ routes, t.gates.count? route = some (t.inFlight route)
  /-- No policy change alters a count. -/
  policy : ∀ e : Event, e.isPolicy → ∀ route,
    (t.step e).gates.count? route = t.gates.count? route
  /-- A route without a gate tells zeros, and nothing done to it changes a gate. -/
  unknown : ∀ key, key ∉ routes →
    t.service.startEntry key = (.entered ⟨⟨0, 0⟩, none⟩, t.service) ∧
    (t.step (.countIn key)).gates = t.gates ∧
    t.gates.release key = t.gates ∧
    (∀ spec, (t.step (.update key spec)).gates = t.gates) ∧
    (t.step (.reset key)).gates = t.gates
  /-- Who gives a place back finds a positive count and takes one from it. -/
  left : ∀ i g, t.guests[i]? = some g → ∀ route ∈ routes, g.route? = some route →
    ∃ n, t.gates.count? route = some (n + 1) ∧ (t.step (.drop i)).gates.count? route = some n
  /-- So does who counts out by hand. -/
  byHand : ∀ route ∈ routes, route ∈ t.owed →
    ∃ n, t.gates.count? route = some (n + 1) ∧
      (t.step (.decrement route)).gates.count? route = some n
  /-- A request that ran to any end leaves all counts as it found them, if nobody else
  comes or leaves meanwhile. -/
  request : ∀ router r es, (∀ e ∈ es, e.concernsOnly t.guests.length) →
    t.Roomy (.request router r :: es) →
    (t.run (.request router r :: es)).guests[t.guests.length]? = some .gone →
    ∀ route, (t.run (.request router r :: es)).gates.count? route = t.gates.count? route

theorem Exact.count_pos (h : t.Exact routes) {route : Route.Key} (registered : route ∈ routes)
    (taken : 0 < t.inFlight route) : ∃ n, t.gates.count? route = some (n + 1) := by
  refine ⟨t.inFlight route - 1, ?_⟩
  rw [h route, if_pos registered, Nat.sub_add_cancel taken]

theorem Exact.countsKept (h : t.Exact routes) : t.CountsKept routes where
  exact route registered := by rw [h route, if_pos registered]
  policy e policy := (t.step_moved e).count?_eq policy
  unknown key foreign := by
    have none : t.gates.lookup key = none := by
      have uncounted := h key
      rw [if_neg foreign] at uncounted
      exact Option.map_eq_none_iff.mp uncounted
    exact ⟨startEntry_of_none none, gates_countIn_of_none none,
      Gates.modify_of_none none Policy.Gate.decrement,
      fun spec => Gates.modify_of_none none fun g =>
        { g with policy := g.policy.update t.service.nanos spec },
      Gates.modify_of_none none fun g => { g with policy := g.policy.reset }⟩
  left i g found route registered holds := by
    have taken : 0 < t.inFlight route := by
      have counted : 0 < t.guests.countP fun g => g.route? = some route :=
        List.countP_pos_iff.mpr ⟨g, List.mem_of_getElem? found, by simpa using holds⟩
      exact Nat.add_pos_left counted _
    obtain ⟨n, counted⟩ := h.count_pos registered taken
    refine ⟨n, counted, ?_⟩
    have gates : (t.step (.drop i)).gates = t.gates.leave g.route? := by
      simp only [Traffic.step, Traffic.drop, found]
      exact gates_leave g
    rw [gates, Gates.count?_leave, counted, holds]
    simp
  byHand route registered owes := by
    have taken : 0 < t.inFlight route := Nat.add_pos_right _ (List.count_pos_iff.mpr owes)
    obtain ⟨n, counted⟩ := h.count_pos registered taken
    refine ⟨n, counted, ?_⟩
    have gates : (t.step (.decrement route)).gates = t.gates.release route := by
      simp only [Traffic.step, Traffic.decrement, if_pos owes]
      rfl
    rw [gates, Gates.count?_release, counted]
    simp
  request router r es own room left route := by
    have after : (t.run (.request router r :: es)).Exact routes := h.run room
    have places : (t.run (.request router r :: es)).inFlight route = t.inFlight route :=
      inFlight_request_gone t router r own left route
    rw [after route, h route, places]

/-- After every run with room, from a fresh start, the counts are kept. -/
theorem countsKept_run (s : Service) (routes : List Route.Key) (defaults : List String)
    (center : Control.AlarmCenter) (es : List Event)
    (room : (start s routes defaults center).Roomy es) :
    ((start s routes defaults center).run es).CountsKept routes :=
  ((exact_start s defaults center).run room).countsKept

/-- Two admissions, of which one waits for its answer and one is left to be counted out by
hand, while the policy is taken away and a third one comes and is dropped. -/
theorem countsKept_three_guests :
    ((start quiet [⟨"GET /a"⟩] [] (.ofCapacity "" 1)).run
      [.countIn ⟨"GET /a"⟩, .countIn ⟨"GET /a"⟩, .answer 1, .intoCounts 1,
       .countIn ⟨"GET /a"⟩, .reset ⟨"GET /a"⟩, .drop 2]).gates.count? ⟨"GET /a"⟩ = some 2 := by
  have room : (start quiet [⟨"GET /a"⟩] [] (.ofCapacity "" 1)).Roomy
      [.countIn ⟨"GET /a"⟩, .countIn ⟨"GET /a"⟩, .answer 1, .intoCounts 1,
       .countIn ⟨"GET /a"⟩, .reset ⟨"GET /a"⟩, .drop 2] := roomy_of_size (by decide)
  have exact := (countsKept_run quiet [⟨"GET /a"⟩] [] (.ofCapacity "" 1) _ room).exact ⟨"GET /a"⟩
    (List.mem_singleton.mpr rfl)
  have places : ((start quiet [⟨"GET /a"⟩] [] (.ofCapacity "" 1)).run
      [.countIn ⟨"GET /a"⟩, .countIn ⟨"GET /a"⟩, .answer 1, .intoCounts 1,
       .countIn ⟨"GET /a"⟩, .reset ⟨"GET /a"⟩, .drop 2]).inFlight ⟨"GET /a"⟩ = 2 := by
    decide +kernel
  rw [exact, places]

end Tollgate.Traffic
