import Mathlib.Data.List.Infix
import Tollgate.Proofs.InFlight

/-!
# Ceilings

While the ceiling of a route stays at `N`, and not more than `N` requests were in flight
to begin with, never more than `N` admissions are alive that are not over the limit. An
admission is told one more than the places taken when it was counted in. It is over the
limit exactly if these reach the ceiling, and then it takes no token.
-/

namespace Tollgate

open Control (Plane)
open Policy (Admission Gates)

-- ---------------------------------------------------------------------------
-- Guests under a ceiling

namespace Guest

/-- Whether a guest holds a place at a route and is not over the limit. A request in the
middle of its passage is not: else it would have been refused. -/
def isWithin (route : Route.Key) : Guest → Bool
  | .seated held _ _ => held.route = some route && !held.admission.isOverLimit
  | .flight f => f.route? = some route
  | _ => false

/-- Whether a guest is not over the limit, or will not be when it is answered under the
ceiling `n`. -/
def fits (n : Nat) (route : Route.Key) : Guest → Bool
  | .counted key current _ => key = route && current ≤ n
  | g => g.isWithin route

theorem fits_of_isWithin {n : Nat} {route : Route.Key} {g : Guest} (h : g.isWithin route) :
    g.fits n route := by
  cases g <;> first | exact h | cases h

theorem route?_of_fits {n : Nat} {route : Route.Key} {g : Guest} (h : g.fits n route) :
    g.route? = some route := by
  cases g with
  | counted key current _ =>
    simp only [fits, Bool.and_eq_true, decide_eq_true_eq] at h
    exact congrArg some h.1
  | seated held _ _ =>
    simp only [fits, isWithin, Bool.and_eq_true, decide_eq_true_eq] at h
    exact h.1
  | flight f => exact of_decide_eq_true h
  | gone => cases h

end Guest

namespace Traffic

variable {routes : List Route.Key} {route : Route.Key} {n : Nat} {t : Traffic}

def within (t : Traffic) (route : Route.Key) : Nat :=
  t.guests.countP (Guest.isWithin route)

def fitting (t : Traffic) (n : Nat) (route : Route.Key) : Nat :=
  t.guests.countP (Guest.fits n route)

theorem within_le_fitting (t : Traffic) (n : Nat) (route : Route.Key) :
    t.within route ≤ t.fitting n route :=
  List.countP_mono_left fun _ _ => Guest.fits_of_isWithin

theorem fitting_le_inFlight (t : Traffic) (n : Nat) (route : Route.Key) :
    t.fitting n route ≤ t.inFlight route := by
  refine Nat.le_trans (List.countP_mono_left fun g _ fits => ?_) (Nat.le_add_right _ _)
  exact decide_eq_true (Guest.route?_of_fits fits)

-- ---------------------------------------------------------------------------
-- What a step adds

theorem fitting_become_le {i : Nat} {g g' : Guest} (found : t.guests[i]? = some g)
    (h : g'.fits n route → g.fits n route) :
    (t.become i g').fitting n route ≤ t.fitting n route := by
  have moved := countP_become (Guest.fits n route) found g'
  simp only [fitting]
  by_cases fits : g'.fits n route
  · rw [if_pos fits, if_pos (h fits)] at moved
    omega
  · rw [if_neg fits] at moved
    omega

theorem fitting_welcome_le {g : Guest} (h : t.fitting n route ≤ n)
    (told : g.fits n route → t.inFlight route < n) : (t.welcome g).fitting n route ≤ n := by
  have came := countP_welcome (t := t) (Guest.fits n route) g
  have places := t.fitting_le_inFlight n route
  simp only [fitting] at h places ⊢
  by_cases fits : g.fits n route
  · rw [if_pos fits] at came
    have free := told fits
    omega
  · rw [if_neg fits] at came
    omega

theorem Exact.told {key : Route.Key} {current : Nat} (h : t.Exact routes)
    (room : t.inFlight key + 1 < Policy.countBound)
    (counted : (t.gates.countIn key).1 = some current) : current = t.inFlight key + 1 := by
  rw [Gates.countIn_fst (h.hasRoom room), h key] at counted
  split at counted
  next _ => exact (Option.some.inj counted).symm
  next _ => cases counted

/-- A request that enters under a ceiling is told one more than the places taken, and the
ceiling; its gate answers with nothing but the count changed. -/
theorem Exact.entered (h : t.Exact routes) (room : t.inFlight route + 1 < Policy.countBound)
    (ceiling : t.gates.ceiling? route = some n) (now : Nat) :
    ∃ g entry, t.gates.lookup route = some g ∧ g.policy.ceiling = n ∧
      (t.gates.enter route now).1 = some entry ∧ entry.admission = ⟨t.inFlight route + 1, n⟩ ∧
      (Admission.isOverLimit ⟨t.inFlight route + 1, n⟩ →
        entry.wait = 0 ∧ (t.gates.enter route now).2.lookup route =
          some { g with current := g.current + 1 }) := by
  obtain ⟨g, found, rfl⟩ := Option.map_eq_some_iff.mp ceiling
  have current : g.current = t.inFlight route := by
    have counted : t.gates.count? route = some g.current := by rw [Gates.count?, found]; rfl
    rw [h route] at counted
    split at counted
    next _ => exact (Option.some.inj counted).symm
    next _ => cases counted
  obtain ⟨told, after⟩ := Gates.lookup_enter (h.hasRoom room) found now
  refine ⟨g, _, found, rfl, told, ?_, fun full => ?_⟩
  · rw [Policy.Gate.admission_answer, current]
  · rw [← current] at full
    have answered : Policy.Gate.answer { g with current := g.current + 1 } (g.current + 1) now =
        (⟨⟨g.current + 1, g.policy.ceiling⟩, 0⟩, { g with current := g.current + 1 }) :=
      Policy.Gate.answer_of_overLimit now full
    rw [after, answered]
    exact ⟨rfl, rfl⟩

theorem answered (t : Traffic) (ceiling : t.gates.ceiling? route = some n) (current now : Nat) :
    ∃ entry, (t.gates.answer route current now).1 = some entry ∧
      entry.admission = ⟨current, n⟩ ∧
      (Admission.isOverLimit ⟨current, n⟩ →
        entry.wait = 0 ∧ ∀ key, (t.gates.answer route current now).2.lookup key =
          t.gates.lookup key) := by
  obtain ⟨g, found, rfl⟩ := Option.map_eq_some_iff.mp ceiling
  refine ⟨(g.answer current now).1, ?_, g.admission_answer current now, fun full => ?_⟩
  · simp only [Gates.answer, found]
    rfl
  · have answered := Policy.Gate.answer_of_overLimit now full
    refine ⟨congrArg (fun a => a.1.wait) answered, fun key => ?_⟩
    rw [Gates.answer, Gates.lookup_modify]
    by_cases same : key = route
    · rw [same, found, Option.map_some, if_pos rfl, answered]
    · simp only [same, if_false]
      exact Option.map_id'

-- ---------------------------------------------------------------------------
-- Steps and runs

theorem fitting_counted_le {key : Route.Key} {current : Nat} {gates : Gates}
    (h : t.fitting n route ≤ n) (exact : t.Exact routes)
    (room : t.inFlight key + 1 < Policy.countBound)
    (told : t.gates.countIn key = (some current, gates)) (others : Nat) :
    ((t.withGates gates).welcome (.counted key current others)).fitting n route ≤ n := by
  have heard := exact.told room (congrArg Prod.fst told)
  refine fitting_welcome_le (t := t.withGates gates) h fun fits => ?_
  simp only [Guest.fits, Bool.and_eq_true, decide_eq_true_eq] at fits
  obtain ⟨rfl, fits⟩ := fits
  rw [heard] at fits
  exact fits

theorem fitting_answered_le {i : Nat} {key : Route.Key} {current others : Nat}
    {entry : Policy.Gate.Entry} {gates : Gates} (pos : 0 < n)
    (ceiling : t.gates.ceiling? route = some n)
    (found : t.guests[i]? = some (.counted key current others))
    (told : t.gates.answer key current t.service.nanos = (some entry, gates)) :
    ((t.withGates gates).become i
      (.seated ⟨entry.admission, some key⟩ others (entry.wait ≠ 0))).fitting n route ≤
        t.fitting n route := by
  refine fitting_become_le (t := t.withGates gates) found fun fits => ?_
  simp only [Guest.fits, Guest.isWithin, Bool.and_eq_true, decide_eq_true_eq,
    Option.some.injEq, Bool.not_eq_true'] at fits ⊢
  obtain ⟨rfl, within⟩ := fits
  obtain ⟨entry', told', admission, -⟩ := t.answered ceiling current t.service.nanos
  rw [told] at told'
  obtain rfl := Option.some.inj told'
  rw [admission] at within
  exact ⟨rfl, Admission.le_of_within pos within⟩

theorem fitting_requested_le (h : t.fitting n route ≤ n) (exact : t.Exact routes) (pos : 0 < n)
    (ceiling : t.gates.ceiling? route = some n) (router : Http.Router) (r : Http.Request)
    (room : ∀ route, t.peak (.request router r) route < Policy.countBound) :
    (t.request router r).fitting n route ≤ n := by
  have came : t.request router r = (t.withService (t.service.startRequest router r).2).welcome
      (.ofJob (t.service.startRequest router r).1) := rfl
  rw [came]
  refine fitting_welcome_le h fun fits => ?_
  have held := Guest.route?_of_fits fits
  rw [route?_ofJob] at held
  have started := t.service.startRequest_started router r
  cases started with
  | aside _ holds _ => rw [holds] at held; cases held
  | passed _ _ _ answer _ => rw [answer] at held; cases held
  | waits key asks f flies holds within _ =>
    obtain rfl : key = route := by
      rw [flies] at held
      exact Option.some.inj (holds.symm.trans held)
    have fits := room key
    simp only [peak, entrance?, asks, if_true] at fits
    obtain ⟨g, entry', -, -, told', admission, -⟩ := exact.entered fits ceiling t.service.nanos
    have own := within entry' told'
    rw [admission] at own
    exact Admission.le_of_within pos own

theorem fitting_woken_le {i : Nat} {f : Service.Flight}
    (found : t.guests[i]? = some (.flight f)) :
    ((t.withService (t.service.resumeFlight f).2).become i
      (.ofJob (t.service.resumeFlight f).1)).fitting n route ≤ t.fitting n route := by
  refine fitting_become_le (t := t.withService (t.service.resumeFlight f).2) found fun fits => ?_
  have resumed := t.service.resumeFlight_resumed f
  cases resumed with
  | waits f' flies holds _ =>
    rw [flies] at fits
    exact decide_eq_true (holds.symm.trans (Guest.route?_of_fits fits))
  | ends _ answer _ => rw [answer] at fits; cases fits

/-- No event lets more guests fit than the ceiling has room for. -/
theorem Moved.fitting_le {u : Traffic} {e : Event} (moved : t.Moved e u)
    (h : t.fitting n route ≤ n) (exact : t.Exact routes) (pos : 0 < n)
    (ceiling : t.gates.ceiling? route = some n)
    (room : ∀ route, t.peak e route < Policy.countBound) : u.fitting n route ≤ n := by
  cases moved with
  | aside _ _ _ _ _ => exact h
  | ended fetched => cases fetched <;> exact h
  | direct _ _ _ _ => exact h
  | counted key current gates told =>
    have free := room key
    simp only [peak, entrance?, if_true] at free
    exact fitting_counted_le h exact free told _
  | ungoverned key gates _ =>
    exact fitting_welcome_le (t := t.withGates gates) h fun fits => by cases fits
  | answered i key current others entry gates found told =>
    exact Nat.le_trans (fitting_answered_le pos ceiling found told) h
  | token i held others waiting found =>
    exact Nat.le_trans (fitting_become_le found fun fits => fits) h
  | left i g found =>
    exact Nat.le_trans (fitting_become_le (t := t.withService (g.leave t.service)) found
      fun fits => by cases fits) h
  | owing i held others found =>
    have left : (t.become i .gone).fitting n route ≤ t.fitting n route :=
      fitting_become_le found fun fits => by cases fits
    exact Nat.le_trans left h
  | paid _ _ => exact h
  | requested router r => exact fitting_requested_le h exact pos ceiling router r room
  | woken i f found => exact Nat.le_trans (fitting_woken_le found) h

theorem fitting_run_le {es : List Event} (h : t.fitting n route ≤ n) (exact : t.Exact routes)
    (pos : 0 < n) (room : t.Roomy es)
    (ceiling : ∀ fs, fs <+: es → (t.run fs).gates.ceiling? route = some n) :
    (t.run es).fitting n route ≤ n := by
  induction es generalizing t with
  | nil => exact h
  | cons e es ih =>
    have first : t.gates.ceiling? route = some n := ceiling [] List.nil_prefix
    refine ih ((t.step_moved e).fitting_le h exact pos first room.1) (exact.step room.1) room.2 ?_
    intro fs before
    exact ceiling (e :: fs) (List.cons_prefix_cons.mpr ⟨rfl, before⟩)

-- ---------------------------------------------------------------------------
-- What admissions are told

/-- Every admission that waits for its answer was told one more than the places taken. -/
def Told (t : Traffic) : Prop :=
  ∀ key current others, .counted key current others ∈ t.guests → current = others + 1

theorem Told.welcome (h : t.Told) {g : Guest}
    (told : ∀ key current others, g = .counted key current others → current = others + 1) :
    (t.welcome g).Told := by
  intro key current others mem
  rcases List.mem_append.mp mem with old | new
  · exact h key current others old
  · exact told key current others (List.mem_singleton.mp new).symm

theorem Told.become (h : t.Told) (i : Nat) {g : Guest}
    (told : ∀ key current others, g ≠ .counted key current others) : (t.become i g).Told := by
  intro key current others mem
  rcases List.mem_or_eq_of_mem_set mem with old | new
  · exact h key current others old
  · exact absurd new.symm (told key current others)

theorem ofJob_ne_counted (job : Service.Job) (key : Route.Key) (current others : Nat) :
    Guest.ofJob job ≠ .counted key current others := by
  cases job <;> exact Guest.noConfusion

theorem Moved.told {u : Traffic} {e : Event} (moved : t.Moved e u) (h : t.Told)
    (exact : t.Exact routes) (room : ∀ route, t.peak e route < Policy.countBound) : u.Told := by
  cases moved with
  | aside _ _ _ _ _ => exact h
  | ended fetched => cases fetched <;> exact h
  | direct _ _ _ _ => exact h
  | counted key current gates told =>
    have free := room key
    simp only [peak, entrance?, if_true] at free
    refine Told.welcome (t := t.withGates gates) h fun key' current' others same => ?_
    obtain ⟨rfl, rfl, rfl⟩ := Guest.counted.inj same
    exact exact.told free (congrArg Prod.fst told)
  | ungoverned key gates _ =>
    exact Told.welcome (t := t.withGates gates) h fun _ _ _ same => by cases same
  | answered i _ _ _ _ gates _ _ =>
    exact Told.become (t := t.withGates gates) h i fun _ _ _ same => by cases same
  | token i _ _ _ _ => exact h.become i fun _ _ _ same => by cases same
  | left i g _ =>
    exact Told.become (t := t.withService (g.leave t.service)) h i fun _ _ _ same => by cases same
  | owing i _ _ _ => exact h.become i fun _ _ _ same => by cases same
  | paid _ _ => exact h
  | requested router r =>
    exact Told.welcome (t := t.withService (t.service.startRequest router r).2) h
      fun key current others same => absurd same (ofJob_ne_counted _ key current others)
  | woken i f _ =>
    exact Told.become (t := t.withService (t.service.resumeFlight f).2) h i (ofJob_ne_counted _)

theorem Told.run (h : t.Told) (exact : t.Exact routes) {es : List Event} (room : t.Roomy es) :
    (t.run es).Told := by
  induction es generalizing t with
  | nil => exact h
  | cons e es ih =>
    exact ih ((t.step_moved e).told h exact room.1) (exact.step room.1) room.2

-- ---------------------------------------------------------------------------
-- All of it

structure CeilingKept (n : Nat) (route : Route.Key) (t : Traffic) : Prop where
  /-- No more admissions are alive that are not over the limit. -/
  within : t.within route ≤ n
  /-- Who is counted in is told one more than the places taken then. -/
  counted : t.inFlight route + 1 < Policy.countBound →
    (t.step (.countIn route)).guests =
      t.guests ++ [.counted route (t.inFlight route + 1) (t.inFlight route)]
  /-- Who is answered hears that number and the ceiling, is over the limit exactly if the
  others reached the ceiling, and then takes no token: every gate stays as it is. -/
  answered : ∀ i current others, t.guests[i]? = some (.counted route current others) →
    ∃ waiting,
      (t.step (.answer i)).guests[i]? =
        some (.seated ⟨⟨others + 1, n⟩, some route⟩ others waiting) ∧
      (Admission.isOverLimit ⟨others + 1, n⟩ ↔ n ≤ others) ∧
      (n ≤ others → waiting = false ∧
        ∀ key, (t.step (.answer i)).gates.lookup key = t.gates.lookup key)
  /-- The same for who is counted in and answered at once, as requests are: over the limit
  its gate keeps its policy with its tokens. -/
  entered : t.inFlight route + 1 < Policy.countBound → ∀ now, ∃ g entry,
    t.gates.lookup route = some g ∧ (t.gates.enter route now).1 = some entry ∧
      entry.admission = ⟨t.inFlight route + 1, n⟩ ∧
      (entry.admission.isOverLimit ↔ n ≤ t.inFlight route) ∧
      (n ≤ t.inFlight route → entry.wait = 0 ∧
        (t.gates.enter route now).2.lookup route = some { g with current := g.current + 1 })

theorem Exact.count?_of_ceiling (h : t.Exact routes) (ceiling : t.gates.ceiling? route = some n) :
    t.gates.count? route = some (t.inFlight route) := by
  obtain ⟨g, found, -⟩ := Option.map_eq_some_iff.mp ceiling
  have counted : t.gates.count? route = some g.current := by rw [Gates.count?, found]; rfl
  have places := h route
  split at places
  next _ => exact places
  next _ => rw [counted] at places; cases places

theorem guests_countIn (exact : t.Exact routes) (ceiling : t.gates.ceiling? route = some n)
    (room : t.inFlight route + 1 < Policy.countBound) :
    (t.countIn route).guests =
      t.guests ++ [.counted route (t.inFlight route + 1) (t.inFlight route)] := by
  have told := Gates.countIn_fst (exact.hasRoom room)
  rw [exact.count?_of_ceiling ceiling] at told
  simp only [countIn]
  split
  next current gates counted =>
    obtain rfl := exact.told room (congrArg Prod.fst counted)
    rfl
  next gates uncounted =>
    rw [uncounted] at told
    cases told

theorem step_answer (t : Traffic) (ceiling : t.gates.ceiling? route = some n) {i : Nat}
    {current others : Nat} (found : t.guests[i]? = some (.counted route current others)) :
    ∃ waiting,
      (t.step (.answer i)).guests[i]? =
        some (.seated ⟨⟨current, n⟩, some route⟩ others waiting) ∧
      (Admission.isOverLimit ⟨current, n⟩ → waiting = false ∧
        ∀ key, (t.step (.answer i)).gates.lookup key = t.gates.lookup key) := by
  obtain ⟨entry, told, admission, full⟩ := t.answered ceiling current t.service.nanos
  obtain ⟨inside, -⟩ := List.getElem?_eq_some_iff.mp found
  have after : t.step (.answer i) =
      (t.withGates (t.gates.answer route current t.service.nanos).2).become i
        (.seated ⟨entry.admission, some route⟩ others (entry.wait ≠ 0)) := by
    simp only [step, answer, found]
    split
    next entry' gates answered =>
      rw [answered] at told ⊢
      obtain rfl := Option.some.inj told
      rfl
    next gates unanswered =>
      rw [unanswered] at told
      cases told
  refine ⟨entry.wait ≠ 0, ?_, fun isOver => ?_⟩
  · rw [after, admission]
    exact List.getElem?_set_self inside
  · obtain ⟨wait, gates⟩ := full isOver
    refine ⟨by simp [wait], fun key => ?_⟩
    rw [after]
    exact gates key

theorem ceilingKept (exact : t.Exact routes) (told : t.Told) (pos : 0 < n)
    (ceiling : t.gates.ceiling? route = some n) (fits : t.fitting n route ≤ n) :
    t.CeilingKept n route where
  within := Nat.le_trans (t.within_le_fitting n route) fits
  counted room := guests_countIn exact ceiling room
  answered i current others found := by
    obtain rfl := told route current others (List.mem_of_getElem? found)
    obtain ⟨waiting, seated, full⟩ := t.step_answer ceiling found
    refine ⟨waiting, seated, Admission.isOverLimit_iff pos, fun reached => ?_⟩
    exact full ((Admission.isOverLimit_iff pos).mpr reached)
  entered room now := by
    obtain ⟨g, entry, found, -, told, admission, full⟩ := exact.entered room ceiling now
    refine ⟨g, entry, found, told, admission, ?_, fun reached => ?_⟩
    · rw [admission]
      exact Admission.isOverLimit_iff pos
    · exact full ((Admission.isOverLimit_iff pos).mpr reached)

/-- A stretch `es` of a run with room, after any run `es₀` from a fresh start: if the
ceiling of a route is `n` throughout and not more than `n` requests of it were in flight
when the stretch began, the ceiling is kept at every point of the stretch. -/
theorem ceilingKept_stretch (s : Service) (routes : List Route.Key) (defaults : List String)
    (center : Control.AlarmCenter) (es₀ es : List Event) (route : Route.Key) (n : Nat)
    (room : (start s routes defaults center).Roomy (es₀ ++ es)) (pos : 0 < n)
    (ceiling : ∀ fs, fs <+: es →
      (((start s routes defaults center).run es₀).run fs).gates.ceiling? route = some n)
    (few : ((start s routes defaults center).run es₀).inFlight route ≤ n) :
    ∀ fs, fs <+: es →
      (((start s routes defaults center).run es₀).run fs).CeilingKept n route := by
  rintro fs ⟨rest, rfl⟩
  obtain ⟨before, during⟩ := roomy_append.mp room
  obtain ⟨during, -⟩ := roomy_append.mp during
  have exact := (exact_start s defaults center).run before
  have told : (start s routes defaults center).Told := fun _ _ _ mem => by cases mem
  have fits := Nat.le_trans (fitting_le_inFlight _ n route) few
  refine ceilingKept (exact.run during)
    ((told.run (exact_start s defaults center) before).run exact during) pos
    (ceiling fs (List.prefix_append fs rest)) (fitting_run_le fits exact pos during ?_)
  intro gs earlier
  exact ceiling gs (earlier.trans (List.prefix_append fs rest))

/-- Two admissions under a ceiling of one, while the row is applied again with a rate. -/
theorem ceilingKept_two_guests :
    ((start quiet [⟨"GET /a"⟩] [] (.ofCapacity "" 1)).run
      [.update ⟨"GET /a"⟩ ⟨1, 0, ""⟩, .countIn ⟨"GET /a"⟩, .countIn ⟨"GET /a"⟩, .answer 1,
       .update ⟨"GET /a"⟩ ⟨1, 5, "1s"⟩, .answer 0]).within ⟨"GET /a"⟩ ≤ 1 := by
  have ceiling : ∀ fs ∈ List.inits [Event.countIn ⟨"GET /a"⟩, .countIn ⟨"GET /a"⟩, .answer 1,
        .update ⟨"GET /a"⟩ ⟨1, 5, "1s"⟩, .answer 0],
      (((start quiet [⟨"GET /a"⟩] [] (.ofCapacity "" 1)).run
        [.update ⟨"GET /a"⟩ ⟨1, 0, ""⟩]).run fs).gates.ceiling? ⟨"GET /a"⟩ = some 1 := by
    decide +kernel
  exact (ceilingKept_stretch quiet [⟨"GET /a"⟩] [] (.ofCapacity "" 1)
    [.update ⟨"GET /a"⟩ ⟨1, 0, ""⟩] _ ⟨"GET /a"⟩ 1 (roomy_of_size (by decide)) (by decide)
    (fun fs before => ceiling fs ((List.mem_inits fs _).mpr before)) (by decide +kernel) _
    List.prefix_rfl).within

end Traffic

end Tollgate
