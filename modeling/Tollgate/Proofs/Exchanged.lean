import Tollgate.Proofs.Forwarding
import Tollgate.Proofs.Traffic

/-!
# Runs with other headers

Headers that are not heeded are exchanged for others, in as many requests of a run as one
likes. Then the run goes on as before, whatever happens between and while the requests are
under way: the service is the same after every event, every guest holds the same place,
and every request comes to the same.
-/

namespace Tollgate

open Http (Mount Request Router)

namespace Service

variable (s : Service)

-- ---------------------------------------------------------------------------
-- Settings

def settings : Config × Admission.ScriptRunner (List Admission.ScriptNote) :=
  (s.config, s.runner)

theorem settings_handled (m : Mount) (r : Request) (deadline : Timer) :
    (s.handled m r deadline).2.settings = s.settings := by
  simp only [handled]
  split <;> rfl

theorem settings_arrive (m : Mount) (r : Request) (deadline : Timer) :
    (s.arrive m r deadline).2.settings = s.settings := by
  simp only [arrive]
  split
  next _ => rfl
  next _ => split <;> rfl
  next _ =>
    split
    next _ => exact settings_handled _ m r deadline
    next _ => rfl

theorem settings_startRequest (router : Router) (r : Request) :
    (s.startRequest router r).2.settings = s.settings := by
  simp only [startRequest]
  split
  next _ => rfl
  next _ =>
    split
    next _ => rfl
    next _ => rfl
    next m _ => exact settings_arrive _ m _ _

theorem settings_dropFlight (f : Flight) :
    (s.dropFlight f).settings = s.settings := by
  rw [dropFlight]
  split <;> rfl

theorem settings_resumeFlight (f : Flight) :
    (s.resumeFlight f).2.settings = s.settings := by
  rw [resumeFlight]
  split
  next _ => exact s.settings_dropFlight f
  next _ =>
    split
    next _ =>
      split
      next _ => rfl
      next _ => exact s.settings_handled f.mount f.request f.deadline
      next _ => rfl
    next _ => rfl

end Service

-- ---------------------------------------------------------------------------
-- Guests

section Pointwise

variable {α : Type} {R : α → α → Prop} {l l' : List α}

theorem rel_getElem? (h : List.Forall₂ R l l') (i : Nat) : Option.Rel R l[i]? l'[i]? := by
  induction h generalizing i with
  | nil => exact .none
  | cons head _ ih =>
    cases i with
    | zero => exact .some head
    | succ i => exact ih i

theorem forall₂_set (h : List.Forall₂ R l l') {a b : α} (related : R a b) (i : Nat) :
    List.Forall₂ R (l.set i a) (l'.set i b) := by
  induction h generalizing i with
  | nil => exact .nil
  | cons head rest ih =>
    cases i with
    | zero => exact .cons related rest
    | succ i => exact .cons head (ih i)

end Pointwise

namespace Guest

/-- Two guests differ at most in the headers of a request under way. -/
inductive SameButHeaders : Guest → Guest → Prop
  | refl (g : Guest) : SameButHeaders g g
  | flight (f : Service.Flight) (r' : Request) (same : f.request.SameButHeaders r') :
      SameButHeaders (.flight f) (.flight { f with request := r' })

variable {g g' : Guest}

theorem SameButHeaders.route? (h : g.SameButHeaders g') : g'.route? = g.route? := by
  cases h <;> rfl

theorem sameButHeaders_ofJob {r r' : Request} (same : r.SameButHeaders r') {job job' : Service.Job}
    (course : Service.SameCourse r r' job job') : (ofJob job).SameButHeaders (ofJob job') := by
  cases course with
  | underWay m stage timer deadline => exact .flight ⟨m, r, stage, timer, deadline⟩ r' same
  | late => exact .refl .gone
  | given _ => exact .refl .gone
  | handled _ => exact .refl .gone

end Guest

/-- Two events differ at most in what a request says about its client without being heeded. -/
inductive Event.SameButUnheeded (trust : Bool) : Event → Event → Prop
  | refl (e : Event) : SameButUnheeded trust e e
  | request (router : Router) (r r' : Request) (same : r.SameButHeaders r')
      (unheeded : Admission.Unheeded trust r) (unheeded' : Admission.Unheeded trust r') :
      SameButUnheeded trust (.request router r) (.request router r')

namespace Traffic

-- ---------------------------------------------------------------------------
-- Traffic with other headers

structure SameButHeaders (t u : Traffic) : Prop where
  service : u.service = t.service
  guests : List.Forall₂ Guest.SameButHeaders t.guests u.guests
  owed : u.owed = t.owed
  fetched : u.fetched = t.fetched

def trusts (t : Traffic) : Bool :=
  t.service.config.governance.trustForwardedFor

def outcome? (t : Traffic) : Event → Option Service.Job
  | .request router r => some (t.service.startRequest router r).1
  | .wake i =>
    match t.guests[i]? with
    | some (.flight f) => some (t.service.resumeFlight f).1
    | _ => none
  | _ => none

def outcomes (t : Traffic) : List Event → List (Option Service.Job)
  | [] => []
  | e :: es => t.outcome? e :: (t.step e).outcomes es

def SameOutcome (job job' : Service.Job) : Prop :=
  ∃ r r' : Request, r.SameButHeaders r' ∧ Service.SameCourse r r' job job'

variable {t u : Traffic}

theorem SameButHeaders.inFlight (h : t.SameButHeaders u) (route : Route.Key) :
    u.inFlight route = t.inFlight route := by
  have counted : ∀ {gs gs' : List Guest}, List.Forall₂ Guest.SameButHeaders gs gs' →
      gs'.countP (fun g => g.route? = some route) = gs.countP fun g => g.route? = some route := by
    intro gs gs' same
    induction same with
    | nil => rfl
    | cons head _ ih => rw [List.countP_cons, List.countP_cons, ih, head.route?]
  rw [Traffic.inFlight, counted h.guests, h.owed, Traffic.inFlight]

theorem SameButHeaders.become (h : t.SameButHeaders u) {g g' : Guest} (same : g.SameButHeaders g')
    (i : Nat) : (t.become i g).SameButHeaders (u.become i g') :=
  { h with guests := forall₂_set h.guests same i }

theorem SameButHeaders.welcome (h : t.SameButHeaders u) {g g' : Guest}
    (same : g.SameButHeaders g') : (t.welcome g).SameButHeaders (u.welcome g') :=
  { h with guests := List.rel_append h.guests (.cons same .nil) }

theorem SameButHeaders.withService (h : t.SameButHeaders u) {s s' : Service} (same : s' = s) :
    (t.withService s).SameButHeaders (u.withService s') :=
  { h with service := same }

-- ---------------------------------------------------------------------------
-- One event

theorem SameButHeaders.request (h : t.SameButHeaders u)
    (passthrough : t.service.runner = .passthrough) {r r' : Request}
    (alike : Admission.Alike t.trusts r r') (router : Router) :
    (t.request router r).SameButHeaders (u.request router r') ∧
      SameOutcome (t.service.startRequest router r).1 (u.service.startRequest router r').1 := by
  have same : (t.service.identified r).2.SameButHeaders (t.service.identified r').2 :=
    (t.service.alike_of_identified t.trusts r).same.symm.trans
      (alike.same.trans (t.service.alike_of_identified t.trusts r').same)
  have ended := Service.sameEnd_startRequest passthrough alike router
  rw [Traffic.request, Traffic.request, h.service]
  exact ⟨(h.withService ended.service).welcome (Guest.sameButHeaders_ofJob same ended.course),
    _, _, same, ended.course⟩

theorem SameButHeaders.guest (h : t.SameButHeaders u) (i : Nat) :
    u.guests[i]? = t.guests[i]? ∨
      ∃ f r', t.guests[i]? = some (.flight f) ∧ u.guests[i]? = some (.flight { f with request := r' }) ∧
        f.request.SameButHeaders r' := by
  have found := rel_getElem? h.guests i
  generalize t.guests[i]? = g at found ⊢
  generalize u.guests[i]? = g' at found ⊢
  cases found with
  | none => exact .inl rfl
  | some same =>
    cases same with
    | refl => exact .inl rfl
    | flight f r' same => exact .inr ⟨f, r', rfl, rfl, same⟩

theorem SameButHeaders.resumed (h : t.SameButHeaders u)
    (passthrough : t.service.runner = .passthrough) {f : Service.Flight} {r' : Request}
    (same : f.request.SameButHeaders r') (i : Nat) :
    let x := t.service.resumeFlight f
    let y := t.service.resumeFlight { f with request := r' }
    ((t.withService x.2).become i (.ofJob x.1)).SameButHeaders
        ((u.withService y.2).become i (.ofJob y.1)) ∧ SameOutcome x.1 y.1 := by
  have ended := Service.sameEnd_resumeFlight passthrough f r'
  exact ⟨(h.withService ended.service).become (Guest.sameButHeaders_ofJob same ended.course) i,
    _, _, same, ended.course⟩

theorem SameButHeaders.wake (h : t.SameButHeaders u)
    (passthrough : t.service.runner = .passthrough) (i : Nat) :
    (t.wake i).SameButHeaders (u.wake i) ∧
      Option.Rel SameOutcome (t.outcome? (.wake i)) (u.outcome? (.wake i)) := by
  simp only [Traffic.wake, outcome?, h.service]
  rcases h.guest i with same | ⟨f, r', found, found', same⟩
  · rw [same]
    cases t.guests[i]? with
    | none => exact ⟨h, .none⟩
    | some g =>
      cases g with
      | flight f => exact (h.resumed passthrough (.refl f.request) i).imp_right .some
      | _ => exact ⟨h, .none⟩
  · rw [found, found']
    exact (h.resumed passthrough same i).imp_right .some

theorem SameButHeaders.gates (h : t.SameButHeaders u) : u.gates = t.gates :=
  congrArg (fun s : Service => s.control.plane.gates) h.service

theorem SameButHeaders.withGates (h : t.SameButHeaders u) (gates : Policy.Gates) :
    (t.withGates gates).SameButHeaders (u.withGates gates) := by
  refine h.withService ?_
  rw [plane, plane, h.service]

theorem SameButHeaders.countIn (h : t.SameButHeaders u) (route : Route.Key) :
    (t.countIn route).SameButHeaders (u.countIn route) := by
  rw [Traffic.countIn, Traffic.countIn, h.gates, h.inFlight]
  split
  next _ gates _ => exact (h.withGates gates).welcome (.refl _)
  next gates _ => exact (h.withGates gates).welcome (.refl _)

theorem SameButHeaders.answer (h : t.SameButHeaders u) (i : Nat) :
    (t.answer i).SameButHeaders (u.answer i) := by
  rw [Traffic.answer, Traffic.answer, h.gates, h.service]
  rcases h.guest i with same | ⟨f, r', found, found', -⟩
  · rw [same]
    split
    next route current others _ =>
      split
      next entry gates _ => exact (h.withGates gates).become (.refl _) i
      next _ _ => exact h
    next _ => exact h
  · rw [found, found']
    exact h

theorem SameButHeaders.token (h : t.SameButHeaders u) (i : Nat) :
    (t.token i).SameButHeaders (u.token i) := by
  rw [Traffic.token, Traffic.token]
  rcases h.guest i with same | ⟨f, r', found, found', -⟩
  · rw [same]
    split
    next held others _ _ => exact h.become (.refl _) i
    next _ => exact h
  · rw [found, found']
    exact h

theorem SameButHeaders.drop (h : t.SameButHeaders u) (i : Nat) :
    (t.drop i).SameButHeaders (u.drop i) := by
  rw [Traffic.drop, Traffic.drop, h.service]
  rcases h.guest i with same | ⟨f, r', found, found', -⟩
  · rw [same]
    split
    next g _ => exact (h.withService rfl).become (.refl _) i
    next _ => exact h
  · rw [found, found']
    exact (h.withService rfl).become (.refl _) i

theorem SameButHeaders.intoCounts (h : t.SameButHeaders u) (i : Nat) :
    (t.intoCounts i).SameButHeaders (u.intoCounts i) := by
  rw [Traffic.intoCounts, Traffic.intoCounts]
  rcases h.guest i with same | ⟨f, r', found, found', -⟩
  · rw [same]
    split
    next held others _ =>
      exact { h.become (.refl .gone) i with owed := by rw [h.owed] }
    next _ => exact h
  · rw [found, found']
    exact h

theorem SameButHeaders.decrement (h : t.SameButHeaders u) (route : Route.Key) :
    (t.decrement route).SameButHeaders (u.decrement route) := by
  rw [Traffic.decrement, Traffic.decrement, h.owed, h.gates]
  split
  next _ => exact { h.withGates (t.gates.release route) with owed := rfl }
  next _ => exact h

theorem SameButHeaders.step (h : t.SameButHeaders u)
    (passthrough : t.service.runner = .passthrough) (e : Event) :
    (t.step e).SameButHeaders (u.step e) ∧
      Option.Rel SameOutcome (t.outcome? e) (u.outcome? e) := by
  cases e with
  | request router r => exact (h.request passthrough (.refl _ r) router).imp_right .some
  | wake i => exact h.wake passthrough i
  | countIn route => exact ⟨h.countIn route, .none⟩
  | answer i => exact ⟨h.answer i, .none⟩
  | token i => exact ⟨h.token i, .none⟩
  | drop i => exact ⟨h.drop i, .none⟩
  | intoCounts i => exact ⟨h.intoCounts i, .none⟩
  | decrement route => exact ⟨h.decrement route, .none⟩
  | endCycle fetched =>
    obtain ⟨_, guests, _, _⟩ := u
    obtain ⟨rfl, same, rfl, rfl⟩ := h
    simp only [Traffic.step]
    split
    next _ => cases fetched <;> exact ⟨⟨rfl, same, rfl, rfl⟩, .none⟩
    next _ => exact ⟨⟨rfl, same, rfl, rfl⟩, .none⟩
  | _ =>
    obtain ⟨_, guests, _, _⟩ := u
    obtain ⟨rfl, same, rfl, rfl⟩ := h
    exact ⟨⟨rfl, same, rfl, rfl⟩, .none⟩

-- ---------------------------------------------------------------------------
-- What no event changes

theorem settings_leave (g : Guest) (s : Service) : (g.leave s).settings = s.settings := by
  have held : ∀ h : Service.Held, (s.dropHeld h).settings = s.settings := fun h => by
    rw [Service.dropHeld]
    split <;> rfl
  cases g with
  | counted route _ _ => exact held _
  | seated h _ _ => exact held h
  | flight f => exact s.settings_dropFlight f
  | gone => rfl

theorem settings_step (t : Traffic) (e : Event) :
    (t.step e).service.settings = t.service.settings := by
  cases e with
  | request router r => exact t.service.settings_startRequest router r
  | wake i =>
    simp only [Traffic.step, Traffic.wake]
    split
    next f _ => exact t.service.settings_resumeFlight f
    next _ => rfl
  | countIn route =>
    simp only [Traffic.step, Traffic.countIn]
    split <;> rfl
  | answer i =>
    simp only [Traffic.step, Traffic.answer]
    split
    next _ _ _ _ => split <;> rfl
    next _ => rfl
  | token i =>
    simp only [Traffic.step, Traffic.token]
    split <;> rfl
  | drop i =>
    simp only [Traffic.step, Traffic.drop]
    split
    next g _ => exact settings_leave g t.service
    next _ => rfl
  | intoCounts i =>
    simp only [Traffic.step, Traffic.intoCounts]
    split <;> rfl
  | decrement route =>
    simp only [Traffic.step, Traffic.decrement]
    split <;> rfl
  | endCycle fetched =>
    simp only [Traffic.step]
    split
    next _ => cases fetched <;> rfl
    next _ => rfl
  | _ => rfl

theorem settings_run (t : Traffic) (es : List Event) :
    (t.run es).service.settings = t.service.settings := by
  induction es generalizing t with
  | nil => rfl
  | cons e es ih => exact (ih (t.step e)).trans (t.settings_step e)

theorem trusts_of_settings (same : u.service.settings = t.service.settings) :
    u.trusts = t.trusts :=
  congrArg (fun settings => settings.1.governance.trustForwardedFor) same

theorem passthrough_of_settings (same : u.service.settings = t.service.settings)
    (passthrough : t.service.runner = .passthrough) : u.service.runner = .passthrough :=
  (congrArg Prod.snd same).trans passthrough

-- ---------------------------------------------------------------------------
-- Two runs

theorem SameButHeaders.step_event (h : t.SameButHeaders u)
    (passthrough : t.service.runner = .passthrough) {e e' : Event}
    (same : Event.SameButUnheeded t.trusts e e') :
    (t.step e).SameButHeaders (u.step e') ∧
      Option.Rel SameOutcome (t.outcome? e) (u.outcome? e') := by
  cases same with
  | refl => exact h.step passthrough e
  | request router r r' same unheeded unheeded' =>
    exact (h.request passthrough (unheeded.alike unheeded' same) router).imp_right .some

theorem SameButHeaders.run (h : t.SameButHeaders u)
    (passthrough : t.service.runner = .passthrough) {es es' : List Event}
    (same : List.Forall₂ (Event.SameButUnheeded t.trusts) es es') :
    (t.run es).SameButHeaders (u.run es') ∧
      List.Forall₂ (Option.Rel SameOutcome) (t.outcomes es) (u.outcomes es') := by
  induction es generalizing t u es' with
  | nil =>
    cases same
    exact ⟨h, .nil⟩
  | cons e es ih =>
    cases same with
    | cons first rest =>
      obtain ⟨stepped, outcome⟩ := h.step_event passthrough first
      have settings := t.settings_step e
      obtain ⟨ran, outcomes⟩ := ih stepped (passthrough_of_settings settings passthrough)
        (trusts_of_settings settings ▸ rest)
      exact ⟨ran, .cons outcome outcomes⟩

/-- Let a service, in any state, run scripts that change nothing. Two runs in which headers
that are not heeded are exchanged give the same outcomes and leave the same behind. And in
every state that a run comes to, requests that differ in such headers are treated alike, a
forwarding header that tells no address is as good as none, and a request is blocked if and
only if its peer is. -/
theorem headers_unheeded {t : Traffic} (passthrough : t.service.runner = .passthrough)
    {es es' : List Event} (same : List.Forall₂ (Event.SameButUnheeded t.trusts) es es') :
    (t.run es).SameButHeaders (t.run es') ∧
      List.Forall₂ (Option.Rel SameOutcome) (t.outcomes es) (t.outcomes es') ∧
      let s := (t.run es).service
      (∀ r r', r.SameButHeaders r' → Admission.Unheeded t.trusts r →
        Admission.Unheeded t.trusts r' → s.TreatsAlike r r') ∧
      (∀ r, Admission.TellsNone r → s.Disregards r) ∧
      ∀ r, Admission.Unheeded t.trusts r → ∀ a, s.Blocked r a ↔
        r.peer.map Address.Socket.address = some a ∧ s.control.plane.blocked.blocks a := by
  have refl : t.SameButHeaders t := ⟨rfl, List.forall₂_same.mpr fun g _ => .refl g, rfl, rfl⟩
  obtain ⟨ran, outcomes⟩ := refl.run passthrough same
  have settings := t.settings_run es
  have runner := passthrough_of_settings settings passthrough
  have trusts : (t.run es).service.config.governance.trustForwardedFor = t.trusts :=
    trusts_of_settings settings
  refine ⟨ran, outcomes, fun r r' same unheeded unheeded' => ?_, fun r tells => ?_,
    fun r unheeded a => ?_⟩
  · exact Service.treatsAlike runner (trusts ▸ unheeded.alike unheeded' same)
  · exact Service.disregards runner tells
  · exact Service.blocked_iff_of_unheeded (trusts ▸ unheeded) a

def proxied : Service :=
  { quiet with
    config := { Config.default with governance := ⟨true, "alarm", 100⟩ } }

def listedRow : Policy.Row :=
  ⟨"listed", .blockIp, .enabled, "10.0.0.0/24", ⟨0, 0⟩, ⟨9, 0⟩, ⟨0, 0⟩⟩

def portRequest : Request :=
  { Service.xRequest with
    headers := [(Admission.forwardedHeader, "192.0.2.1:80, 192.0.2.2")],
    peer := some ⟨.v4 0x0a000007#32, 4000⟩ }

def listedThen (r : Request) : List Event :=
  [.beginCycle, .endCycle (.ok [listedRow]), .request ⟨[Service.xRoute]⟩ r]

theorem headers_unheeded_port :
    let t := start proxied [Service.xRoute.key] ["key"] (.ofCapacity "alarm" 1)
    (t.run (listedThen portRequest)).SameButHeaders
        (t.run (listedThen (portRequest.without Admission.forwardedHeader))) ∧
      (t.run (listedThen portRequest)).service.Blocked portRequest (.v4 0x0a000007#32) := by
  intro t
  have tells : Admission.TellsNone portRequest :=
    .stray "192.0.2.1:80, 192.0.2.2" rfl (by decide +kernel)
  have same : List.Forall₂ (Event.SameButUnheeded t.trusts) (listedThen portRequest)
      (listedThen (portRequest.without Admission.forwardedHeader)) :=
    .cons (.refl _) (.cons (.refl _) (.cons (.request _ _ _ (portRequest.sameButHeaders_without _)
      (.inr tells) (.inr (Admission.tellsNone_without _))) .nil))
  obtain ⟨ran, -, -, -, blocked⟩ := headers_unheeded (t := t) rfl same
  exact ⟨ran, (blocked portRequest (.inr tells) _).mpr ⟨rfl, by decide +kernel⟩⟩

end Traffic

end Tollgate
