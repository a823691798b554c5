import Tollgate.Proofs.Decisions
import Tollgate.Proofs.Tables
import Tollgate.Proofs.Texts

/-!
# Headers that are not heeded

A service that does not trust forwarding reads no header to decide on a request. One that
does reads the forwarding header; where no address stands first in it, the client is the
peer, as if there were no such header. So requests that differ in headers like these alone
are decided alike, in every state. With scripts that change nothing they also come to the
same and leave the service in the same state.
-/

namespace Tollgate

open Http (Headers Mount Request Response Router)

-- ---------------------------------------------------------------------------
-- Requests and their headers

namespace Http.Request

structure SameButHeaders (r r' : Request) : Prop where
  method : r'.method = r.method
  uri : r'.uri = r.uri
  peer : r'.peer = r.peer

def without (r : Request) (name : String) : Request :=
  { r with headers := r.headers.filter fun (n, _) => n ≠ name }

namespace SameButHeaders

variable {r r' r'' : Request}

theorem refl (r : Request) : r.SameButHeaders r :=
  ⟨rfl, rfl, rfl⟩

theorem symm (h : r.SameButHeaders r') : r'.SameButHeaders r :=
  ⟨h.method.symm, h.uri.symm, h.peer.symm⟩

theorem trans (h : r.SameButHeaders r') (h' : r'.SameButHeaders r'') : r.SameButHeaders r'' :=
  ⟨h'.method.trans h.method, h'.uri.trans h.uri, h'.peer.trans h.peer⟩

end SameButHeaders

theorem sameButHeaders_without (r : Request) (name : String) :
    r.SameButHeaders (r.without name) :=
  ⟨rfl, rfl, rfl⟩

theorem get?_without_self (r : Request) (name : String) :
    (r.without name).headers.get? name = none := by
  rw [Headers.get?, List.lookup_eq_none_iff]
  intro header mem
  have kept : header.1 ≠ name := of_decide_eq_true (List.mem_filter.mp mem).2
  exact bne_iff_ne.mpr kept.symm

theorem get?_without_other (r : Request) {name other : String} (differs : other ≠ name) :
    (r.without name).headers.get? other = r.headers.get? other :=
  Policy.lookup_filter_other differs r.headers

end Http.Request

namespace Admission

-- ---------------------------------------------------------------------------
-- What the forwarding header tells

def firstHop (value : String) : String :=
  .ofList (value.toList.takeWhile (· != ','))

inductive TellsNone (r : Request) : Prop
  | missing (none : r.headers.get? forwardedHeader = none)
  | unreadable (value : String) (first : r.headers.get? forwardedHeader = some value)
      (unreadable : ¬Headers.isReadable value)
  /-- Nothing at all, a name, an address with a port, or anything else. -/
  | stray (value : String) (first : r.headers.get? forwardedHeader = some value)
      (noAddress : Address.ofText? (Text.trim (firstHop value)) = none)

/-- Nothing is believed that the headers of a request say about the client. -/
def Unheeded (trust : Bool) (r : Request) : Prop :=
  trust = false ∨ TellsNone r

variable {r r' : Request} {trust : Bool}

theorem head?_piecesOf_comma (value : String) :
    (Text.piecesOf (· == ',') value).head? = some (firstHop value) := by
  rw [Text.piecesOf, List.head?_map, Text.head?_pieces, firstHop]
  rfl

theorem forwardedAddress_of_readable {value : String}
    (first : r.headers.get? forwardedHeader = some value) (readable : Headers.isReadable value) :
    forwardedAddress r = Address.ofText? (Text.trim (firstHop value)) := by
  have read : r.headers.readable? forwardedHeader = some value :=
    Option.filter_eq_some_iff.mpr ⟨first, readable⟩
  rw [forwardedAddress, read, Option.bind_eq_bind, Option.bind_some, head?_piecesOf_comma]
  rfl

theorem forwardedAddress_eq_none_iff : forwardedAddress r = none ↔ TellsNone r := by
  constructor
  · intro tells
    cases first : r.headers.get? forwardedHeader with
    | none => exact .missing first
    | some value =>
      by_cases readable : Headers.isReadable value
      · exact .stray value first (forwardedAddress_of_readable first readable ▸ tells)
      · exact .unreadable value first readable
  · rintro (missing | ⟨value, first, unreadable⟩ | ⟨value, first, noAddress⟩)
    · simp [forwardedAddress, Headers.readable?, missing]
    · simp [forwardedAddress, Headers.readable?, first, unreadable]
    · by_cases readable : Headers.isReadable value
      · rw [forwardedAddress_of_readable first readable, noAddress]
      · simp [forwardedAddress, Headers.readable?, first, readable]

theorem Unheeded.clientAddress (h : Unheeded trust r) :
    clientAddress trust r = r.peer.map Address.Socket.address := by
  rcases h with rfl | tells
  · rfl
  · cases trust with
    | false => rfl
    | true => simp [Admission.clientAddress, forwardedAddress_eq_none_iff.mpr tells]

theorem tellsNone_without (r : Request) : TellsNone (r.without forwardedHeader) :=
  .missing (r.get?_without_self forwardedHeader)

-- ---------------------------------------------------------------------------
-- Requests that are decided alike

/-- Two requests differ in headers that say nothing about the client. -/
structure Alike (trust : Bool) (r r' : Request) : Prop where
  same : r.SameButHeaders r'
  client : clientAddress trust r' = clientAddress trust r

namespace Alike

theorem refl (trust : Bool) (r : Request) : Alike trust r r :=
  ⟨.refl r, rfl⟩

theorem symm (h : Alike trust r r') : Alike trust r' r :=
  ⟨h.same.symm, h.client.symm⟩

theorem trans {r'' : Request} (h : Alike trust r r') (h' : Alike trust r' r'') :
    Alike trust r r'' :=
  ⟨h.same.trans h'.same, h'.client.trans h.client⟩

theorem of_get? (same : r.SameButHeaders r')
    (forwarded : r'.headers.get? forwardedHeader = r.headers.get? forwardedHeader) :
    Alike trust r r' := by
  refine ⟨same, ?_⟩
  simp only [clientAddress, forwardedAddress, Headers.readable?, forwarded, same.peer]

theorem judge (h : Alike trust r r') (c : Control) (m : Mount) (now : Nat) :
    judge c trust m r' now = judge c trust m r now := by
  rw [Admission.judge, blockedClient, h.client, h.same.uri]
  rfl

end Alike

theorem Unheeded.alike (h : Unheeded trust r) (h' : Unheeded trust r')
    (same : r.SameButHeaders r') : Alike trust r r' :=
  ⟨same, by rw [h'.clientAddress, h.clientAddress, same.peer]⟩

theorem runHandler_passthrough {σ : Type} (handler : Request → σ → Response × σ)
    (p : Control.Plane) (route : Route.Key) (r : Request) (s : σ) :
    runHandler .passthrough handler p route r s = handler r s := by
  have nothing : ∀ {α : Type} (script : String) (a : α) (s : σ),
      runScript (fun _ a s => ⟨.ok (), a, s⟩) script a s = (a, s) := by
    intro α script a s
    rw [runScript]
    split <;> rfl
  rw [runHandler]
  split
  next _ => rfl
  next scripts _ =>
    simp only [ScriptRunner.passthrough, nothing]
    rfl

end Admission

namespace Service

open Admission (Alike)

variable {s : Service} {m : Mount} {r r' : Request}

-- ---------------------------------------------------------------------------
-- What becomes of requests

/-- Two requests have come to the same but for their headers. Each has its own identifier,
and the handler sees its own request. -/
inductive SameCourse (r r' : Request) : Job → Job → Prop
  | underWay (m : Mount) (stage : Stage) (timer deadline : Timer) :
      SameCourse r r' (.flight ⟨m, r, stage, timer, deadline⟩)
        (.flight ⟨m, r', stage, timer, deadline⟩)
  | late : SameCourse r r' (timedOut r) (timedOut r')
  /-- The block list, a mock, the gate or the router answers both with one response. -/
  | given (response : Response) : SameCourse r r' (answered r response) (answered r' response)
  | handled (m : Mount) :
      SameCourse r r' (answered r (Admission.echo m r)) (answered r' (Admission.echo m r'))

structure SameEnd (r r' : Request) (x y : Job × Service) : Prop where
  course : SameCourse r r' x.1 y.1
  service : y.2 = x.2

theorem Applies.of_alike {d : Decision} (h : Alike s.config.governance.trustForwardedFor r r')
    (applies : s.Applies m r d) : s.Applies m r' d := by
  have blocked : s.Blocked r' = s.Blocked r := by
    funext a
    rw [Blocked, h.client, Blocked]
  have inForce : s.InForce m r' = s.InForce m r := by
    funext mock
    rw [InForce, h.same.uri, InForce]
  cases applies with
  | blocked a is => exact .blocked a (blocked ▸ is)
  | mocked mock passes is => exact .mocked mock (blocked ▸ passes) (inForce ▸ is)
  | overLimit g passes unmocked gate full =>
    exact .overLimit g (blocked ▸ passes) (inForce ▸ unmocked) gate full
  | admitted g passes unmocked gate within =>
    exact .admitted g (blocked ▸ passes) (inForce ▸ unmocked) gate within
  | ungoverned passes unmocked gate =>
    exact .ungoverned (blocked ▸ passes) (inForce ▸ unmocked) gate

theorem applies_iff_of_alike (h : Alike s.config.governance.trustForwardedFor r r')
    (d : Decision) : s.Applies m r' d ↔ s.Applies m r d :=
  ⟨.of_alike h.symm, .of_alike h⟩

theorem handled_passthrough (passthrough : s.runner = .passthrough) (m : Mount) (r : Request)
    (deadline : Timer) :
    s.handled m r deadline = (answered r (Admission.echo m r),
      { s with control := Admission.leaveGate s.control m }) := by
  simp only [handled, passthrough, Admission.runHandler_passthrough]
  rfl

theorem sameEnd_handled (passthrough : s.runner = .passthrough) (m : Mount) (r r' : Request)
    (deadline : Timer) : SameEnd r r' (s.handled m r deadline) (s.handled m r' deadline) := by
  rw [handled_passthrough passthrough, handled_passthrough passthrough]
  exact ⟨.handled m, rfl⟩

theorem sameEnd_mocked (s : Service) (m : Mount) (r r' : Request) (mock : Policy.Mock) :
    SameEnd r r' (s.mocked m r mock) (s.mocked m r' mock) :=
  ⟨.given _, rfl⟩

theorem sameEnd_arrive (passthrough : s.runner = .passthrough)
    (h : Alike s.config.governance.trustForwardedFor r r') (m : Mount) (deadline : Timer) :
    SameEnd r r' (s.arrive m r deadline) (s.arrive m r' deadline) := by
  simp only [arrive, h.judge]
  -- The decision is made; the service that goes on runs the same scripts.
  split
  next response _ => exact ⟨.given response, rfl⟩
  next mock _ =>
    split
    next _ => exact sameEnd_mocked _ m r r' mock
    next _ => exact ⟨.underWay .., rfl⟩
  next wait _ =>
    split
    next _ =>
      refine sameEnd_handled ?_ m r r' deadline
      exact passthrough
    next _ => exact ⟨.underWay .., rfl⟩

theorem sameEnd_resumeFlight (passthrough : s.runner = .passthrough) (f : Flight) (r' : Request) :
    SameEnd f.request r' (s.resumeFlight f) (s.resumeFlight { f with request := r' }) := by
  simp only [resumeFlight]
  split
  next _ => exact ⟨.late, rfl⟩
  next _ =>
    split
    next _ =>
      split
      next mock _ => exact sameEnd_mocked s f.mount f.request r' mock
      next _ => exact sameEnd_handled passthrough f.mount f.request r' f.deadline
      next response _ => exact ⟨.given response, rfl⟩
    next _ => exact ⟨.underWay .., rfl⟩

theorem alike_of_identified (s : Service) (trust : Bool) (r : Request) :
    Alike trust r (s.identified r).2 := by
  rw [identified]
  split
  next _ => exact .refl trust r
  next _ =>
    refine .of_get? ⟨rfl, rfl, rfl⟩ ?_
    have other : [(Http.requestIdHeader, s.surroundings.freshId)].lookup
        Admission.forwardedHeader = none := rfl
    rw [Headers.get?, List.lookup_append, other, Option.or_none]
    rfl

theorem sameEnd_startRequest (passthrough : s.runner = .passthrough)
    (h : Alike s.config.governance.trustForwardedFor r r') (router : Router) :
    SameEnd (s.identified r).2 (s.identified r').2 (s.startRequest router r)
      (s.startRequest router r') := by
  have alike := (s.alike_of_identified _ r).symm.trans (h.trans (s.alike_of_identified _ r'))
  simp only [startRequest, alike.same.method, alike.same.uri]
  split
  next _ => exact ⟨.late, rfl⟩
  next _ =>
    split
    next _ => exact ⟨.given _, rfl⟩
    next allow _ => exact ⟨.given _, rfl⟩
    next m _ => exact sameEnd_arrive (s := { s with serial := s.serial + 1 }) passthrough alike m _

theorem SameCourse.answered {job job' : Job} (h : SameCourse r r' job job')
    (same : r.SameButHeaders r')
    (identifier : r'.headers.get? Http.requestIdHeader = r.headers.get? Http.requestIdHeader)
    {response : Response} (done : job = .answered response) : job' = .answered response := by
  have sealed_eq : ∀ response, sealed r' response = sealed r response := fun response => by
    rw [sealed, identifier, sealed]
  have answered_eq : ∀ response, Service.answered r' response = Service.answered r response :=
    fun response => by rw [Service.answered, sealed_eq, same.method, Service.answered]
  have echo_eq : ∀ m, Admission.echo m r' = Admission.echo m r := fun m => by
    simp only [Admission.echo, Headers.readable?, identifier, same.method, same.uri]
  cases h with
  | underWay _ _ _ _ => cases done
  | late => rw [← done, timedOut, sealed_eq, timedOut]
  | given other => rw [← done, answered_eq]
  | handled m => rw [← done, echo_eq, answered_eq]

structure TreatsAlike (s : Service) (r r' : Request) : Prop where
  /-- It blocks, mocks, limits or admits both. -/
  decided : ∀ m d, s.Applies m r' d ↔ s.Applies m r d
  arrives : ∀ m deadline, SameEnd r r' (s.arrive m r deadline) (s.arrive m r' deadline)
  starts : ∀ router, SameEnd (s.identified r).2 (s.identified r').2 (s.startRequest router r)
    (s.startRequest router r')

theorem treatsAlike (passthrough : s.runner = .passthrough)
    (h : Alike s.config.governance.trustForwardedFor r r') : s.TreatsAlike r r' where
  decided _ := applies_iff_of_alike h
  arrives := sameEnd_arrive passthrough h
  starts := sameEnd_startRequest passthrough h

/-- The forwarding header of a request makes no difference to a service. -/
structure Disregards (s : Service) (r : Request) : Prop where
  alike : s.TreatsAlike r (r.without Admission.forwardedHeader)
  /-- Without it the answer is the very same. -/
  answers : ∀ m deadline response, (s.arrive m r deadline).1 = .answered response →
    (s.arrive m (r.without Admission.forwardedHeader) deadline).1 = .answered response

theorem disregards (passthrough : s.runner = .passthrough) (tells : Admission.TellsNone r) :
    s.Disregards r := by
  have same := r.sameButHeaders_without Admission.forwardedHeader
  have alike := treatsAlike passthrough
    (Admission.Unheeded.alike (.inr tells) (.inr (Admission.tellsNone_without r)) same)
  refine ⟨alike, fun m deadline response done => ?_⟩
  exact (alike.arrives m deadline).course.answered same
    (r.get?_without_other (by decide)) done

theorem blocked_iff_of_unheeded
    (h : Admission.Unheeded s.config.governance.trustForwardedFor r) (a : Address) :
    s.Blocked r a ↔
      r.peer.map Address.Socket.address = some a ∧ s.control.plane.blocked.blocks a := by
  rw [Blocked, h.clientAddress]

end Service

end Tollgate
