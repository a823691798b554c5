import Tollgate.Admission.Passage
import Tollgate.Proofs.Limits
import Tollgate.Proofs.Publish
import Tollgate.Proofs.Requests

/-!
# Calls to a control plane

A control plane is called to look something up, to count requests in, answer them and
count them out, to judge requests that arrive, and to give out permits and take them
back. Each call brings its own clock reading. Between calls cycles begin, end with any
fetch, or are cancelled, and registries are changed directly. Planes that differ in
counts of zero only reply alike to all calls.
-/

namespace Tollgate.Control

open Admission (Verdict)
open Http (Mount Request)
open Policy
open Store (StoreError)
open Time (Instant)

-- ---------------------------------------------------------------------------
-- Look-ups

inductive Lookup where
  | gates
  | mock (route : Route.Key) (pathAndQuery : String)
  | interceptor (route : Route.Key)
  | blocks (a : Address)
  | blocksText (text : String)
  | limit (name : String)
  | inFlight (name : String)
  | limits
  | recipients (group : String)
  | mockedTime
  | signingKeys
  deriving DecidableEq, Repr

inductive Seen where
  | gates (list : List GateSnapshot)
  | mock (m : Option Mock)
  | interceptor (i : Option Interceptor)
  | blocked (is : Bool)
  | limit (max : Option Nat)
  | count (n : Nat)
  | limits (list : List LimitStatus)
  | texts (list : List String)
  | instant (i : Option Instant)
  deriving DecidableEq, Repr

def Plane.look (p : Plane) : Lookup → Seen
  | .gates => .gates p.gates.snapshot
  | .mock route pathAndQuery => .mock (p.mocks.answering? route pathAndQuery)
  | .interceptor route => .interceptor (p.interceptors.lookup route)
  | .blocks a => .blocked (p.blocked.blocks a)
  | .blocksText text => .blocked (p.blocked.blocksText text)
  | .limit name => .limit (p.limits.limit? name)
  | .inFlight name => .count (p.limits.count name)
  | .limits => .limits p.limits.status
  | .recipients group => .texts (p.emails.recipients group)
  | .mockedTime => .instant p.mockedTime
  | .signingKeys => .texts p.signingKeys.current

-- ---------------------------------------------------------------------------
-- Calls

inductive Call where
  | look (l : Lookup)
  | countIn (route : Route.Key)
  /-- Answers a request that was told `current` when it was counted in. -/
  | answer (route : Route.Key) (current : Nat)
  | leave (route : Route.Key)
  | arrive (trustForwarded : Bool) (m : Mount) (r : Request)
  | acquire (name : String)
  | giveBack (permit : Permit)

inductive Reply where
  | seen (s : Seen)
  | counted (current : Option Nat)
  | answered (entry : Option Gate.Entry)
  | judged (v : Verdict)
  | permitted (permit : Permit)
  | overLimit (o : OverLimit)
  | done
  deriving DecidableEq, Repr

def Reply.ofAcquired : Except OverLimit Permit → Reply
  | .ok permit => .permitted permit
  | .error o => .overLimit o

def Plane.withLimits (p : Plane) (limits : RequestLimits) : Plane :=
  { p with limits := limits }

def withPlane (c : Control) (p : Plane) : Control :=
  { c with plane := p }

def call (c : Control) (now : Nat) : Call → Reply × Control
  | .look l => (.seen (c.plane.look l), c)
  | .countIn route =>
    let (current, gates) := c.plane.gates.countIn route
    (.counted current, c.withPlane (c.plane.withGates gates))
  | .answer route current =>
    let (entry, gates) := c.plane.gates.answer route current now
    (.answered entry, c.withPlane (c.plane.withGates gates))
  | .leave route => (.done, c.withPlane (c.plane.withGates (c.plane.gates.release route)))
  | .arrive trustForwarded m r =>
    let (verdict, c) := Admission.judge c trustForwarded m r now
    (.judged verdict, c)
  | .acquire name =>
    let (result, limits) := c.plane.limits.acquire name
    (.ofAcquired result, c.withPlane (c.plane.withLimits limits))
  | .giveBack permit => (.done, c.withPlane (c.plane.withLimits (c.plane.limits.release permit)))

-- ---------------------------------------------------------------------------
-- Steps

inductive Step where
  | call (now : Nat) (call : Call)
  | beginCycle
  | endCycle (now : Nat) (fetched : Except StoreError (List Row))
  | cancelCycle
  /-- Any registries but the limits are changed directly. -/
  | change (p : Plane)
  /-- A table of limits is published directly. -/
  | limit (limits : List RequestLimit)

def Step.isCall : Step → Bool
  | .call .. => true
  | _ => false

def step (c : Control) : Step → Control
  | .call now call => (c.call now call).2
  | .beginCycle => c.beginCycle.getD c
  | .endCycle now fetched => if c.running then (c.endCycle now fetched).2 else c
  | .cancelCycle => c.cancelCycle
  | .change p => c.withPlane (p.withLimits c.plane.limits)
  | .limit limits => c.withPlane (c.plane.withLimits (c.plane.limits.replace limits))

def run (c : Control) (steps : List Step) : Control :=
  steps.foldl step c

def replies (c : Control) : List Step → List Reply
  | [] => []
  | .call now call :: rest => (c.call now call).1 :: (c.call now call).2.replies rest
  | s :: rest => (c.step s).replies rest

-- ---------------------------------------------------------------------------
-- What a call does to the plane

/-- A plane before and after a call: nothing but gates or limits changes, and these only
as calls change them. -/
inductive Called (p : Plane) : Plane → Prop
  | aside : Called p p
  | countedIn (route : Route.Key) : Called p (p.withGates (p.gates.countIn route).2)
  | answered (route : Route.Key) (current now : Nat) :
      Called p (p.withGates (p.gates.answer route current now).2)
  | left (route : Route.Key) : Called p (p.withGates (p.gates.release route))
  | entered (route : Route.Key) (now : Nat) : Called p (p.withGates (p.gates.enter route now).2)
  /-- A request over the limit is counted in and out again. -/
  | turnedAway (route : Route.Key) (now : Nat) :
      Called p (p.withGates ((p.gates.enter route now).2.release route))
  | acquired (name : String) : Called p (p.withLimits (p.limits.acquire name).2)
  | gaveBack (permit : Permit) : Called p (p.withLimits (p.limits.release permit))

theorem judge_called (c : Control) (trustForwarded : Bool) (m : Mount) (r : Request) (now : Nat) :
    Called c.plane (Admission.judge c trustForwarded m r now).2.plane := by
  simp only [Admission.judge]
  split
  next _ => exact .aside
  next _ =>
    split
    next _ => exact .aside
    next _ =>
      rcases Service.enterGate_cases c m now with ⟨_, _, plane⟩ | ⟨_, _, plane, _⟩
      · exact plane ▸ .turnedAway m.key now
      · exact plane ▸ .entered m.key now

theorem call_called (c : Control) (now : Nat) (call : Call) :
    Called c.plane (c.call now call).2.plane := by
  cases call with
  | look _ => exact .aside
  | countIn route => exact .countedIn route
  | answer route current => exact .answered route current now
  | leave route => exact .left route
  | arrive trustForwarded m r => exact judge_called c trustForwarded m r now
  | acquire name => exact .acquired name
  | giveBack permit => exact .gaveBack permit

theorem Called.sorted {p q : Plane} (called : Called p q) (h : p.limits.Sorted) :
    q.limits.Sorted := by
  cases called with
  | acquired name => exact h.acquire name
  | gaveBack permit => exact h.release permit
  | _ => exact h

theorem sorted_endCycle {c : Control} (h : c.plane.limits.Sorted) (now : Nat)
    (fetched : Except StoreError (List Row)) :
    (c.endCycle now fetched).2.plane.limits.Sorted := by
  rw [endCycle_plane]
  cases fetched with
  | error _ => exact h
  | ok rows =>
    simp only [Plane.publish_plane]
    exact h.replace _

theorem sorted_step {c : Control} (h : c.plane.limits.Sorted) (s : Step) :
    (c.step s).plane.limits.Sorted := by
  cases s with
  | call now call => exact (c.call_called now call).sorted h
  | beginCycle =>
    rw [step, beginCycle_plane]
    exact h
  | endCycle now fetched =>
    simp only [step]
    split
    next _ => exact sorted_endCycle h now fetched
    next _ => exact h
  | cancelCycle => exact h
  | change p => exact h
  | limit limits => exact h.replace limits

theorem sorted_run {c : Control} (h : c.plane.limits.Sorted) (steps : List Step) :
    (c.run steps).plane.limits.Sorted := by
  induction steps generalizing c with
  | nil => exact h
  | cons s rest ih => exact ih (sorted_step h s)

-- ---------------------------------------------------------------------------
-- Planes that reply alike

namespace Plane

/-- Two planes that differ at most in counts of zero and in the moment of their last
refresh. -/
structure Alike (p q : Plane) : Prop where
  rest : q = { p with limits := q.limits, refreshedAt := q.refreshedAt }
  limits : p.limits.Alike q.limits
  refreshed : q.refreshedAt.isSome = p.refreshedAt.isSome

namespace Alike

variable {p q : Plane}

theorem refl (p : Plane) : p.Alike p :=
  ⟨rfl, .refl p.limits, rfl⟩

theorem gates (h : p.Alike q) : q.gates = p.gates := by
  rw [h.rest]

theorem blocked (h : p.Alike q) : q.blocked = p.blocked := by
  rw [h.rest]

theorem mocks (h : p.Alike q) : q.mocks = p.mocks := by
  rw [h.rest]

theorem withGates (h : p.Alike q) (gates : Gates) :
    (p.withGates gates).Alike (q.withGates gates) := by
  have rest := congrArg (Plane.withGates · gates) h.rest
  exact ⟨rest, h.limits, h.refreshed⟩

theorem withLimits (h : p.Alike q) {l m : RequestLimits} (limits : l.Alike m) :
    (p.withLimits l).Alike (q.withLimits m) := by
  have rest := congrArg (Plane.withLimits · m) h.rest
  exact ⟨rest, limits, h.refreshed⟩

theorem look (h : p.Alike q) (l : Lookup) : q.look l = p.look l := by
  cases l with
  | limit name => exact congrArg Seen.limit (congrArg (List.lookup name) h.limits.limits)
  | inFlight name => exact congrArg Seen.count (h.limits.count name)
  | limits => exact congrArg Seen.limits h.limits.status
  | _ =>
    rw [h.rest]
    rfl

end Alike

end Plane

section Calls

variable {c d : Control} (h : c.plane.Alike d.plane)

include h

theorem enterGate_alike (m : Mount) (now : Nat) :
    (Admission.enterGate d m now).1 = (Admission.enterGate c m now).1 ∧
      (Admission.enterGate c m now).2.plane.Alike (Admission.enterGate d m now).2.plane := by
  simp only [Admission.enterGate, h.gates]
  split
  next _ => exact ⟨rfl, h.withGates _⟩
  next entry _ =>
    split
    next _ => exact ⟨rfl, h.withGates _⟩
    next _ => exact ⟨rfl, h.withGates _⟩

theorem judge_alike (trustForwarded : Bool) (m : Mount) (r : Request) (now : Nat) :
    (Admission.judge d trustForwarded m r now).1 = (Admission.judge c trustForwarded m r now).1 ∧
      (Admission.judge c trustForwarded m r now).2.plane.Alike
        (Admission.judge d trustForwarded m r now).2.plane := by
  simp only [Admission.judge, Admission.blockedClient, h.blocked, h.mocks]
  split
  next _ => exact ⟨rfl, h⟩
  next _ =>
    split
    next _ => exact ⟨rfl, h⟩
    next _ => exact enterGate_alike h m now

theorem call_alike (now : Nat) (call : Call) :
    (d.call now call).1 = (c.call now call).1 ∧
      (c.call now call).2.plane.Alike (d.call now call).2.plane := by
  cases call with
  | look l => exact ⟨congrArg Reply.seen (h.look l), h⟩
  | countIn route =>
    rw [Control.call, Control.call, h.gates]
    exact ⟨rfl, h.withGates _⟩
  | answer route current =>
    rw [Control.call, Control.call, h.gates]
    exact ⟨rfl, h.withGates _⟩
  | leave route =>
    rw [Control.call, Control.call, h.gates]
    exact ⟨rfl, h.withGates _⟩
  | arrive trustForwarded m r =>
    obtain ⟨same, alike⟩ := judge_alike h trustForwarded m r now
    exact ⟨congrArg Reply.judged same, alike⟩
  | acquire name =>
    obtain ⟨same, alike⟩ := h.limits.acquire name
    exact ⟨congrArg Reply.ofAcquired same, h.withLimits alike⟩
  | giveBack permit => exact ⟨rfl, h.withLimits (h.limits.release permit)⟩

end Calls

end Tollgate.Control
