import Tollgate.Document.Text
import Tollgate.Policy.Table
import Tollgate.Rate.Limiter
import Tollgate.Route.Key

/-!
# Gates

Every route has a gate. It counts the requests in flight, and its policy sets a
ceiling on them and limits their rate. The routes are fixed; refreshes change only
policies. A limiter is kept, with its tokens, as long as rate and interval stay.
-/

namespace Tollgate.Policy

open Document (Fields Reader)
open Rate (Limiter)

/-- What a `routerConcurrency` row says about a route. -/
structure GateSpec where
  /-- The most requests in flight; zero stands for no ceiling. -/
  max : Nat
  /-- Tokens in each interval; not positive stands for no limit. -/
  rate : Int
  interval : String
  deriving DecidableEq, Repr

namespace GateSpec

/-- Rate and interval as operators see them. -/
def descriptor (s : GateSpec) : String :=
  Text.ofInt s.rate ++ "/" ++ s.interval

def fields : Fields (Nat × Int × String × Unit) :=
  .field "max" Reader.word32 (some 0) <|
  .field "rate" Reader.signed64 (some 0) <|
  .field "interval" Reader.text (some "") .done

def ofFields : Nat × Int × String × Unit → GateSpec
  | (max, rate, interval, ()) => ⟨max, rate, interval⟩

def reader : Reader GateSpec :=
  (Reader.record "ConcurrencySpec" fields).as ofFields

def ofData (data : String) : Except PolicyError (Route.Key × GateSpec) := do
  let (router, spec) ←
    (Document.readText
      (Reader.twoPass "RouterConcurrencyRow" "router" Reader.text none fields) data).mapError .json
  match Route.Key.ofText? router with
  | some key => return (key, ofFields spec)
  | none => throw (.invalidRouter router)

end GateSpec

/-- The ceiling and the limiter of a gate, which change together. -/
structure GatePolicy where
  ceiling : Nat
  /-- The rate and interval that the limiter was made for; empty before any. -/
  descriptor : String
  limiter : Limiter
  /-- How many limiters the gate had before this one. -/
  generation : Nat
  deriving DecidableEq, Repr

structure Gate where
  current : Nat
  policy : GatePolicy
  deriving DecidableEq, Repr

namespace GatePolicy

def ungoverned (generation : Nat) : GatePolicy :=
  ⟨0, "", .unlimited, generation⟩

/-- Applies a row at a clock reading. The limiter is made anew only when rate or
interval change. -/
def update (p : GatePolicy) (now : Nat) (spec : GateSpec) : GatePolicy :=
  if p.descriptor = spec.descriptor then { p with ceiling := spec.max }
  else ⟨spec.max, spec.descriptor, .ofSpec now spec.rate spec.interval, p.generation + 1⟩

/-- Goes back to no policy. One that governs nothing stays as it is. -/
def reset (p : GatePolicy) : GatePolicy :=
  if p.ceiling = 0 ∧ p.limiter.isUnlimited then p else ungoverned (p.generation + 1)

def apply (p : GatePolicy) (now : Nat) : Option GateSpec → GatePolicy
  | some spec => p.update now spec
  | none => p.reset

end GatePolicy

/-- The bound that counts wrap around at. -/
def countBound : Nat := Nat.pow 2 32

/-- The counts that an admission reports. -/
structure Admission where
  current : Nat
  ceiling : Nat
  deriving DecidableEq, Repr

namespace Admission

def ungoverned : Admission := ⟨0, 0⟩

/-- Whether the request pushed its route over the ceiling. -/
def isOverLimit (a : Admission) : Bool :=
  0 < a.ceiling && a.ceiling < a.current

end Admission

namespace Gate

def idle : Gate :=
  ⟨0, .ungoverned 0⟩

/-- Counts a request in; the number reported includes it. -/
def increment (g : Gate) : Nat × Gate :=
  (min (g.current + 1) (countBound - 1), { g with current := (g.current + 1) % countBound })

/-- Counts a request out; the count stops at zero. -/
def decrement (g : Gate) : Gate :=
  { g with current := g.current - 1 }

/-- What happened to a request at a gate: what it was told, and the wait for its
token. A request over the ceiling takes no token. -/
structure Entry where
  admission : Admission
  wait : Nat
  deriving DecidableEq, Repr

/-- Answers a request that was told `current` when it was counted in: it takes a
token, unless it is over the ceiling. -/
def answer (g : Gate) (current now : Nat) : Entry × Gate :=
  let admission : Admission := ⟨current, g.policy.ceiling⟩
  if admission.isOverLimit then (⟨admission, 0⟩, g)
  else
    let (wait, limiter) := g.policy.limiter.take now
    (⟨admission, wait⟩, { g with policy := { g.policy with limiter := limiter } })

end Gate

abbrev Gates := List (Route.Key × Gate)

structure GateSnapshot where
  route : Route.Key
  current : Nat
  ceiling : Nat
  rate : String
  deriving DecidableEq, Repr

namespace Gates

def ofRoutes (routes : List Route.Key) : Gates :=
  routes.foldl
    (fun gates key => putSorted (fun a b : Route.Key => a.text < b.text) key Gate.idle gates) []

def modify (gates : Gates) (route : Route.Key) (f : Gate → Gate) : Gates :=
  gates.map fun (key, g) => if key = route then (key, f g) else (key, g)

/-- Counts a request in at the gate of its route: the number it is told, none without
a gate. -/
def countIn (gates : Gates) (route : Route.Key) : Option Nat × Gates :=
  ((gates.lookup route).map fun g => g.increment.1, gates.modify route fun g => g.increment.2)

def answer (gates : Gates) (route : Route.Key) (current now : Nat) :
    Option Gate.Entry × Gates :=
  ((gates.lookup route).map fun g => (g.answer current now).1,
    gates.modify route fun g => (g.answer current now).2)

/-- Admits a request to a route. A route without a gate is not governed: the request
is told zeros, waits for nothing, and holds no place. -/
def enter (gates : Gates) (route : Route.Key) (now : Nat) : Option Gate.Entry × Gates :=
  match gates.countIn route with
  | (none, gates) => (none, gates)
  | (some current, gates) => gates.answer route current now

def release (gates : Gates) (route : Route.Key) : Gates :=
  gates.modify route Gate.decrement

def update (gates : Gates) (route : Route.Key) (now : Nat) (spec : GateSpec) : Gates :=
  gates.modify route fun g => { g with policy := g.policy.update now spec }

def reset (gates : Gates) (route : Route.Key) : Gates :=
  gates.modify route fun g => { g with policy := g.policy.reset }

/-- Applies a whole batch: routes missing from it lose their policy. -/
def apply (gates : Gates) (now : Nat) (batch : Table Route.Key GateSpec) : Gates :=
  gates.map fun (key, g) => (key, { g with policy := g.policy.apply now (batch.lookup key) })

/-- The routes of a batch that have no gate. -/
def unknown (gates : Gates) (batch : Table Route.Key GateSpec) : List Route.Key :=
  (batch.map Prod.fst).filter fun key => (gates.lookup key).isNone

def stats (gates : Gates) : List (Route.Key × Nat) :=
  gates.map fun (key, g) => (key, g.current)

def snapshot (gates : Gates) : List GateSnapshot :=
  gates.map fun (key, g) => ⟨key, g.current, g.policy.ceiling, g.policy.descriptor⟩

end Gates

end Tollgate.Policy
