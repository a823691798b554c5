import Tollgate.Policy.Gate
import Tollgate.Text.Blank

/-!
# Limits of outbound requests

A `requestConcurrency` row limits how many requests of one name may be in flight.
Only governed names are counted. A permit counts until it is released, also when
the table changes in between. Counts wrap around as those of gates do.
-/

namespace Tollgate.Policy

open Document (Fields Reader)

structure RequestLimit where
  name : String
  max : Nat
  deriving DecidableEq, Repr

namespace RequestLimit

def fields : Fields (String × Nat × Unit) :=
  .field "name" Reader.text none <|
  .field "max" Reader.word32 (some 0) .done

def reader : Reader RequestLimit :=
  (Reader.record "RequestLimit" fields).as fun (name, max, ()) => ⟨name, max⟩

def ofData (data : String) : Except PolicyError RequestLimit := do
  let limit ← (Document.readText reader data).mapError .json
  if Text.isBlankText limit.name then throw (.empty "name")
  return limit

end RequestLimit

/-- The limit table and the counts of requests in flight. -/
structure RequestLimits where
  limits : Table String Nat
  inFlight : List (String × Nat)
  deriving DecidableEq, Repr

/-- What is held by a request in flight: the name that counts it, if one does. -/
structure Permit where
  counted : Option String
  deriving DecidableEq, Repr

structure OverLimit where
  name : String
  current : Nat
  max : Nat
  deriving DecidableEq, Repr

def OverLimit.message (o : OverLimit) : String :=
  "request concurrency for " ++ o.name ++ " exceeded: " ++ Text.ofNat o.current ++ " > " ++
    Text.ofNat o.max

structure LimitStatus where
  name : String
  max : Nat
  inFlight : Nat
  deriving DecidableEq, Repr

namespace RequestLimits

def empty : RequestLimits :=
  ⟨[], []⟩

def limit? (l : RequestLimits) (name : String) : Option Nat :=
  l.limits.lookup name

def count (l : RequestLimits) (name : String) : Nat :=
  (l.inFlight.lookup name).getD 0

/-- Whether a table limits a name. -/
def governs (limits : Table String Nat) (name : String) : Bool :=
  match limits.lookup name with
  | some max => 0 < max
  | none => false

/-- Publishes a new table; the first limit of a name stays. Counts that are zero and
that the table does not govern are dropped. -/
def replace (l : RequestLimits) (limits : List RequestLimit) : RequestLimits :=
  let table := Table.ofEntries (limits.map fun r => (r.name, r.max))
  ⟨table, l.inFlight.filter fun (name, n) => governs table name || 0 < n⟩

def setCount (l : RequestLimits) (name : String) (n : Nat) : RequestLimits :=
  { l with inFlight := putSorted (fun a b : String => a < b) name n l.inFlight }

/-- Takes a place in flight. A name without a limit always gets a permit that counts
nothing; a refused request leaves the count as it was. The limit is held against the
count after it wrapped around. -/
def acquire (l : RequestLimits) (name : String) : Except OverLimit Permit × RequestLimits :=
  match l.limit? name with
  | none => (.ok ⟨none⟩, l)
  | some 0 => (.ok ⟨none⟩, l)
  | some max =>
    let current := (l.count name + 1) % countBound
    if max < current then (.error ⟨name, current, max⟩, l.setCount name (l.count name))
    else (.ok ⟨some name⟩, l.setCount name current)

def release (l : RequestLimits) (p : Permit) : RequestLimits :=
  match p.counted with
  | none => l
  | some name => l.setCount name ((l.count name + (countBound - 1)) % countBound)

def snapshot (l : RequestLimits) : List (String × Nat) :=
  sortedBy (fun a b : String => a < b) l.limits

/-- Every name of the table with its limit and count, in the order of the names. -/
def status (l : RequestLimits) : List LimitStatus :=
  l.snapshot.map fun (name, max) => ⟨name, max, l.count name⟩

end RequestLimits

end Tollgate.Policy
