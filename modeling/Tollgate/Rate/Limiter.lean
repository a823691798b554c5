import Tollgate.Rate.Bucket
import Tollgate.Time.Span

/-!
# Limiters

A route is either not limited in its rate or has a bucket. A rate that is not
positive, or an interval that is no positive span, gives no limit.
-/

namespace Tollgate.Rate

inductive Limiter where
  | unlimited
  /-- A bucket made when the clock read `epoch`. -/
  | bucket (epoch : Nat) (b : Bucket)
  deriving DecidableEq, Repr

namespace Limiter

def countLimit : Nat := Nat.pow 2 32 - 1

/-- The bucket for a rate per interval, if the two give one. -/
def bucketOf? (rate : Int) (interval : String) : Option Bucket :=
  if rate ≤ 0 then none
  else
    match Time.Span.ofText? interval with
    | none => none
    | some 0 => none
    | some nanos => some (.ofCount (min rate.toNat countLimit) nanos)

def ofSpec (now : Nat) (rate : Int) (interval : String) : Limiter :=
  match bucketOf? rate interval with
  | none => .unlimited
  | some b => .bucket now b

def isUnlimited : Limiter → Bool
  | .unlimited => true
  | .bucket .. => false

def take (l : Limiter) (now : Nat) : Nat × Limiter :=
  match l with
  | .unlimited => (0, .unlimited)
  | .bucket epoch b =>
    let (wait, b) := b.reserve (saturate (now - epoch))
    (wait, .bucket epoch b)

def emission? : Limiter → Option Nat
  | .unlimited => none
  | .bucket _ b => some b.emission

end Limiter

def tickNanos : Nat := 1000000

def tickAfter (nanos : Nat) : Nat :=
  (nanos + (tickNanos - 1)) / tickNanos

/-- The clock after a wait of so many nanoseconds. Timers fire at whole ticks, so
the clock moves on by whole ticks to the first one at or after the deadline. -/
def clockAfter (now wait : Nat) : Nat :=
  if wait = 0 then now
  else now + (tickAfter (now + wait) - now / tickNanos) * tickNanos

end Tollgate.Rate
