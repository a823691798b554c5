/-!
# Token buckets

A bucket of `count` tokens for each interval is kept as one number: the arrival
time of the next token. Each reservation moves it one emission interval on, and
waits as long as it runs ahead of the clock by more than the burst tolerance. Times
count nanoseconds from the making of the bucket and saturate at the largest 64-bit
number.
-/

namespace Tollgate.Rate

def timeLimit : Nat := Nat.pow 2 64 - 1

def saturate (n : Nat) : Nat :=
  min n timeLimit

structure Bucket where
  emission : Nat
  tolerance : Nat
  arrival : Nat
  deriving DecidableEq, Repr

namespace Bucket

/-- A full bucket of `count` tokens for each interval of so many nanoseconds. A
count of zero counts as one, and tokens are at least a nanosecond apart. -/
def ofCount (count interval : Nat) : Bucket :=
  let count := max count 1
  let emission := max (saturate interval / count) 1
  ⟨emission, saturate (emission * count), 0⟩

/-- The arrival time after a reservation at the clock reading `now`. -/
def nextArrival (b : Bucket) (now : Nat) : Nat :=
  saturate (max b.arrival now + b.emission)

def waitAt (b : Bucket) (now : Nat) : Nat :=
  b.nextArrival now - b.tolerance - now

def reserve (b : Bucket) (now : Nat) : Nat × Bucket :=
  (b.waitAt now, { b with arrival := b.nextArrival now })

end Bucket

end Tollgate.Rate
