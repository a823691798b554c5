import Tollgate.Proofs.FreshBuckets

/-!
# Reservations

Tokens are reserved one after another, each at a clock reading of its own. A reservation
tells a wait and leaves an arrival time, its slot. While arrival times stay below the
limit of the clock, each slot lies at least one emission interval after the one before
it, and between an emission interval and the burst tolerance after the instant at which
its token is given out.
-/

namespace Tollgate.Rate

structure Reservation where
  /-- What the clock read for the one who reserved. -/
  reading : Nat
  wait : Nat
  /-- The arrival time afterwards. -/
  slot : Nat
  deriving DecidableEq, Repr

def Reservation.instant (r : Reservation) : Nat :=
  r.reading + r.wait

namespace Bucket

def reservation (b : Bucket) (now : Nat) : Reservation :=
  ⟨now, (b.reserve now).1, (b.reserve now).2.arrival⟩

def reservations (b : Bucket) : List Nat → List Reservation
  | [] => []
  | now :: rest => b.reservation now :: (b.reserve now).2.reservations rest

def after (b : Bucket) (times : List Nat) : Bucket :=
  times.foldl (fun b now => (b.reserve now).2) b

theorem after_concat (b : Bucket) (times : List Nat) (now : Nat) :
    b.after (times ++ [now]) = ((b.after times).reserve now).2 := by
  rw [after, List.foldl_append]
  rfl

theorem reservations_concat (b : Bucket) (times : List Nat) (now : Nat) :
    b.reservations (times ++ [now]) = b.reservations times ++ [(b.after times).reservation now] := by
  induction times generalizing b with
  | nil => rfl
  | cons first rest ih =>
    rw [List.cons_append, reservations, reservations, ih, List.cons_append]
    rfl

theorem reservations_append (b : Bucket) (times more : List Nat) :
    b.reservations (times ++ more) = b.reservations times ++ (b.after times).reservations more := by
  induction times generalizing b with
  | nil => rfl
  | cons now rest ih => exact congrArg (b.reservation now :: ·) (ih (b.reserve now).2)

@[simp] theorem length_reservations (b : Bucket) (times : List Nat) :
    (b.reservations times).length = times.length := by
  induction times generalizing b with
  | nil => rfl
  | cons now rest ih => exact congrArg Nat.succ (ih (b.reserve now).2)

/-- Before each reservation of a run, something holds of the bucket and the reading. -/
def Throughout (holds : Bucket → Nat → Prop) (b : Bucket) : List Nat → Prop
  | [] => True
  | now :: rest => holds b now ∧ (b.reserve now).2.Throughout holds rest

theorem throughout_concat (holds : Bucket → Nat → Prop) (b : Bucket) (times : List Nat)
    (now : Nat) :
    b.Throughout holds (times ++ [now]) ↔ b.Throughout holds times ∧ holds (b.after times) now := by
  induction times generalizing b with
  | nil => exact and_comm
  | cons first rest ih =>
    rw [List.cons_append, Throughout, Throughout, ih, and_assoc]
    rfl

/-- The clock can still tell the next arrival time. -/
def Unsaturated (b : Bucket) (now : Nat) : Prop :=
  max b.arrival now + b.emission ≤ timeLimit

-- ---------------------------------------------------------------------------
-- One reservation

variable {b : Bucket} {now : Nat}

theorem nextArrival_eq (fits : b.Unsaturated now) :
    b.nextArrival now = max b.arrival now + b.emission :=
  Nat.min_eq_left fits

theorem nextArrival_le (b : Bucket) (now : Nat) : b.nextArrival now ≤ timeLimit :=
  Nat.min_le_right _ _

theorem instant_reservation (b : Bucket) (now : Nat) :
    (b.reservation now).instant = max now (b.nextArrival now - b.tolerance) := by
  simp only [Reservation.instant, reservation, reserve, waitAt]
  omega

-- ---------------------------------------------------------------------------
-- The order of instants

/-- No token is given out before its reservation, nor before the arrival time is as near
as the burst allows. -/
theorem le_instant {times : List Nat} {low : Nat} (bounded : b.arrival ≤ timeLimit)
    (later : ∀ now ∈ times, low ≤ now) {r : Reservation} (mem : r ∈ b.reservations times) :
    max low (b.arrival - b.tolerance) ≤ r.instant := by
  induction times generalizing b with
  | nil => cases mem
  | cons now rest ih =>
    have onward : b.arrival ≤ b.nextArrival now := Nat.le_min.mpr ⟨by omega, bounded⟩
    rcases List.mem_cons.mp mem with rfl | mem
    · have first : low ≤ now := later now List.mem_cons_self
      rw [instant_reservation]
      omega
    · have instant := ih (b.nextArrival_le now)
        (fun now mem => later now (List.mem_cons_of_mem _ mem)) mem
      simp only [reserve] at instant
      omega

theorem pairwise_instant {times : List Nat} (bounded : b.arrival ≤ timeLimit)
    (ordered : times.Pairwise (· ≤ ·)) :
    (b.reservations times).Pairwise fun r s => r.instant ≤ s.instant := by
  induction times generalizing b with
  | nil => exact .nil
  | cons now rest ih =>
    obtain ⟨first, ordered⟩ := List.pairwise_cons.mp ordered
    refine .cons (fun s mem => ?_) (ih (b.nextArrival_le now) ordered)
    rw [instant_reservation]
    exact le_instant (b := (b.reserve now).2) (b.nextArrival_le now) first mem

end Bucket

end Tollgate.Rate
