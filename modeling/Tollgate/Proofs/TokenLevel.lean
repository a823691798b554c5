import Mathlib.Algebra.Order.Field.Rat
import Mathlib.Tactic.FieldSimp
import Mathlib.Tactic.Linarith
import Tollgate.Proofs.Reservations
import Tollgate.Rate.Limiter

/-!
# Buckets with levels

The textbook bucket has a level: it is full at first, a token comes in each emission
interval until it is full again, and each reservation takes a token, on credit if there
is none, and waits until the debt is repaid. A bucket that keeps an arrival time tells
the same waits: its level is the capacity less the tokens by which the arrival time is
ahead of the clock.
-/

namespace Tollgate.Rate

structure Tokens where
  capacity : Nat
  /-- The time in which one token comes in. -/
  emission : Nat
  /-- The tokens that were there at the time `since`; fewer than none are owed. -/
  level : ℚ
  since : Nat

namespace Tokens

def full (capacity emission : Nat) : Tokens :=
  ⟨capacity, emission, capacity, 0⟩

/-- The level at a later time: tokens came in steadily, up to the capacity. -/
def levelAt (t : Tokens) (now : Nat) : ℚ :=
  min t.capacity (t.level + ((now - t.since : Nat) : ℚ) / t.emission)

def take (t : Tokens) (now : Nat) : Tokens :=
  { t with level := t.levelAt now - 1, since := now }

/-- The time until what is owed has come in. -/
def debt (t : Tokens) : ℚ :=
  max (-t.level) 0 * t.emission

def waits (t : Tokens) : List Nat → List ℚ
  | [] => []
  | now :: rest => (t.take now).debt :: (t.take now).waits rest

end Tokens

namespace Bucket

/-- The level is the capacity less the tokens by which the arrival time is ahead. -/
structure Coupled (b : Bucket) (t : Tokens) : Prop where
  emission : t.emission = b.emission
  capacity : (t.capacity * b.emission : ℚ) = b.tolerance
  level : t.level * b.emission + ((b.arrival - t.since : Nat) : ℚ) = b.tolerance

theorem coupled_ofCount {count : Nat} (interval : Nat) (small : count ≤ timeLimit) :
    (ofCount count interval).Coupled (.full (max count 1) (ofCount count interval).emission) := by
  have burst : ((max count 1 : Nat) * (ofCount count interval).emission : ℚ) =
      (ofCount count interval).tolerance := by
    rw [tolerance_eq interval small, mul_comm, Nat.cast_mul]
  refine ⟨rfl, burst, ?_⟩
  have ahead : (ofCount count interval).arrival - 0 = 0 := rfl
  rw [Tokens.full, ahead, burst, Nat.cast_zero, add_zero]

variable {b : Bucket} {t : Tokens} {now : Nat}

/-- Later on it still is, whether the bucket filled up in between or not. -/
theorem Coupled.levelAt (h : b.Coupled t) (positive : 0 < b.emission) (later : t.since ≤ now) :
    t.levelAt now * b.emission + ((b.arrival - now : Nat) : ℚ) = b.tolerance := by
  have emission : (b.emission : ℚ) ≠ 0 := Nat.cast_ne_zero.mpr positive.ne'
  have filled : t.levelAt now * b.emission =
      min (b.tolerance : ℚ) (t.level * b.emission + ((now - t.since : Nat) : ℚ)) := by
    rw [Tokens.levelAt, min_mul_of_nonneg _ _ (Nat.cast_nonneg _), h.capacity, add_mul, h.emission,
      div_mul_cancel₀ _ emission]
  have level := h.level
  rw [filled]
  rcases Nat.le_total b.arrival now with passed | ahead
  · have caught : ((b.arrival - t.since : Nat) : ℚ) ≤ ((now - t.since : Nat) : ℚ) :=
      Nat.cast_le.mpr (Nat.sub_le_sub_right passed _)
    rw [min_eq_left (by linarith), Nat.sub_eq_zero_of_le passed, Nat.cast_zero, add_zero]
  · have split : ((b.arrival - t.since : Nat) : ℚ) =
        ((b.arrival - now : Nat) : ℚ) + ((now - t.since : Nat) : ℚ) := by
      rw [← Nat.cast_add]
      congr 1
      omega
    have short : (0 : ℚ) ≤ ((b.arrival - now : Nat) : ℚ) := Nat.cast_nonneg _
    rw [min_eq_right (by linarith)]
    linarith

theorem waitAt_eq (fits : b.arrival + b.emission ≤ timeLimit) (burst : b.emission ≤ b.tolerance) :
    b.waitAt now = b.arrival - now + b.emission - b.tolerance := by
  simp only [waitAt, nextArrival, saturate]
  omega

theorem Coupled.waitAt (h : b.Coupled t) (positive : 0 < b.emission)
    (burst : b.emission ≤ b.tolerance) (later : t.since ≤ now)
    (fits : b.arrival + b.emission ≤ timeLimit) : (b.waitAt now : ℚ) = (t.take now).debt := by
  have level := h.levelAt positive later
  have owed : (t.take now).debt =
      max (((b.arrival - now + b.emission : Nat) : ℚ) - b.tolerance) 0 := by
    rw [Tokens.debt, max_mul_of_nonneg _ _ (Nat.cast_nonneg _), zero_mul]
    simp only [Tokens.take, h.emission]
    congr 1
    rw [Nat.cast_add]
    linarith
  rw [owed, waitAt_eq fits burst]
  rcases Nat.le_total (b.arrival - now + b.emission) b.tolerance with within | beyond
  · rw [Nat.sub_eq_zero_of_le within, max_eq_right (sub_nonpos.mpr (Nat.cast_le.mpr within)),
      Nat.cast_zero]
  · rw [Nat.cast_sub beyond, max_eq_left (sub_nonneg.mpr (Nat.cast_le.mpr beyond))]

theorem Coupled.reserve (h : b.Coupled t) (positive : 0 < b.emission) (later : t.since ≤ now)
    (fits : b.Unsaturated now) : (b.reserve now).2.Coupled (t.take now) := by
  refine ⟨h.emission, h.capacity, ?_⟩
  have level := h.levelAt positive later
  have ahead : b.nextArrival now - now = b.arrival - now + b.emission := by
    rw [nextArrival_eq fits]
    omega
  simp only [Bucket.reserve, Tokens.take, ahead]
  rw [Nat.cast_add]
  linarith

-- ---------------------------------------------------------------------------
-- Runs

/-- The arrival time after one more emission interval is still one that the clock can
tell. -/
def InTime (b : Bucket) (_now : Nat) : Prop :=
  b.arrival + b.emission ≤ timeLimit

/-- A reservation after which there is time for another one was not saturated. -/
theorem unsaturated_of_inTime (positive : 0 < b.emission)
    (next : (b.reserve now).2.arrival + b.emission ≤ timeLimit) : b.Unsaturated now := by
  simp only [Bucket.reserve, nextArrival, saturate] at next
  simp only [Unsaturated]
  omega

theorem Coupled.waits {times : List Nat} (h : b.Coupled t) (positive : 0 < b.emission)
    (burst : b.emission ≤ b.tolerance) (ordered : times.Pairwise (· ≤ ·))
    (later : ∀ now ∈ times, t.since ≤ now) (fits : b.Throughout InTime times) :
    (b.reservations times).map (fun r => (r.wait : ℚ)) = t.waits times := by
  induction times generalizing b t with
  | nil => rfl
  | cons now rest ih =>
    obtain ⟨first, ordered⟩ := List.pairwise_cons.mp ordered
    have since : t.since ≤ now := later now List.mem_cons_self
    have wait : (b.waitAt now : ℚ) = (t.take now).debt := h.waitAt positive burst since fits.1
    have others : ((b.reserve now).2.reservations rest).map (fun r => (r.wait : ℚ)) =
        (t.take now).waits rest := by
      cases rest with
      | nil => rfl
      | cons next rest =>
        have unsaturated : b.Unsaturated now := unsaturated_of_inTime positive fits.2.1
        exact ih (h.reserve positive since unsaturated) positive burst ordered first fits.2
    rw [Bucket.reservations, List.map_cons, others, Tokens.waits, ← wait]
    rfl

/-- At readings that never go back, and as long as there is time, reservations wait as at
a bucket with a level: its capacity is the count, of which zero counts as one. Tokens
are given out in the order of the reservations. -/
theorem reservations_like_tokens (count interval : Nat) (times : List Nat)
    (small : count ≤ Limiter.countLimit) (ordered : times.Pairwise (· ≤ ·))
    (fits : (ofCount count interval).Throughout InTime times) :
    ((ofCount count interval).reservations times).map (fun r => (r.wait : ℚ)) =
        (Tokens.full (max count 1) (ofCount count interval).emission).waits times ∧
      ((ofCount count interval).reservations times).Pairwise fun r s =>
        r.instant ≤ s.instant := by
  have told : count ≤ timeLimit := Nat.le_trans small (by decide)
  refine ⟨?_, pairwise_instant (Nat.zero_le _) ordered⟩
  exact (coupled_ofCount interval told).waits (emission_pos count interval)
    (emission_le_tolerance count interval) ordered (fun now _ => Nat.zero_le now) fits

theorem reservations_like_tokens_debt :
    (Tokens.full 2 500000000).waits [0, 0, 0, 600000000] = [0, 0, 500000000, 400000000] := by
  have same := (reservations_like_tokens 2 1000000000 [0, 0, 0, 600000000] (by decide) (by decide)
    (by simp only [Throughout, InTime]; decide)).1
  have waits : (ofCount 2 1000000000).reservations [0, 0, 0, 600000000] =
      [⟨0, 0, 500000000⟩, ⟨0, 0, 1000000000⟩, ⟨0, 500000000, 1500000000⟩,
       ⟨600000000, 400000000, 2000000000⟩] := by decide
  have emission : (ofCount 2 1000000000).emission = 500000000 := by decide
  rw [waits, emission] at same
  simpa using same.symm

/-- A bucket that is made for no tokens lets one through at once, where one of capacity
zero lets it wait for an emission interval. -/
theorem count_zero_not_capacity_zero :
    (ofCount 0 1000000000).Throughout InTime [0] ∧
      ((ofCount 0 1000000000).reservations [0]).map (fun r => (r.wait : ℚ)) ≠
        (Tokens.full 0 (ofCount 0 1000000000).emission).waits [0] := by
  refine ⟨by simp only [Throughout, InTime]; decide, ?_⟩
  have atOnce : (ofCount 0 1000000000).reservations [0] = [⟨0, 0, 1000000000⟩] := by decide
  have emission : (ofCount 0 1000000000).emission = 1000000000 := by decide
  have waits : (Tokens.full 0 1000000000).waits [0] = [1000000000] := by
    simp [Tokens.full, Tokens.waits, Tokens.take, Tokens.levelAt, Tokens.debt]
  rw [atOnce, emission, waits]
  simp

end Bucket

end Tollgate.Rate
