import Tollgate.Proofs.GateRules
import Tollgate.Proofs.Reservations

/-!
# Bursts

A full bucket lets as many tokens through at once as it has, and then one in each emission
interval. The clock has an end: arrival times stop there, and then reservations wait less.
Where the burst alone takes up the rest of the clock, nobody waits at all.
-/

namespace Tollgate.Rate

-- ---------------------------------------------------------------------------
-- Buckets of limiters

namespace Limiter

def tokens (rate : Int) : Nat :=
  min rate.toNat countLimit

theorem tokens_pos {rate : Int} (positive : 0 < rate) : 0 < tokens rate :=
  Nat.lt_min.mpr ⟨by omega, by decide⟩

theorem tokens_le (rate : Int) : tokens rate ≤ timeLimit :=
  Nat.le_trans (Nat.min_le_right _ _) (by decide)

theorem bucketOf?_eq_some_iff {rate : Int} {interval : String} {b : Bucket} :
    bucketOf? rate interval = some b ↔
      0 < rate ∧ ∃ nanos, Time.Span.ofText? interval = some nanos ∧ nanos ≠ 0 ∧
        b = .ofCount (tokens rate) nanos := by
  rw [bucketOf?]
  split
  next none => simp [Int.not_lt.mpr none]
  next some =>
    rw [Int.not_le] at some
    simp only [some, true_and]
    cases Time.Span.ofText? interval with
    | none => simp
    | some nanos => cases nanos <;> simp [tokens, eq_comm]

end Limiter

-- ---------------------------------------------------------------------------
-- Reservations at one reading

theorem saturate_add (m n : Nat) : saturate (saturate m + n) = saturate (m + n) := by
  simp only [saturate]
  omega

theorem le_saturate {n : Nat} (m : Nat) (told : n ≤ timeLimit) : n ≤ saturate (n + m) :=
  Nat.le_min.mpr ⟨Nat.le_add_right n m, told⟩

namespace Bucket

@[simp] theorem pace_reserve (b : Bucket) (now : Nat) : (b.reserve now).2.pace = b.pace := rfl

@[simp] theorem pace_after (b : Bucket) (times : List Nat) : (b.after times).pace = b.pace := by
  induction times generalizing b with
  | nil => rfl
  | cons now rest ih => exact (ih (b.reserve now).2).trans (b.pace_reserve now)

/-- The wait of a reservation with `k` others before it at the same reading. -/
def waitBehind (b : Bucket) (now k : Nat) : Nat :=
  (b.after (List.replicate k now)).waitAt now

theorem waits_replicate (b : Bucket) (now m : Nat) :
    (b.reservations (List.replicate m now)).map Reservation.wait =
      (List.range m).map (b.waitBehind now) := by
  induction m with
  | zero => rfl
  | succ m ih =>
    rw [List.replicate_succ', reservations_concat, List.map_append, ih, List.range_succ,
      List.map_append]
    rfl

variable {b : Bucket} {now : Nat}

/-- Each reservation moves the arrival time one emission interval on from the reading, until
the clock ends. -/
theorem max_arrival_after (full : b.arrival ≤ now) (told : now ≤ timeLimit) (k : Nat) :
    max (b.after (List.replicate k now)).arrival now = saturate (now + k * b.emission) := by
  induction k with
  | zero =>
    have reading : saturate now = now := Nat.min_eq_left told
    have start : max b.arrival now = now := Nat.max_eq_right full
    rw [Nat.zero_mul, Nat.add_zero, reading]
    exact start
  | succ k ih =>
    have emission : (b.after (List.replicate k now)).emission = b.emission :=
      congrArg Pace.emission (b.pace_after _)
    have moved : (b.after (List.replicate (k + 1) now)).arrival =
        saturate (now + (k + 1) * b.emission) := by
      rw [List.replicate_succ', after_concat, reserve, nextArrival, ih, emission, saturate_add,
        Nat.add_assoc, ← Nat.succ_mul]
    rw [moved, Nat.max_eq_left (le_saturate _ told)]

theorem waitBehind_eq (full : b.arrival ≤ now) (told : now ≤ timeLimit) (k : Nat) :
    b.waitBehind now k = saturate (now + (k + 1) * b.emission) - b.tolerance - now := by
  have pace := b.pace_after (List.replicate k now)
  have emission : (b.after (List.replicate k now)).emission = b.emission :=
    congrArg Pace.emission pace
  have tolerance : (b.after (List.replicate k now)).tolerance = b.tolerance :=
    congrArg Pace.tolerance pace
  rw [waitBehind, waitAt, nextArrival, max_arrival_after full told, emission, tolerance,
    saturate_add, Nat.add_assoc, ← Nat.succ_mul]

/-- The waits of those who find the bucket full, where its burst is `count` emission
intervals long. -/
structure Paced (b : Bucket) (count now k : Nat) : Prop where
  atOnce : k < count → b.waitBehind now k = 0
  exactly : count ≤ k →
    (b.waitBehind now k = (k + 1 - count) * b.emission ↔ now + (k + 1) * b.emission ≤ timeLimit)
  waits : count ≤ k → (0 < b.waitBehind now k ↔ now + count * b.emission < timeLimit)

theorem paced_of_full {count : Nat} (positive : 0 < b.emission)
    (burst : b.tolerance = count * b.emission)
    (full : b.arrival ≤ now) (told : now ≤ timeLimit) (k : Nat) : b.Paced count now k := by
  have wait := waitBehind_eq full told k
  rw [burst] at wait
  have beyond : count ≤ k →
      (k + 1) * b.emission = count * b.emission + (k + 1 - count) * b.emission := by
    intro spent
    rw [← Nat.add_mul]
    congr 1
    omega
  have due : count ≤ k → 0 < (k + 1 - count) * b.emission := fun spent =>
    Nat.mul_pos (by omega) positive
  refine ⟨fun room => ?_, fun spent => ?_, fun spent => ?_⟩
  · have within : (k + 1) * b.emission ≤ count * b.emission := Nat.mul_le_mul_right _ room
    simp only [saturate] at wait
    omega
  · have split := beyond spent
    have later := due spent
    simp only [saturate] at wait
    omega
  · have split := beyond spent
    have later := due spent
    simp only [saturate] at wait
    omega

/-- A positive rate in any positive interval makes a bucket. Whenever it is full, of those
who reserve at one reading as many wait for nothing as it has tokens. One who has `k` others
before it waits for the emission intervals beyond the burst, exactly if they are over before
the end of the clock, and waits at all exactly if the burst is. -/
theorem burst_then_paced {rate : Int} {interval : String} {nanos : Nat} (positive : 0 < rate)
    (span : Time.Span.ofText? interval = some nanos) (long : nanos ≠ 0) :
    ∃ fresh, Limiter.bucketOf? rate interval = some fresh ∧
      ∀ b : Bucket, b.pace = fresh.pace → ∀ now, b.arrival ≤ now → now ≤ timeLimit →
        (∀ m, (b.reservations (List.replicate m now)).map Reservation.wait =
          (List.range m).map (b.waitBehind now)) ∧
        ∀ k, b.Paced (Limiter.tokens rate) now k := by
  refine ⟨.ofCount (Limiter.tokens rate) nanos,
    Limiter.bucketOf?_eq_some_iff.mpr ⟨positive, nanos, span, long, rfl⟩,
    fun b pace now full told => ⟨b.waits_replicate now, paced_of_full ?_ ?_ full told⟩⟩
  · have emission : b.emission = _ := congrArg Pace.emission pace
    rw [emission]
    exact emission_pos _ _
  · have emission : b.emission = _ := congrArg Pace.emission pace
    have tolerance : b.tolerance = _ := congrArg Pace.tolerance pace
    have one : max (Limiter.tokens rate) 1 = Limiter.tokens rate :=
      Nat.max_eq_left (Limiter.tokens_pos positive)
    have burst := tolerance_eq nanos (Limiter.tokens_le rate)
    rw [one, Nat.mul_comm] at burst
    rw [emission, tolerance]
    exact burst

theorem burst_then_paced_quarters :
    ∃ fresh, Limiter.bucketOf? 4 "1s" = some fresh ∧ fresh.emission = 250000000 ∧
      fresh.waitBehind 0 3 = 0 ∧ fresh.waitBehind 0 4 = 250000000 := by
  have span : Time.Span.ofText? "1s" = some 1000000000 := by decide +kernel
  have positive : (0 : Int) < 4 := by decide
  obtain ⟨fresh, made, paced⟩ := burst_then_paced positive span (by decide)
  obtain rfl : ofCount 4 1000000000 = fresh := Option.some.inj (Eq.trans (by decide +kernel) made)
  obtain ⟨-, paced⟩ := paced _ rfl 0 (by decide) (by decide)
  refine ⟨_, made, by decide, (paced 3).atOnce (by decide), ?_⟩
  rw [((paced 4).exactly (by decide)).mpr (by decide)]
  decide

/-- In an interval longer than the clock can tell there is one token, but nobody waits for
another. -/
theorem endless_interval_unlimited :
    ∃ fresh, Limiter.bucketOf? 1 "600years" = some fresh ∧ fresh.emission = timeLimit ∧
      ∀ k, fresh.waitBehind 0 k = 0 := by
  let fresh : Bucket := ⟨timeLimit, timeLimit, 0⟩
  have made : Limiter.bucketOf? 1 "600years" = some fresh := by decide +kernel
  refine ⟨fresh, made, rfl, fun k => ?_⟩
  have paced : fresh.Paced 1 0 k :=
    paced_of_full (by decide) (by decide) (by decide) (by decide) k
  rcases Nat.lt_or_ge k 1 with first | later
  · exact paced.atOnce first
  · refine Nat.eq_zero_of_not_pos fun waits => ?_
    exact absurd ((paced.waits later).mp waits) (by decide)

end Bucket

end Tollgate.Rate
