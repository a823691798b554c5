import Tollgate.Rate.Limiter

/-!
# Fresh buckets

The interval of a bucket, as far as the clock can tell it, is divided among its tokens in
whole nanoseconds, rounded down, but each token gets at least one. The burst is one part for
each token. Where there is a nanosecond for each, all parts stay within the interval, and
otherwise they are as many nanoseconds as there are tokens. Counts have 32 bits and times
64, so neither passes the end of the clock, and the burst is never cut there.
-/

namespace Tollgate.Rate

namespace Bucket

variable {b : Bucket} {count interval : Nat}

-- ---------------------------------------------------------------------------
-- The time between two tokens

theorem emission_of_room (room : max count 1 ≤ saturate interval) :
    (ofCount count interval).emission = saturate interval / max count 1 := by
  refine Nat.max_eq_left ((Nat.le_div_iff_mul_le ?_).mpr ?_)
  · exact Nat.le_max_right count 1
  · rwa [Nat.one_mul]

theorem emission_of_crowded (crowded : saturate interval < max count 1) :
    (ofCount count interval).emission = 1 := by
  have none : saturate interval / max count 1 = 0 := Nat.div_eq_of_lt crowded
  rw [ofCount, none]
  rfl

theorem emission_pos (count interval : Nat) : 0 < (ofCount count interval).emission :=
  Nat.lt_of_lt_of_le Nat.one_pos (Nat.le_max_right _ _)

theorem emission_le (count interval : Nat) : (ofCount count interval).emission ≤ timeLimit := by
  have interval : saturate interval / max count 1 ≤ timeLimit :=
    Nat.le_trans (Nat.div_le_self _ _) (Nat.min_le_right _ _)
  exact Nat.max_le.mpr ⟨interval, by decide⟩

theorem emission_mul_le (room : max count 1 ≤ saturate interval) :
    (ofCount count interval).emission * max count 1 ≤ saturate interval := by
  rw [emission_of_room room]
  exact Nat.div_mul_le_self _ _

theorem lt_emission_succ_mul (room : max count 1 ≤ saturate interval) :
    saturate interval < ((ofCount count interval).emission + 1) * max count 1 := by
  rw [emission_of_room room]
  exact (Nat.div_lt_iff_lt_mul (Nat.le_max_right count 1)).mp (Nat.lt_succ_self _)

-- ---------------------------------------------------------------------------
-- The burst

theorem tolerance_le (count interval : Nat) :
    (ofCount count interval).tolerance ≤ (ofCount count interval).emission * max count 1 :=
  Nat.min_le_left _ _

theorem emission_le_tolerance (count interval : Nat) :
    (ofCount count interval).emission ≤ (ofCount count interval).tolerance := by
  refine Nat.le_min.mpr ⟨?_, emission_le count interval⟩
  exact Nat.le_mul_of_pos_right _ (Nat.lt_of_lt_of_le Nat.one_pos (Nat.le_max_right _ _))

/-- All parts together do not pass the end of the clock: they are within the interval, or one
nanosecond for each token. -/
theorem emission_mul_le_timeLimit (interval : Nat) (small : count ≤ timeLimit) :
    (ofCount count interval).emission * max count 1 ≤ timeLimit := by
  rcases Nat.lt_or_ge (saturate interval) (max count 1) with crowded | room
  · rw [emission_of_crowded crowded, Nat.one_mul]
    exact Nat.max_le.mpr ⟨small, by decide⟩
  · exact Nat.le_trans (emission_mul_le room) (Nat.min_le_right _ _)

theorem tolerance_eq (interval : Nat) (small : count ≤ timeLimit) :
    (ofCount count interval).tolerance = (ofCount count interval).emission * max count 1 :=
  Nat.min_eq_left (emission_mul_le_timeLimit interval small)

-- ---------------------------------------------------------------------------
-- All of it

/-- A full bucket whose interval, of so many nanoseconds, is divided among its tokens. -/
structure Divided (b : Bucket) (count interval : Nat) : Prop where
  full : b.arrival = 0
  apart : 1 ≤ b.emission
  burst : b.tolerance = b.emission * max count 1
  /-- The burst is not cut at the end of the clock. -/
  told : b.emission * max count 1 ≤ timeLimit
  /-- What the division leaves over is less than a nanosecond for each token. -/
  within : max count 1 ≤ saturate interval →
    b.emission * max count 1 ≤ saturate interval ∧
      saturate interval < (b.emission + 1) * max count 1
  crowded : saturate interval < max count 1 → b.emission = 1

theorem divided_ofCount (interval : Nat) (small : count ≤ timeLimit) :
    (ofCount count interval).Divided count interval where
  full := rfl
  apart := emission_pos count interval
  burst := tolerance_eq interval small
  told := emission_mul_le_timeLimit interval small
  within room := ⟨emission_mul_le room, lt_emission_succ_mul room⟩
  crowded := emission_of_crowded

theorem Divided.unique {other : Bucket} (h : b.Divided count interval)
    (h' : other.Divided count interval) : b = other := by
  have emission : b.emission = other.emission := by
    rcases Nat.lt_or_ge (saturate interval) (max count 1) with crowded | room
    · rw [h.crowded crowded, h'.crowded crowded]
    · have quotient := Nat.div_eq_of_lt_le (h.within room).1 (h.within room).2
      have quotient' := Nat.div_eq_of_lt_le (h'.within room).1 (h'.within room).2
      rw [← quotient, ← quotient']
  have tolerance : b.tolerance = other.tolerance := by rw [h.burst, h'.burst, emission]
  have arrival : b.arrival = other.arrival := h.full.trans h'.full.symm
  cases b
  cases other
  rw [mk.injEq]
  exact ⟨emission, tolerance, arrival⟩

/-- For every count of 32 bits and every interval there is one bucket that divides the interval
as it should, and it is the one that is made. -/
theorem eq_ofCount_iff_divided (interval : Nat) (counted : count ≤ Limiter.countLimit) :
    b = ofCount count interval ↔ b.Divided count interval := by
  have small : count ≤ timeLimit := Nat.le_trans counted (by decide)
  have divided := divided_ofCount interval small
  refine ⟨?_, fun h => h.unique divided⟩
  rintro rfl
  exact divided

/-- The largest count in the longest interval, where the burst is all that the clock can
tell, and in a single nanosecond. -/
theorem divided_largest :
    (⟨4294967297, timeLimit, 0⟩ : Bucket).Divided Limiter.countLimit
        (timeLimit * 1000000000 + 999999999) ∧
      (⟨1, Limiter.countLimit, 0⟩ : Bucket).Divided Limiter.countLimit 1 :=
  ⟨(eq_ofCount_iff_divided _ (Nat.le_refl _)).mp (by decide),
    (eq_ofCount_iff_divided _ (Nat.le_refl _)).mp (by decide)⟩

end Bucket

end Tollgate.Rate
