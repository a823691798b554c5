import Mathlib.Algebra.Order.Floor.Semifield
import Mathlib.Data.List.Induction
import Tollgate.Proofs.Bursts
import Tollgate.Proofs.Contention

/-!
# Nominal rates

A rate of so many tokens in each interval should let at most twice as many through in any
window that is one interval long: those of the burst, and those that come in meanwhile. But
the time between two tokens is a whole number of nanoseconds, rounded down. An interval may
hold more of these than the rate says, and then more tokens come in. The bound holds for all
runs of a rate exactly if an interval holds no more, or the clock ends before there can be so
many. Where the clock has ended there is no bound, for any rate.
-/

namespace Tollgate.Rate

namespace Bucket

variable {b : Bucket} {times : List Nat}

-- ---------------------------------------------------------------------------
-- Runs that the clock can tell

theorem length_mul_le (told : b.arrival ≤ timeLimit) (fits : b.Throughout Unsaturated times) :
    b.arrival + times.length * b.emission ≤ timeLimit := by
  induction times generalizing b with
  | nil => simpa using told
  | cons now rest ih =>
    have moved := ih (b := (b.reserve now).2) (b.nextArrival_le now) fits.2
    have next := nextArrival_eq fits.1
    simp only [reserve] at moved
    rw [List.length_cons, Nat.add_mul, Nat.one_mul]
    omega

/-- A window gives out no more than the burst and what comes in meanwhile. -/
theorem countP_window_le (count interval : Nat)
    (fits : (ofCount count interval).Throughout Unsaturated times) (start : ℚ) (width : Nat) :
    ((ofCount count interval).reservations times).countP (·.isWithin start width) ≤
      max count 1 + width / (ofCount count interval).emission := by
  have crowd := countP_isWithin_le (emission_pos count interval) (tolerance_le count interval)
    start width (pairwise_slot fits)
    fun r mem => slot_bounds (emission_le_tolerance count interval) fits mem
  rwa [Nat.floor_div_eq_div] at crowd

-- ---------------------------------------------------------------------------
-- Reservations at one reading

theorem reading_of_mem {r : Reservation} (mem : r ∈ b.reservations times) : r.reading ∈ times := by
  induction times generalizing b with
  | nil => cases mem
  | cons now rest ih =>
    rcases List.mem_cons.mp mem with rfl | mem
    · exact List.mem_cons_self
    · exact List.mem_cons_of_mem _ (ih mem)

theorem instant_of_mem_replicate {now m : Nat} {r : Reservation}
    (mem : r ∈ b.reservations (List.replicate m now)) :
    ∃ k < m, r.instant = now + b.waitBehind now k := by
  have reading : r.reading = now := List.eq_of_mem_replicate (reading_of_mem mem)
  have wait : r.wait ∈ (List.range m).map (b.waitBehind now) :=
    b.waits_replicate now m ▸ List.mem_map_of_mem mem
  obtain ⟨k, place, same⟩ := List.mem_map.mp wait
  exact ⟨k, List.mem_range.mp place, by rw [Reservation.instant, reading, same]⟩

theorem throughout_replicate {now m : Nat} (full : b.arrival ≤ now)
    (fits : now + m * b.emission ≤ timeLimit) :
    b.Throughout Unsaturated (List.replicate m now) := by
  induction m with
  | zero => trivial
  | succ m ih =>
    rw [Nat.add_mul, Nat.one_mul] at fits
    have told : now ≤ timeLimit := by omega
    have arrival := max_arrival_after full told m
    have emission : (b.after (List.replicate m now)).emission = b.emission :=
      congrArg Pace.emission (b.pace_after _)
    rw [List.replicate_succ', throughout_concat]
    refine ⟨ih (by omega), ?_⟩
    simp only [saturate] at arrival
    rw [Unsaturated, arrival, emission]
    omega

theorem countP_replicate {now m width : Nat} (full : b.arrival ≤ now) (told : now ≤ timeLimit)
    (last : m * b.emission ≤ b.tolerance + width) :
    (b.reservations (List.replicate m now)).countP (·.isWithin now width) = m := by
  have all : ∀ r ∈ b.reservations (List.replicate m now), r.isWithin now width := by
    intro r mem
    obtain ⟨k, place, instant⟩ := instant_of_mem_replicate mem
    have wait := waitBehind_eq full told k
    have before : (k + 1) * b.emission ≤ m * b.emission := Nat.mul_le_mul_right _ place
    simp only [saturate] at wait
    have within : now ≤ r.instant ∧ r.instant ≤ now + width := by omega
    rw [Reservation.isWithin, decide_eq_true_eq]
    exact_mod_cast within
  rw [List.countP_eq_length.mpr all, length_reservations, List.length_replicate]

-- ---------------------------------------------------------------------------
-- The end of the clock

/-- An arrival time that could not be told any more is the last one that there is. -/
theorem arrival_of_saturated (past : ¬b.Throughout Unsaturated times) :
    (b.after times).arrival = timeLimit := by
  induction times using List.reverseRecOn with
  | nil => exact absurd trivial past
  | append_singleton times now ih =>
    rw [throughout_concat] at past
    have moved : (b.after (times ++ [now])).arrival =
        min (max (b.after times).arrival now + (b.after times).emission) timeLimit := by
      rw [after_concat]
      rfl
    by_cases fits : b.Throughout Unsaturated times
    · have past : ¬(b.after times).Unsaturated now := fun told => past ⟨fits, told⟩
      rw [Unsaturated] at past
      omega
    · have stays := ih fits
      omega

theorem instant_of_saturated (past : b.arrival = timeLimit) {r : Reservation}
    (mem : r ∈ b.reservations times) :
    r.instant = max r.reading (timeLimit - b.tolerance) := by
  induction times generalizing b with
  | nil => cases mem
  | cons now rest ih =>
    have next : b.nextArrival now = timeLimit := by
      rw [nextArrival, saturate]
      omega
    rcases List.mem_cons.mp mem with rfl | mem
    · rw [instant_reservation, next]
      rfl
    · exact ih (b := (b.reserve now).2) next mem

/-- However many reserve at one reading then, all of them are given their tokens at once. -/
theorem le_countP_of_saturated (past : ¬b.Throughout Unsaturated times) (later m width : Nat) :
    m ≤ (b.reservations (times ++ List.replicate m later)).countP
      (·.isWithin (max later (timeLimit - b.tolerance) : Nat) width) := by
  have ended := arrival_of_saturated past
  have tolerance : (b.after times).tolerance = b.tolerance :=
    congrArg Pace.tolerance (b.pace_after times)
  have all : ∀ r ∈ (b.after times).reservations (List.replicate m later),
      r.isWithin (max later (timeLimit - b.tolerance) : Nat) width := by
    intro r mem
    have reading : r.reading = later := List.eq_of_mem_replicate (reading_of_mem mem)
    have instant := instant_of_saturated ended mem
    rw [reading, tolerance] at instant
    simp [Reservation.isWithin, instant]
  rw [reservations_append, List.countP_append, List.countP_eq_length.mpr all, length_reservations,
    List.length_replicate]
  exact Nat.le_add_left m _

-- ---------------------------------------------------------------------------
-- Rates

/-- Whatever is reserved at readings that never go back, as long as the clock can tell: a
window that is one interval long gives out at most twice the count. -/
def KeepsRate (b : Bucket) (count interval : Nat) : Prop :=
  ∀ times : List Nat, times.Pairwise (· ≤ ·) → b.Throughout Unsaturated times → ∀ start : ℚ,
    (b.reservations times).countP (·.isWithin start interval) ≤ 2 * count

/-- So many tokens come in during an interval, or the clock ends before there can be more. -/
theorem keepsRate_iff {count : Nat} (interval : Nat) (positive : 0 < count)
    (small : count ≤ timeLimit) :
    (ofCount count interval).KeepsRate count interval ↔
      interval / (ofCount count interval).emission ≤ count ∨
        timeLimit < (2 * count + 1) * (ofCount count interval).emission := by
  have one : max count 1 = count := Nat.max_eq_left positive
  have spaced := emission_pos count interval
  have burst := tolerance_eq interval small
  rw [one] at burst
  refine ⟨fun keeps => ?_, fun few => ?_⟩
  · -- Twice the count and one more at once are told apart by the clock, and all in time.
    by_contra! more
    obtain ⟨many, told⟩ := more
    have room : (count + 1) * (ofCount count interval).emission ≤ interval :=
      (Nat.le_div_iff_mul_le spaced).mp many
    have last : (2 * count + 1) * (ofCount count interval).emission ≤
        (ofCount count interval).tolerance + interval := by
      have split : (2 * count + 1) * (ofCount count interval).emission =
          (ofCount count interval).emission * count +
            (count + 1) * (ofCount count interval).emission := by ring
      omega
    have fits : (ofCount count interval).Throughout Unsaturated
        (List.replicate (2 * count + 1) 0) :=
      throughout_replicate (Nat.zero_le _) (by omega)
    have ordered : (List.replicate (2 * count + 1) 0).Pairwise (· ≤ ·) :=
      List.pairwise_replicate.mpr (.inr (Nat.le_refl 0))
    have crowd := keeps _ ordered fits (0 : Nat)
    rw [countP_replicate (Nat.zero_le _) (Nat.zero_le _) last] at crowd
    omega
  · intro times _ fits start
    rcases few with few | ends
    · have crowd := countP_window_le count interval fits start interval
      omega
    · have taken := length_mul_le (Nat.zero_le _) fits
      have fewer : times.length < 2 * count + 1 :=
        Nat.lt_of_mul_lt_mul_right (Nat.lt_of_le_of_lt (Nat.le_of_add_left_le taken) ends)
      have counted := List.countP_le_length (p := (·.isWithin start interval))
        (l := (ofCount count interval).reservations times)
      rw [length_reservations] at counted
      omega

theorem interval_div_emission_le {count interval : Nat} (positive : 0 < count)
    (square : count * count ≤ interval) (told : interval ≤ timeLimit) :
    interval / (ofCount count interval).emission ≤ count := by
  have one : max count 1 = count := Nat.max_eq_left positive
  have whole : saturate interval = interval := Nat.min_eq_left told
  have room : max count 1 ≤ saturate interval := by
    rw [one, whole]
    exact Nat.le_trans (Nat.le_mul_self count) square
  have apart : count ≤ (ofCount count interval).emission := by
    rw [emission_of_room room, one, whole]
    exact (Nat.le_div_iff_mul_le positive).mpr square
  have rounded := lt_emission_succ_mul room
  rw [one, whole, Nat.add_mul, Nat.one_mul] at rounded
  refine Nat.le_of_lt_succ (Nat.div_lt_of_lt_mul ?_)
  rw [Nat.mul_succ]
  omega

structure Nominal (b : Bucket) (count interval : Nat) : Prop where
  /-- Besides the burst, a window gives out the tokens that come in. -/
  windows : ∀ times, b.Throughout Unsaturated times → ∀ (start : ℚ) (width : Nat),
    (b.reservations times).countP (·.isWithin start width) ≤ count + width / b.emission
  keepsRate : b.KeepsRate count interval ↔
    interval / b.emission ≤ count ∨ timeLimit < (2 * count + 1) * b.emission
  slow : count * count ≤ interval → interval ≤ timeLimit → b.KeepsRate count interval
  /-- After a reservation that the clock could not tell, the windows have no bound. -/
  ended : ∀ times, ¬b.Throughout Unsaturated times → ∀ later m, ∃ start : ℚ,
    m ≤ (b.reservations (times ++ List.replicate m later)).countP (·.isWithin start interval)

/-- A positive rate in any positive interval makes a bucket. While the clock can tell the
arrival times, a window gives out the burst and what comes in meanwhile; a window of one
interval at most twice the count, for all runs, exactly if no more tokens come in during an
interval or the clock ends before, and always if the interval has the square of the count in
nanoseconds. Once the clock has ended any number of tokens is given out at once. -/
theorem nominal_rate {rate : Int} {interval : String} {nanos : Nat} (positive : 0 < rate)
    (span : Time.Span.ofText? interval = some nanos) (long : nanos ≠ 0) :
    ∃ fresh, (∀ epoch, Limiter.ofSpec epoch rate interval = .bucket epoch fresh) ∧
      fresh.Nominal (Limiter.tokens rate) nanos := by
  have made : Limiter.bucketOf? rate interval = some (.ofCount (Limiter.tokens rate) nanos) :=
    Limiter.bucketOf?_eq_some_iff.mpr ⟨positive, nanos, span, long, rfl⟩
  have some : 0 < Limiter.tokens rate := Limiter.tokens_pos positive
  have one : max (Limiter.tokens rate) 1 = Limiter.tokens rate := Nat.max_eq_left some
  have exact := keepsRate_iff nanos some (Limiter.tokens_le rate)
  refine ⟨_, fun epoch => by rw [Limiter.ofSpec, made], ?_, exact, fun square told => ?_, ?_⟩
  · intro times fits start width
    have crowd := countP_window_le (Limiter.tokens rate) nanos fits start width
    rwa [one] at crowd
  · exact exact.mpr (.inl (interval_div_emission_le some square told))
  · intro times past later m
    exact ⟨_, le_countP_of_saturated past later m nanos⟩

theorem nominal_rate_quarters :
    ∃ fresh, Limiter.ofSpec 0 4 "1s" = .bucket 0 fresh ∧ fresh.KeepsRate 4 1000000000 := by
  obtain ⟨fresh, made, nominal⟩ :=
    @nominal_rate 4 "1s" 1000000000 (by decide) (by decide +kernel) (by decide)
  exact ⟨fresh, made 0, nominal.slow (by decide) (by decide)⟩

/-- At three in five nanoseconds there is one in each nanosecond: a burst of three, and four
more within the interval. -/
theorem seven_in_five_nanos :
    ∃ fresh, Limiter.ofSpec 0 3 "5ns" = .bucket 0 fresh ∧
      fresh.Throughout Unsaturated [0, 0, 0, 0, 0, 0, 0] ∧
      (fresh.reservations [0, 0, 0, 0, 0, 0, 0]).map Reservation.wait = [0, 0, 0, 1, 2, 3, 4] ∧
      ¬(fresh.reservations [0, 0, 0, 0, 0, 0, 0]).countP (·.isWithin 0 5) ≤ 2 * 3 := by
  have made : Limiter.ofSpec 0 3 "5ns" = .bucket 0 ⟨1, 3, 0⟩ := by decide +kernel
  have all : (⟨1, 3, 0⟩ : Bucket).reservations [0, 0, 0, 0, 0, 0, 0] =
      [⟨0, 0, 1⟩, ⟨0, 0, 2⟩, ⟨0, 0, 3⟩, ⟨0, 1, 4⟩, ⟨0, 2, 5⟩, ⟨0, 3, 6⟩, ⟨0, 4, 7⟩] := by decide
  refine ⟨_, made, ?_, ?_, ?_⟩
  · simp only [Throughout, Unsaturated]
    decide
  · rw [all]
    rfl
  · rw [all]
    norm_num [Reservation.isWithin, Reservation.instant]

end Bucket

end Tollgate.Rate
