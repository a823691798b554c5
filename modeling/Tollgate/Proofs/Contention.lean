import Mathlib.Data.Rat.Floor
import Mathlib.Tactic.FieldSimp
import Mathlib.Tactic.Linarith
import Tollgate.Proofs.Reservations

/-!
# Contention for a bucket

Many may reserve at a bucket at once. Each reads the clock, then the arrival time, and
tries to exchange the arrival time for the next one. An exchange fails if the arrival
time has changed since it was read; it is tried again from the new one, at the old
clock reading. However such attempts interleave, the reservations that are made are those
of the bucket one after another, at readings in any order. Their slots are apart, and in
every window of time at most as many tokens are given out as the count allows at once
and come in during the window.
-/

namespace Tollgate.Rate

-- ---------------------------------------------------------------------------
-- Attempts

inductive Caller where
  | idle
  /-- It has read the clock. -/
  | timed (now : Nat)
  /-- It has read the arrival time too, and tries to exchange it. -/
  | trying (now arrival : Nat)
  deriving DecidableEq, Repr

inductive Attempt where
  | readClock (caller now : Nat)
  | readArrival (caller : Nat)
  /-- An exchange may fail without a cause. -/
  | exchange (caller : Nat) (fails : Bool)
  deriving DecidableEq, Repr

structure Race where
  bucket : Bucket
  callers : Nat → Caller
  /-- The reservations that were made, in the order of their exchanges. -/
  made : List Reservation

namespace Race

def start (b : Bucket) : Race :=
  ⟨b, fun _ => .idle, []⟩

def become (r : Race) (caller : Nat) (c : Caller) : Race :=
  { r with callers := fun other => if other = caller then c else r.callers other }

/-- Exchanges the arrival time that was read, if it is still the same. -/
def exchange (r : Race) (caller now arrival : Nat) (fails : Bool) : Race :=
  if arrival = r.bucket.arrival ∧ !fails then
    let seen := { r.bucket with arrival := arrival }
    { r.become caller .idle with
      bucket := (seen.reserve now).2
      made := r.made ++ [seen.reservation now] }
  else r.become caller (.trying now r.bucket.arrival)

def step (r : Race) : Attempt → Race
  | .readClock i now => if r.callers i = .idle then r.become i (.timed now) else r
  | .readArrival i =>
    match r.callers i with
    | .timed now => r.become i (.trying now r.bucket.arrival)
    | _ => r
  | .exchange i fails =>
    match r.callers i with
    | .trying now arrival => r.exchange i now arrival fails
    | _ => r

def run (r : Race) (attempts : List Attempt) : Race :=
  attempts.foldl step r

def readings (r : Race) : List Nat :=
  r.made.map Reservation.reading

-- ---------------------------------------------------------------------------
-- One after another

theorem step_cases (r : Race) (a : Attempt) :
    ((r.step a).bucket = r.bucket ∧ (r.step a).made = r.made) ∨
    ∃ now, (r.step a).bucket = (r.bucket.reserve now).2 ∧
      (r.step a).made = r.made ++ [r.bucket.reservation now] := by
  cases a with
  | readClock i now =>
    simp only [step]
    split <;> exact .inl ⟨rfl, rfl⟩
  | readArrival i =>
    simp only [step]
    split <;> exact .inl ⟨rfl, rfl⟩
  | exchange i fails =>
    simp only [step]
    split
    next now arrival _ =>
      simp only [exchange]
      split
      next same =>
        obtain ⟨rfl, -⟩ := same
        exact .inr ⟨now, rfl, rfl⟩
      next _ => exact .inl ⟨rfl, rfl⟩
    next _ => exact .inl ⟨rfl, rfl⟩

/-- The reservations of a race are those of its bucket one after another. -/
structure Serial (b : Bucket) (r : Race) : Prop where
  made : r.made = b.reservations r.readings
  bucket : r.bucket = b.after r.readings

variable {b : Bucket} {r : Race}

theorem serial_start (b : Bucket) : (start b).Serial b :=
  ⟨rfl, rfl⟩

theorem Serial.step (h : r.Serial b) (a : Attempt) : (r.step a).Serial b := by
  rcases r.step_cases a with ⟨bucket, made⟩ | ⟨now, bucket, made⟩
  · have readings : (r.step a).readings = r.readings := congrArg (List.map _) made
    exact ⟨by rw [made, readings, h.made], by rw [bucket, readings, h.bucket]⟩
  · have readings : (r.step a).readings = r.readings ++ [now] := by
      rw [Race.readings, made, List.map_append]
      rfl
    refine ⟨?_, ?_⟩
    · rw [made, readings, Bucket.reservations_concat, ← h.made, ← h.bucket]
    · rw [bucket, readings, Bucket.after_concat, ← h.bucket]

theorem Serial.run (h : r.Serial b) (attempts : List Attempt) : (r.run attempts).Serial b := by
  induction attempts generalizing r with
  | nil => exact h
  | cons a rest ih => exact ih (h.step a)

end Race

-- ---------------------------------------------------------------------------
-- Slots

namespace Bucket

variable {b : Bucket} {times : List Nat}

/-- A slot lies between an emission interval and the burst tolerance after its instant. -/
theorem slot_bounds (burst : b.emission ≤ b.tolerance) (fits : b.Throughout Unsaturated times)
    {r : Reservation} (mem : r ∈ b.reservations times) :
    r.instant + b.emission ≤ r.slot ∧ r.slot ≤ r.instant + b.tolerance := by
  induction times generalizing b with
  | nil => cases mem
  | cons now rest ih =>
    rcases List.mem_cons.mp mem with rfl | mem
    · have next := nextArrival_eq fits.1
      rw [instant_reservation]
      simp only [reservation, reserve]
      omega
    · exact ih (b := (b.reserve now).2) burst fits.2 mem

theorem arrival_add_emission_le (fits : b.Throughout Unsaturated times) {r : Reservation}
    (mem : r ∈ b.reservations times) : b.arrival + b.emission ≤ r.slot := by
  induction times generalizing b with
  | nil => cases mem
  | cons now rest ih =>
    have next := nextArrival_eq fits.1
    rcases List.mem_cons.mp mem with rfl | mem
    · simp only [reservation, reserve]
      omega
    · have slot := ih fits.2 mem
      simp only [reserve] at slot
      omega

theorem pairwise_slot (fits : b.Throughout Unsaturated times) :
    (b.reservations times).Pairwise fun r s => r.slot + b.emission ≤ s.slot := by
  induction times generalizing b with
  | nil => exact .nil
  | cons now rest ih =>
    refine .cons (fun s mem => ?_) (ih fits.2)
    exact arrival_add_emission_le (b := (b.reserve now).2) fits.2 mem

end Bucket

-- ---------------------------------------------------------------------------
-- Windows

theorem exists_slot_after {emission : Nat} {first : Reservation} {rest : List Reservation}
    (apart : (first :: rest).Pairwise fun r s => r.slot + emission ≤ s.slot) :
    ∃ last ∈ first :: rest, first.slot + rest.length * emission ≤ last.slot := by
  induction rest generalizing first with
  | nil => exact ⟨first, List.mem_cons_self, by simp⟩
  | cons second rest ih =>
    obtain ⟨next, apart⟩ := List.pairwise_cons.mp apart
    obtain ⟨last, mem, slot⟩ := ih apart
    refine ⟨last, List.mem_cons_of_mem _ mem, ?_⟩
    have step := next second List.mem_cons_self
    rw [List.length_cons, Nat.add_mul, Nat.one_mul]
    omega

def Reservation.isWithin (start width : ℚ) (r : Reservation) : Bool :=
  start ≤ r.instant ∧ r.instant ≤ start + width

section Windows

variable {emission tolerance count : Nat} (positive : 0 < emission)
  (burst : tolerance ≤ emission * count) (start width : ℚ)

include burst

/-- The slots of those who are let in during a window take no more time than the window
and the burst. -/
theorem crowd_le {first : Reservation} {rest : List Reservation}
    (apart : (first :: rest).Pairwise fun r s => r.slot + emission ≤ s.slot)
    (bounds : ∀ r ∈ first :: rest, r.instant + emission ≤ r.slot ∧ r.slot ≤ r.instant + tolerance)
    (within : ∀ r ∈ first :: rest, start ≤ r.instant ∧ r.instant ≤ start + width) :
    ((rest.length + 1 : Nat) : ℚ) * emission ≤ width + count * emission := by
  -- From the first slot, which is an emission interval late at least, to the last one,
  -- which is late by the burst at most.
  obtain ⟨last, mem, slot⟩ := exists_slot_after apart
  have low := (bounds first List.mem_cons_self).1
  have high := (bounds last mem).2
  have crowd : first.instant + (rest.length + 1) * emission ≤
      last.instant + emission * count := by
    rw [Nat.add_mul, Nat.one_mul]
    omega
  have crowd : (first.instant : ℚ) + ((rest.length + 1 : Nat) : ℚ) * emission ≤
      last.instant + emission * count := by exact_mod_cast crowd
  have begun := (within first List.mem_cons_self).1
  have ended := (within last mem).2
  linarith

include positive

theorem countP_isWithin_le {made : List Reservation}
    (apart : made.Pairwise fun r s => r.slot + emission ≤ s.slot)
    (bounds : ∀ r ∈ made, r.instant + emission ≤ r.slot ∧ r.slot ≤ r.instant + tolerance) :
    made.countP (·.isWithin start width) ≤ count + ⌊width / emission⌋₊ := by
  rw [List.countP_eq_length_filter]
  have apart := apart.filter (·.isWithin start width)
  have within : ∀ r ∈ made.filter (·.isWithin start width),
      r ∈ made ∧ start ≤ r.instant ∧ r.instant ≤ start + width := by
    intro r mem
    simpa [Reservation.isWithin] using mem
  cases inside : made.filter (·.isWithin start width) with
  | nil => exact Nat.zero_le _
  | cons first rest =>
    rw [inside] at apart within
    have crowd := crowd_le burst start width apart (fun r mem => bounds r (within r mem).1)
      fun r mem => (within r mem).2
    obtain ⟨-, begun, ended⟩ := within first List.mem_cons_self
    have wide : 0 ≤ width := by linarith
    have spaced : (0 : ℚ) < emission := Nat.cast_pos.mpr positive
    have many : ((rest.length + 1 : Nat) : ℚ) ≤ count + width / emission := by
      rw [← sub_le_iff_le_add', le_div_iff₀ spaced]
      linarith
    calc
      rest.length + 1 ≤ ⌊(count : ℚ) + width / emission⌋₊ := Nat.le_floor many
      _ = count + ⌊width / emission⌋₊ := by
        rw [add_comm, Nat.floor_add_natCast (div_nonneg wide spaced.le), add_comm]

end Windows

-- ---------------------------------------------------------------------------
-- Races

/-- However attempts interleave, as long as the clock can tell the arrival times: the
reservations that are made are those of the bucket one after another, no two of them
share a slot, and in a closed window of time, wherever it lies, no more tokens are given
out than the count, of which zero counts as one, and those that come in meanwhile. -/
theorem race_windows (count interval arrival : Nat) (attempts : List Attempt)
    (fits : { Bucket.ofCount count interval with arrival := arrival }.Throughout
      Bucket.Unsaturated
      ((Race.start { Bucket.ofCount count interval with arrival := arrival }).run
        attempts).readings) :
    let b := { Bucket.ofCount count interval with arrival := arrival }
    let race := (Race.start b).run attempts
    race.made = b.reservations race.readings ∧
      (race.made.Pairwise fun r s => r.slot + b.emission ≤ s.slot) ∧
      ∀ start width : ℚ,
        race.made.countP (·.isWithin start width) ≤ max count 1 + ⌊width / b.emission⌋₊ := by
  intro b race
  have serial : race.made = b.reservations race.readings :=
    ((Race.serial_start b).run attempts).made
  have apart : race.made.Pairwise fun r s => r.slot + b.emission ≤ s.slot := by
    rw [serial]
    exact Bucket.pairwise_slot fits
  have burst : b.emission ≤ b.tolerance := Bucket.emission_le_tolerance count interval
  refine ⟨serial, apart, fun start width => ?_⟩
  refine countP_isWithin_le (Bucket.emission_pos count interval)
    (Bucket.tolerance_le count interval) start width apart fun r mem => ?_
  rw [serial] at mem
  exact Bucket.slot_bounds burst fits mem

/-- Two at a bucket of one token: the one that read the clock first loses the exchange,
tries again at its old reading, and is let in an interval after the other one. -/
theorem race_windows_lost_exchange :
    let race := (Race.start (Bucket.ofCount 1 10)).run
      [.readClock 0 5, .readArrival 0, .readClock 1 7, .readArrival 1, .exchange 1 false,
       .exchange 0 false, .exchange 0 false]
    race.made = [⟨7, 0, 17⟩, ⟨5, 12, 27⟩] ∧
      ∀ start : ℚ, race.made.countP (·.isWithin start 9) ≤ 1 := by
  intro race
  have made : race.made = [⟨7, 0, 17⟩, ⟨5, 12, 27⟩] := by decide
  refine ⟨made, fun start => ?_⟩
  have fits : (Bucket.ofCount 1 10).Throughout Bucket.Unsaturated race.readings := by
    rw [Race.readings, made]
    simp only [List.map_cons, List.map_nil, Bucket.Throughout, Bucket.Unsaturated]
    decide
  have windows := (race_windows 1 10 0 _ fits).2.2 start 9
  have floor : ⌊(9 : ℚ) / ((10 : Nat) : ℚ)⌋₊ = 0 := by norm_num
  exact windows.trans_eq (by rw [show (Bucket.ofCount 1 10).emission = 10 by decide, floor]; rfl)

/-- A bucket that is made for no tokens gives one out in a window without any length. -/
theorem count_zero_window :
    let race := (Race.start (Bucket.ofCount 0 1000000000)).run
      [.readClock 0 0, .readArrival 0, .exchange 0 false]
    (Bucket.ofCount 0 1000000000).Throughout Bucket.Unsaturated race.readings ∧
      ¬race.made.countP (·.isWithin 0 0) ≤
        0 + ⌊(0 : ℚ) / (Bucket.ofCount 0 1000000000).emission⌋₊ := by
  intro race
  have made : race.made = [⟨0, 0, 1000000000⟩] := by decide
  refine ⟨?_, ?_⟩
  · rw [Race.readings, made]
    simp only [List.map_cons, List.map_nil, Bucket.Throughout, Bucket.Unsaturated]
    decide
  · rw [made]
    simp [Reservation.isWithin, Reservation.instant]

end Tollgate.Rate
