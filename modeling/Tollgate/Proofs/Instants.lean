import Mathlib.Algebra.Group.Nat.Defs
import Tollgate.Proofs.Calendar
import Tollgate.Proofs.Readers
import Tollgate.Time.Reading

/-!
# Instants are read back

The text of a proper instant is read as this instant again, whatever its year and however
many fraction digits it needs, and in a leap second too. Whatever is read is proper.
-/

-- ---------------------------------------------------------------------------
-- Digits

namespace Tollgate.Text

theorem decimal_eq_ofDigitChars (cs : List Char) : decimal cs = Nat.ofDigitChars 10 cs 0 := by
  rw [decimal, ofDigits, List.foldl_map, Nat.ofDigitChars_eq_foldl]
  simp only [Nat.mul_comm _ 10]
  rfl

theorem toList_padded (width n : Nat) :
    (padded width n).toList =
      List.replicate (width - (Nat.toDigits 10 n).length) '0' ++ Nat.toDigits 10 n :=
  String.toList_ofList

theorem decimal_padded (width n : Nat) : decimal (padded width n).toList = n := by
  rw [decimal_eq_ofDigitChars, toList_padded, Nat.ofDigitChars_append,
    Nat.ofDigitChars_replicate_zero, Nat.mul_zero, Nat.ofDigitChars_ten_toDigits]

theorem isDigit_of_mem_padded {width n : Nat} {c : Char} (h : c ∈ (padded width n).toList) :
    isDigit c := by
  rw [toList_padded, List.mem_append] at h
  rcases h with zero | digit
  · rw [List.eq_of_mem_replicate zero]
    rfl
  · exact Nat.isDigit_of_mem_toDigits (by decide) (by decide) digit

theorem length_padded {width n : Nat} (pos : 0 < width) (fits : n < 10 ^ width) :
    (padded width n).toList.length = width := by
  have short := (Nat.length_toDigits_le_iff (by decide) pos).mpr fits
  rw [toList_padded, List.length_append, List.length_replicate]
  omega

theorem toNat_of_isDigit {c : Char} (h : isDigit c) : 48 ≤ c.toNat ∧ c.toNat ≤ 57 := by
  simpa [isDigit, Char.le_def, UInt32.le_iff_toNat_le] using h

theorem decimal_lt {cs : List Char} (digits : ∀ c ∈ cs, isDigit c) :
    decimal cs < 10 ^ cs.length := by
  have grows : ∀ n,
      (cs.map digitValue).foldl (fun n d => n * 10 + d) n < (n + 1) * 10 ^ cs.length := by
    induction cs with
    | nil => simp
    | cons c cs ih =>
      obtain ⟨first, others⟩ := List.forall_mem_cons.mp digits
      intro n
      have value : digitValue c ≤ 9 := by
        have digit := toNat_of_isDigit first
        have zero : '0'.toNat = 48 := rfl
        rw [digitValue, zero]
        omega
      calc
        _ < (n * 10 + digitValue c + 1) * 10 ^ cs.length := ih others (n * 10 + digitValue c)
        _ ≤ (n + 1) * 10 * 10 ^ cs.length := Nat.mul_le_mul_right _ (by omega)
        _ = (n + 1) * 10 ^ (c :: cs).length := by rw [List.length_cons, Nat.pow_succ']; ac_rfl
  simpa [decimal, ofDigits] using grows 0

theorem not_isBlank_of_isDigit {c : Char} (h : isDigit c) : isBlank c = false := by
  have digit := toNat_of_isDigit h
  simp only [isBlank, Bool.or_eq_false_iff, Bool.and_eq_false_iff, decide_eq_false_iff_not,
    beq_eq_false_iff_ne]
  omega

theorem exists_padded_cons (width n : Nat) :
    ∃ c cs, (padded width n).toList = c :: cs ∧ isDigit c := by
  have some : (padded width n).toList ≠ [] := by
    rw [toList_padded]
    exact List.append_ne_nil_of_right_ne_nil _ Nat.toDigits_ne_nil
  obtain ⟨c, cs, chars⟩ := List.exists_cons_of_ne_nil some
  exact ⟨c, cs, chars, isDigit_of_mem_padded (chars ▸ List.mem_cons_self)⟩

end Tollgate.Text

namespace Tollgate.Time.Reading

open Text (isDigit isBlank decimal padded)

-- ---------------------------------------------------------------------------
-- Fields

theorem skipBlanks_padded (width n : Nat) (rest : List Char) :
    skipBlanks ((padded width n).toList ++ rest) = (padded width n).toList ++ rest := by
  obtain ⟨c, cs, chars, digit⟩ := Text.exists_padded_cons width n
  rw [chars, skipBlanks, List.cons_append, List.dropWhile_cons_of_neg]
  simp [Text.not_isBlank_of_isDigit digit]

def digitsOf (limit : Option Nat) (cs : List Char) : List Char :=
  match limit with
  | some width => (cs.take width).takeWhile isDigit
  | none => cs.takeWhile isDigit

theorem number_eq (limit : Option Nat) (cs : List Char) :
    number limit cs =
      if (digitsOf limit cs).isEmpty then .error (if cs.isEmpty then .tooShort else .invalid)
      else if fieldLimit < decimal (digitsOf limit cs) then .error .outOfRange
      else .ok (decimal (digitsOf limit cs), cs.drop (digitsOf limit cs).length) :=
  rfl

theorem number_of_digitsOf {limit : Option Nat} {width n : Nat} {rest : List Char}
    (small : n ≤ fieldLimit)
    (digits : digitsOf limit ((padded width n).toList ++ rest) = (padded width n).toList) :
    number limit ((padded width n).toList ++ rest) = .ok (n, rest) := by
  obtain ⟨c, cs, chars, -⟩ := Text.exists_padded_cons width n
  have some : ((padded width n).toList).isEmpty = false := by rw [chars]; rfl
  rw [number_eq, digits, some, Text.decimal_padded, if_neg Bool.false_ne_true,
    if_neg (Nat.not_lt.mpr small), List.drop_left]

theorem takeWhile_padded (width n : Nat) (rest : List Char) :
    ((padded width n).toList ++ rest).takeWhile isDigit =
      (padded width n).toList ++ rest.takeWhile isDigit :=
  List.takeWhile_append_of_pos fun _ mem => Text.isDigit_of_mem_padded mem

theorem number_padded {width n : Nat} (pos : 0 < width) (fits : n < 10 ^ width)
    (small : n ≤ fieldLimit) (rest : List Char) :
    number (some width) ((padded width n).toList ++ rest) = .ok (n, rest) := by
  refine number_of_digitsOf small ?_
  have alone := takeWhile_padded width n []
  simp only [List.append_nil, List.takeWhile_nil] at alone
  rw [digitsOf, List.take_left' (Text.length_padded pos fits), alone]

theorem number_padded_cons {width n : Nat} (small : n ≤ fieldLimit) {c : Char}
    (ends : isDigit c = false) (rest : List Char) :
    number none ((padded width n).toList ++ c :: rest) = .ok (n, c :: rest) := by
  refine number_of_digitsOf small ?_
  rw [digitsOf, takeWhile_padded, List.takeWhile_cons_of_neg (by simp [ends]), List.append_nil]

theorem billion_le_fieldLimit : 1000000000 ≤ fieldLimit := by
  decide

theorem shortField_padded {low high n : Nat} (bounds : low ≤ n ∧ n ≤ high) (two : high < 100)
    (rest : List Char) : shortField low high ((padded 2 n).toList ++ rest) = .ok (n, rest) := by
  have large := billion_le_fieldLimit
  have read : number (some 2) ((padded 2 n).toList ++ rest) = .ok (n, rest) :=
    number_padded (by decide) (by omega) (by omega) rest
  rw [shortField, skipBlanks_padded, read]
  exact if_pos bounds

def YearFits (year : Int) : Prop :=
  Int32.minValue.toInt ≤ year ∧ year ≤ Int32.maxValue.toInt

theorem yearFits_of_bounds {year : Int} (first : firstYear ≤ year) (last : year ≤ lastYear) :
    YearFits year := by
  have least : Int32.minValue.toInt = -2147483648 := rfl
  have greatest : Int32.maxValue.toInt = 2147483647 := rfl
  simp only [firstYear, lastYear] at first last
  rw [YearFits, least, greatest]
  omega

theorem lenientYear_padded {n : Nat} (four : n < 10 ^ 4) (fits : YearFits n) (rest : List Char) :
    lenientYear ((padded 4 n).toList ++ rest) = .ok ((n : Int), rest) := by
  have large := billion_le_fieldLimit
  have read : number (some 4) ((padded 4 n).toList ++ rest) = .ok (n, rest) :=
    number_padded (by decide) four (by omega) rest
  obtain ⟨c, cs, chars, digit⟩ := Text.exists_padded_cons 4 n
  rw [lenientYear, skipBlanks_padded]
  -- A digit is neither of the signs.
  split
  next starts =>
    rw [chars] at starts
    obtain ⟨rfl, -⟩ := List.cons_eq_cons.mp starts
    exact absurd digit (by decide)
  next starts =>
    rw [chars] at starts
    obtain ⟨rfl, -⟩ := List.cons_eq_cons.mp starts
    exact absurd digit (by decide)
  next =>
    simp only [read, Except.bind, bind]
    exact if_pos fits

theorem lenientYear_minus {n : Nat} (small : n ≤ fieldLimit) (fits : YearFits (-n))
    (rest : List Char) :
    lenientYear ('-' :: ((padded 4 n).toList ++ '-' :: rest)) = .ok (-(n : Int), '-' :: rest) := by
  have starts : skipBlanks ('-' :: ((padded 4 n).toList ++ '-' :: rest)) =
      '-' :: ((padded 4 n).toList ++ '-' :: rest) := rfl
  rw [lenientYear, starts]
  simp only [number_padded_cons small (c := '-') rfl, Except.bind, bind]
  exact if_pos fits

theorem lenientYear_plus {n : Nat} (small : n ≤ fieldLimit) (fits : YearFits n)
    (rest : List Char) :
    lenientYear ('+' :: ((padded 4 n).toList ++ '-' :: rest)) = .ok ((n : Int), '-' :: rest) := by
  have starts : skipBlanks ('+' :: ((padded 4 n).toList ++ '-' :: rest)) =
      '+' :: ((padded 4 n).toList ++ '-' :: rest) := rfl
  rw [lenientYear, starts]
  simp only [number_padded_cons small (c := '-') rfl, Except.bind, bind]
  exact if_pos fits

theorem lenientYear_yearText {year : Int} (first : firstYear ≤ year) (last : year ≤ lastYear)
    (rest : List Char) :
    lenientYear ((Instant.yearText year).toList ++ '-' :: rest) = .ok (year, '-' :: rest) := by
  have fits := yearFits_of_bounds first last
  have small : year.natAbs ≤ fieldLimit := by
    have large := billion_le_fieldLimit
    simp only [firstYear, lastYear] at first last
    omega
  rw [Instant.yearText]
  split
  next four =>
    have value : (year.natAbs : Int) = year := by omega
    rw [lenientYear_padded (by omega) (value.symm ▸ fits), value]
  next =>
    split
    next negative =>
      have value : -(year.natAbs : Int) = year := by omega
      rw [String.toList_append]
      exact (lenientYear_minus small (value.symm ▸ fits) rest).trans (by rw [value])
    next =>
      have value : (year.natAbs : Int) = year := by omega
      rw [String.toList_append]
      exact (lenientYear_plus small (value.symm ▸ fits) rest).trans (by rw [value])

theorem lenientFraction_padded {width n : Nat} (pos : 0 < width) (upTo : width ≤ 9)
    (fits : n < 10 ^ width) :
    lenientFraction (("." ++ padded width n).toList ++ ['Z']) =
      .ok (n * 10 ^ (9 - width), ['Z']) := by
  have length := Text.length_padded pos fits
  have taken : ((padded width n).toList ++ ['Z']).takeWhile isDigit = (padded width n).toList :=
    (takeWhile_padded width n ['Z']).trans (List.append_nil _)
  have dropped : ((padded width n).toList ++ ['Z']).dropWhile isDigit = ['Z'] :=
    List.dropWhile_append_of_pos fun _ mem => Text.isDigit_of_mem_padded mem
  have value : fractionNanos (padded width n).toList = n * 10 ^ (9 - width) := by
    rw [fractionNanos, List.take_of_length_le (by omega), Text.decimal_padded, length]
    rfl
  rw [String.toList_append]
  simp only [show ".".toList = ['.'] from rfl, List.cons_append, List.nil_append, lenientFraction,
    taken]
  split
  next none =>
    rw [none] at length
    exact absurd length.symm (Nat.ne_of_gt pos)
  next => rw [value, dropped]

theorem lenientFraction_fractionText {nano : Nat} (below : nano < Instant.nanosPerSecond) :
    lenientFraction ((Instant.fractionText nano).toList ++ ['Z']) = .ok (nano, ['Z']) := by
  rw [Instant.nanosPerSecond] at below
  rw [Instant.fractionText]
  split
  next zero => rw [zero]; rfl
  next =>
    split
    next thousandths =>
      rw [lenientFraction_padded (by decide) (by decide) (by omega)]
      have value : nano / 1000000 * 10 ^ (9 - 3) = nano := by omega
      rw [value]
    next =>
      split
      next millionths =>
        rw [lenientFraction_padded (by decide) (by decide) (by omega)]
        have value : nano / 1000 * 10 ^ (9 - 6) = nano := by omega
        rw [value]
      next =>
        rw [lenientFraction_padded (by decide) (by decide) below, Nat.sub_self, Nat.pow_zero,
          Nat.mul_one]

theorem lenientSeparator_cons {c : Char} (visible : isBlank c = false) (rest : List Char) :
    lenientSeparator c (c :: rest) = .ok rest := by
  simp [lenientSeparator, skipBlanks, visible, expect]

-- ---------------------------------------------------------------------------
-- What fields can give

theorem fractionNanos_lt {ds : List Char} (digits : ∀ c ∈ ds, isDigit c) :
    fractionNanos ds < Instant.nanosPerSecond := by
  have kept : (ds.take 9).length ≤ 9 := List.length_take_le 9 ds
  have value : decimal (ds.take 9) < 10 ^ (ds.take 9).length :=
    Text.decimal_lt fun c mem => digits c (List.mem_of_mem_take mem)
  calc
    fractionNanos ds = decimal (ds.take 9) * 10 ^ (9 - (ds.take 9).length) := rfl
    _ < 10 ^ (ds.take 9).length * 10 ^ (9 - (ds.take 9).length) :=
      Nat.mul_lt_mul_of_pos_right value (Nat.pow_pos (by decide))
    _ = 10 ^ 9 := by rw [← Nat.pow_add, Nat.add_sub_cancel' kept]

theorem lenientFraction_lt {cs rest : List Char} {nano : Nat}
    (h : lenientFraction cs = .ok (nano, rest)) : nano < Instant.nanosPerSecond := by
  simp only [lenientFraction] at h
  split at h
  next more =>
    split at h
    next => cases h
    next =>
      obtain ⟨rfl, -⟩ := Prod.mk.inj (Except.ok.inj h)
      exact fractionNanos_lt (List.all_eq_true.mp List.all_takeWhile)
  next =>
    obtain ⟨rfl, -⟩ := Prod.mk.inj (Except.ok.inj h)
    decide

theorem offset_minutes {separator : List Char → Except TimeError (List Char)} {cs rest : List Char}
    {seconds : Int} (h : offset separator cs = .ok (seconds, rest)) : seconds % 60 = 0 := by
  unfold offset at h
  split at h
  next => obtain ⟨rfl, -⟩ := Prod.mk.inj (Except.ok.inj h); rfl
  next => obtain ⟨rfl, -⟩ := Prod.mk.inj (Except.ok.inj h); rfl
  next => cases h
  next =>
    split at h
    next =>
      obtain ⟨⟨hours, _⟩, -, h⟩ := ok_of_bind h
      obtain ⟨_, -, h⟩ := ok_of_bind h
      obtain ⟨⟨minutes, _⟩, -, h⟩ := ok_of_bind h
      obtain ⟨rfl, -⟩ := Prod.mk.inj (Except.ok.inj h)
      split <;> omega
    next => cases h

theorem lenientOffset_minutes {cs rest : List Char} {seconds : Int}
    (h : lenientOffset cs = .ok (seconds, rest)) : seconds % 60 = 0 := by
  unfold lenientOffset at h
  split at h
  next =>
    split at h
    next => obtain ⟨rfl, -⟩ := Prod.mk.inj (Except.ok.inj h); rfl
    next => exact offset_minutes h
  next => exact offset_minutes h

end Tollgate.Time.Reading

namespace Tollgate.Time.Instant

open Reading (lenient)
open Text (padded)

/-- An instant of a year that is represented. Only the last second of a minute is a leap
second. -/
structure IsProper (i : Instant) : Prop where
  represented : i.isRepresented
  nano : i.nano < nanosPerSecond ∨ (i.nano < 2 * nanosPerSecond ∧ i.second % 60 = 59)

instance (i : Instant) : Decidable i.IsProper :=
  decidable_of_iff (i.isRepresented ∧
      (i.nano < nanosPerSecond ∨ (i.nano < 2 * nanosPerSecond ∧ i.second % 60 = 59)))
    ⟨fun h => ⟨h.1, h.2⟩, fun h => ⟨h.represented, h.nano⟩⟩

-- The parts of the text of an instant.

def date (i : Instant) : Date :=
  Date.ofDays (i.second.fdiv 86400)

def secondOfDay (i : Instant) : Nat :=
  (i.second - i.second.fdiv 86400 * 86400).toNat

def isLeap (i : Instant) : Bool :=
  nanosPerSecond ≤ i.nano

def clock (i : Instant) : Reading.Clock :=
  ⟨i.secondOfDay / 3600, i.secondOfDay / 60 % 60,
    if i.isLeap then i.secondOfDay % 60 + 1 else i.secondOfDay % 60,
    if i.isLeap then i.nano - nanosPerSecond else i.nano⟩

theorem toList_text (i : Instant) :
    i.text.toList =
      (yearText i.date.year).toList ++ '-' :: ((padded 2 i.date.month).toList ++ '-' ::
        ((padded 2 i.date.day).toList ++ 'T' :: ((padded 2 i.clock.hour).toList ++ ':' ::
          ((padded 2 i.clock.minute).toList ++ ':' :: ((padded 2 i.clock.second).toList ++
            ((fractionText i.clock.nano).toList ++ ['Z'])))))) := by
  have unfolded : i.text = yearText i.date.year ++ "-" ++ padded 2 i.date.month ++ "-" ++
      padded 2 i.date.day ++ "T" ++ padded 2 i.clock.hour ++ ":" ++ padded 2 i.clock.minute ++
      ":" ++ padded 2 i.clock.second ++ fractionText i.clock.nano ++ "Z" := by
    simp [text, date, clock, secondOfDay, isLeap]
  simp [unfolded]

theorem second_eq (i : Instant) : i.second = i.second.fdiv 86400 * 86400 + i.secondOfDay ∧
    i.secondOfDay < 86400 := by
  rw [secondOfDay, Int.fdiv_eq_ediv_of_nonneg _ (by decide)]
  omega

theorem clock_bounds {i : Instant} (h : i.IsProper) :
    i.clock.hour ≤ 23 ∧ i.clock.minute ≤ 59 ∧ i.clock.second ≤ 60 ∧
      i.clock.nano < nanosPerSecond := by
  obtain ⟨second, day⟩ := i.second_eq
  have nano := h.nano
  refine ⟨by simp only [clock]; omega, by simp only [clock]; omega, ?_, ?_⟩
  · simp only [clock]
    split <;> omega
  · simp only [clock, isLeap, decide_eq_true_eq]
    split <;> omega

theorem year_bounds {i : Instant} (h : i.IsProper) :
    firstYear ≤ i.date.year ∧ i.date.year ≤ lastYear := by
  simpa [isRepresented, date] using h.represented

theorem isValid_date {i : Instant} (h : i.IsProper) : i.date.isValid :=
  Date.isValid_ofDays (year_bounds h).1 (year_bounds h).2

/-- Second 60 of a clock stands for second 59 and a billion nanoseconds. -/
theorem clock_eq {i : Instant} (h : i.IsProper) :
    i.clock.hour * 3600 + i.clock.minute * 60 +
        (if i.clock.second == 60 then 59 else i.clock.second) = i.secondOfDay ∧
      (if i.clock.second == 60 then i.clock.nano + nanosPerSecond else i.clock.nano) = i.nano := by
  obtain ⟨second, day⟩ := i.second_eq
  have nano := h.nano
  cases leap : i.isLeap with
  | true =>
    have above : nanosPerSecond ≤ i.nano := by simpa [isLeap] using leap
    have at59 : i.secondOfDay % 60 = 59 := by omega
    simp only [clock, leap, at59, if_true, beq_self_eq_true]
    omega
  | false =>
    have before60 : ((i.secondOfDay % 60) == 60) = false := by
      rw [beq_eq_false_iff_ne]
      omega
    simp only [clock, leap, before60, Bool.false_eq_true, if_false, and_true]
    omega

theorem instant_date_clock {i : Instant} (h : i.IsProper) :
    Reading.instant i.date i.clock 0 = .ok i := by
  obtain ⟨second, -⟩ := i.second_eq
  obtain ⟨hour, minute, upTo, -⟩ := clock_bounds h
  obtain ⟨secondOfDay, nano⟩ := clock_eq h
  have validDate := isValid_date h
  have validClock : i.clock.isValid := by
    simp only [Reading.Clock.isValid, Bool.and_eq_true, decide_eq_true_eq]
    omega
  have days : i.date.toDays = i.second.fdiv 86400 := Date.toDays_ofDays _
  have same : ofDate i.date ((i.secondOfDay : Int) - 0) i.nano = i := by
    rw [ofDate, days, Int.sub_zero, ← second]
  simp only [Reading.instant, validDate, validClock, secondOfDay, nano, same, h.represented,
    Bool.not_true, Bool.false_eq_true, if_false, if_true, Int.natAbs_zero]
  rfl

theorem lenientOffset_utc : Reading.lenientOffset (Reading.skipBlanks ['Z']) = .ok (0, []) :=
  rfl

theorem ofLenientText_text {i : Instant} (h : i.IsProper) : ofLenientText i.text = .ok i := by
  obtain ⟨first, last⟩ := year_bounds h
  obtain ⟨months, days⟩ := Date.inMonth_of_isValid (isValid_date h)
  obtain ⟨hour, minute, second, nano⟩ := clock_bounds h
  rw [ofLenientText, toList_text, lenient]
  simp only [Reading.lenientYear_yearText first last, bind, Except.bind, pure, Except.pure,
    Reading.lenientSeparator_cons (c := '-') rfl, Reading.lenientSeparator_cons (c := ':') rfl,
    Reading.shortField_padded months (by decide), Reading.shortField_padded days (by decide),
    beq_self_eq_true, Bool.true_or, if_true,
    Reading.shortField_padded ⟨Nat.zero_le _, hour⟩ (by decide),
    Reading.shortField_padded ⟨Nat.zero_le _, minute⟩ (by decide),
    Reading.shortField_padded ⟨Nat.zero_le _, second⟩ (by decide),
    Reading.lenientFraction_fractionText nano, lenientOffset_utc]
  exact instant_date_clock h

-- ---------------------------------------------------------------------------
-- What is read

theorem isProper_instant {d : Date} {c : Reading.Clock} {offset : Int} {i : Instant}
    (h : Reading.instant d c offset = .ok i) (nano : c.nano < nanosPerSecond)
    (minutes : offset % 60 = 0) : i.IsProper := by
  have proper : ∀ second nano, (ofDate d (second - offset) nano).isRepresented →
      (nano < nanosPerSecond ∨ nano < 2 * nanosPerSecond ∧ second % 60 = 59) →
      (ofDate d (second - offset) nano).IsProper := by
    intro second nano represented h
    refine ⟨represented, ?_⟩
    simp only [ofDate]
    omega
  simp only [Reading.instant] at h
  split at h
  next => cases h
  split at h
  next => cases h
  split at h
  next => cases h
  split at h
  next =>
    split at h
    next represented =>
      obtain rfl := Except.ok.inj h
      exact proper _ _ represented (by omega)
    next => cases h
  next =>
    split at h
    next represented =>
      obtain rfl := Except.ok.inj h
      exact proper _ _ represented (.inl nano)
    next => cases h

theorem isProper_of_ofLenientText {s : String} {i : Instant} (h : ofLenientText s = .ok i) :
    i.IsProper := by
  simp only [ofLenientText, Reading.lenient] at h
  obtain ⟨⟨year, _⟩, -, h⟩ := ok_of_bind h
  obtain ⟨_, -, h⟩ := ok_of_bind h
  obtain ⟨⟨month, _⟩, -, h⟩ := ok_of_bind h
  obtain ⟨_, -, h⟩ := ok_of_bind h
  obtain ⟨⟨day, afterDate⟩, -, h⟩ := ok_of_bind h
  split at h
  next =>
    obtain ⟨_, thrown, -⟩ := ok_of_bind h
    cases thrown
  split at h
  next =>
    obtain ⟨_, -, h⟩ := ok_of_bind h
    obtain ⟨⟨hour, _⟩, -, h⟩ := ok_of_bind h
    obtain ⟨_, -, h⟩ := ok_of_bind h
    obtain ⟨⟨minute, _⟩, -, h⟩ := ok_of_bind h
    obtain ⟨_, -, h⟩ := ok_of_bind h
    obtain ⟨⟨second, _⟩, -, h⟩ := ok_of_bind h
    obtain ⟨⟨nano, _⟩, fraction, h⟩ := ok_of_bind h
    obtain ⟨⟨offset, _⟩, zone, h⟩ := ok_of_bind h
    split at h
    next =>
      obtain ⟨_, thrown, -⟩ := ok_of_bind h
      cases thrown
    next =>
      exact isProper_instant h (Reading.lenientFraction_lt fraction)
        (Reading.lenientOffset_minutes zone)
  next =>
    obtain ⟨_, thrown, -⟩ := ok_of_bind h
    cases thrown

end Tollgate.Time.Instant
