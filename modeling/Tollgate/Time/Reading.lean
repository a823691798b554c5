import Tollgate.Text.Blank
import Tollgate.Time.Instant

/-!
# Reading instants

Two grammars are in use. Mocked times are read strictly: every field has its width.
Times in rows are read leniently: fields may be shorter, years signed, and blanks
may stand around the separators and before the offset.
-/

namespace Tollgate.Time

inductive TimeError where
  | outOfRange
  | impossible
  | invalid
  | tooShort
  | tooLong
  deriving DecidableEq, Repr

def TimeError.message : TimeError → String
  | .outOfRange => "input is out of range"
  | .impossible => "no possible date and time matching input"
  | .invalid => "input contains invalid characters"
  | .tooShort => "premature end of input"
  | .tooLong => "trailing input"

namespace Reading

open Text (isDigit isBlank decimal)

structure Clock where
  hour : Nat
  minute : Nat
  second : Nat
  nano : Nat

/-- Whether the time of day exists; second 60 is accepted everywhere. -/
def Clock.isValid (c : Clock) : Bool :=
  c.hour < 24 && c.minute < 60 && c.second ≤ 60

/-- The instant of a local date and time at an offset east of UTC, in seconds. -/
def instant (d : Date) (c : Clock) (offset : Int) : Except TimeError Instant :=
  if !d.isValid then .error .outOfRange
  else if !c.isValid then .error .outOfRange
  else if offset.natAbs ≥ 86400 then .error .outOfRange
  else
    let leap := c.second == 60
    let second : Nat := c.hour * 3600 + c.minute * 60 + (if leap then 59 else c.second)
    let nano := if leap then c.nano + Instant.nanosPerSecond else c.nano
    let i := Instant.ofDate d ((second : Int) - offset) nano
    if i.isRepresented then .ok i else .error .impossible

/-- Exactly two digits; a lone byte is too short, two bytes that are no digits are
invalid. -/
def twoDigits : List Char → Except TimeError (Nat × List Char)
  | a :: b :: rest =>
    if isDigit a && isDigit b then .ok (decimal [a, b], rest) else .error .invalid
  | [c] => .error (if c.utf8Size < 2 then .tooShort else .invalid)
  | [] => .error .tooShort

def offsetMinutes (cs : List Char) : Except TimeError (Nat × List Char) := do
  let (n, rest) ← twoDigits cs
  if n < 60 then .ok (n, rest) else .error .outOfRange

/-- An offset in seconds: `Z`, or a sign, hours, what `separator` takes, and minutes. -/
def offset (separator : List Char → Except TimeError (List Char)) (cs : List Char) :
    Except TimeError (Int × List Char) := do
  match cs with
  | 'Z' :: rest => return (0, rest)
  | 'z' :: rest => return (0, rest)
  | [] => throw .tooShort
  | sign :: rest =>
    if sign == '+' || sign == '-' || sign == '−' then
      let (hours, rest) ← twoDigits rest
      let rest ← separator rest
      let (minutes, rest) ← offsetMinutes rest
      let seconds : Int := (hours * 3600 + minutes * 60 : Nat)
      return (if sign == '+' then seconds else -seconds, rest)
    else throw .invalid

/-- The nanoseconds of a run of fraction digits, cut after nine. -/
def fractionNanos (digits : List Char) : Nat :=
  let kept := digits.take 9
  decimal kept * Nat.pow 10 (9 - kept.length)

-- ---------------------------------------------------------------------------
-- The strict grammar

def expect (c : Char) : List Char → Except TimeError (List Char)
  | [] => .error .tooShort
  | d :: rest => if c == d then .ok rest else .error .invalid

def fixedDigits (width : Nat) (cs : List Char) : Except TimeError (Nat × List Char) :=
  let ds := cs.take width
  if ds.length = width ∧ ds.all isDigit then .ok (decimal ds, cs.drop width)
  else .error .invalid

/-- One given character among those of a text known to be long enough. -/
def fixedChar (accepts : Char → Bool) : List Char → Except TimeError (List Char)
  | [] => .error .invalid
  | c :: rest => if accepts c then .ok rest else .error .invalid

def strictFraction : List Char → Except TimeError (Nat × List Char)
  | '.' :: rest =>
    match rest.takeWhile isDigit with
    | [] => .error (if rest.isEmpty then .tooShort else .invalid)
    | ds => .ok (fractionNanos ds, rest.dropWhile isDigit)
  | cs => .ok (0, cs)

def byteLength (cs : List Char) : Nat :=
  cs.foldl (fun n c => n + c.utf8Size) 0

def strict (cs : List Char) : Except TimeError Instant := do
  if byteLength cs < 19 then throw .tooShort
  let (year, cs) ← fixedDigits 4 cs
  let cs ← fixedChar (· == '-') cs
  let (month, cs) ← fixedDigits 2 cs
  let cs ← fixedChar (· == '-') cs
  let (day, cs) ← fixedDigits 2 cs
  let date : Date := ⟨(year : Int), month, day⟩
  if !date.isValid then throw .outOfRange
  let cs ← fixedChar (fun c => c == 'T' || c == 't' || c == ' ') cs
  let (hour, cs) ← fixedDigits 2 cs
  let cs ← fixedChar (· == ':') cs
  let (minute, cs) ← fixedDigits 2 cs
  let cs ← fixedChar (· == ':') cs
  let (second, cs) ← fixedDigits 2 cs
  let (nano, cs) ← strictFraction cs
  let clock : Clock := ⟨hour, minute, second, nano⟩
  if !clock.isValid then throw .outOfRange
  let (offset, cs) ← offset (expect ':') cs
  if !cs.isEmpty then throw .tooLong
  instant date clock offset

-- ---------------------------------------------------------------------------
-- The lenient grammar

def fieldLimit : Nat := Nat.pow 2 63 - 1

/-- A number of one digit or more, at most `width` if a width is given. -/
def number (width : Option Nat) (cs : List Char) : Except TimeError (Nat × List Char) :=
  let ds := match width with
    | some w => (cs.take w).takeWhile isDigit
    | none => cs.takeWhile isDigit
  if ds.isEmpty then .error (if cs.isEmpty then .tooShort else .invalid)
  else if fieldLimit < decimal ds then .error .outOfRange
  else .ok (decimal ds, cs.drop ds.length)

def skipBlanks (cs : List Char) : List Char :=
  cs.dropWhile isBlank

def shortField (low high : Nat) (cs : List Char) : Except TimeError (Nat × List Char) := do
  let (n, rest) ← number (some 2) (skipBlanks cs)
  if low ≤ n ∧ n ≤ high then .ok (n, rest) else .error .outOfRange

/-- A year: at most four digits, or a sign and any number of digits. -/
def lenientYear (cs : List Char) : Except TimeError (Int × List Char) := do
  let (n, rest) ← (match skipBlanks cs with
    | '-' :: rest => do
      let (n, rest) ← number none rest
      .ok (-(n : Int), rest)
    | '+' :: rest => do
      let (n, rest) ← number none rest
      .ok ((n : Int), rest)
    | cs => do
      let (n, rest) ← number (some 4) cs
      .ok ((n : Int), rest) : Except TimeError (Int × List Char))
  if Int32.minValue.toInt ≤ n ∧ n ≤ Int32.maxValue.toInt then .ok (n, rest) else .error .outOfRange

def lenientSeparator (c : Char) (cs : List Char) : Except TimeError (List Char) :=
  expect c (skipBlanks cs)

def lenientFraction : List Char → Except TimeError (Nat × List Char)
  | '.' :: rest =>
    match rest.takeWhile isDigit with
    | [] => .error (if rest.isEmpty then .tooShort else .invalid)
    | ds => .ok (fractionNanos ds, rest.dropWhile isDigit)
  | cs => .ok (0, cs)

/-- The colons and blanks between the hours and minutes of an offset. -/
def looseColon (cs : List Char) : Except TimeError (List Char) :=
  .ok (cs.dropWhile fun c => c == ':' || isBlank c)

/-- The offset, or the name of universal time in any case. -/
def lenientOffset : List Char → Except TimeError (Int × List Char)
  | u :: t :: c :: rest =>
    if u.toUpper == 'U' && t.toUpper == 'T' && c.toUpper == 'C' then .ok (0, rest)
    else offset looseColon (u :: t :: c :: rest)
  | cs => offset looseColon cs

/-- An instant with blanks and short fields allowed. -/
def lenient (cs : List Char) : Except TimeError Instant := do
  let (year, cs) ← lenientYear cs
  let cs ← lenientSeparator '-' cs
  let (month, cs) ← shortField 1 12 cs
  let cs ← lenientSeparator '-' cs
  let (day, cs) ← shortField 1 31 cs
  let cs ← match cs with
    | [] => throw .tooShort
    | c :: rest => if c == 'T' || c == 't' || c == ' ' then pure rest else throw .invalid
  let (hour, cs) ← shortField 0 23 cs
  let cs ← lenientSeparator ':' cs
  let (minute, cs) ← shortField 0 59 cs
  let cs ← lenientSeparator ':' cs
  let (second, cs) ← shortField 0 60 cs
  let (nano, cs) ← lenientFraction cs
  let (offset, cs) ← lenientOffset (skipBlanks cs)
  if !(skipBlanks cs).isEmpty then throw .tooLong
  instant ⟨year, month, day⟩ ⟨hour, minute, second, nano⟩ offset

end Reading

def Instant.ofText (s : String) : Except TimeError Instant :=
  Reading.strict s.toList

def Instant.ofLenientText (s : String) : Except TimeError Instant :=
  Reading.lenient s.toList

end Tollgate.Time
