import Tollgate.Text.Ascii
import Tollgate.Time.Date

/-!
# Instants

An instant is a second of UTC and nanoseconds into it. A leap second is kept inside
the second before it, with a billion nanoseconds or more. Instants are written with
as many fraction digits as they need, in groups of three.
-/

namespace Tollgate.Time

structure Instant where
  /-- Seconds since the start of 1970, leap seconds not counted. -/
  second : Int
  /-- Nanoseconds into the second; a billion or more inside a leap second. -/
  nano : Nat
  deriving DecidableEq, Repr

namespace Instant

def nanosPerSecond : Nat := 1000000000

def before (a b : Instant) : Bool :=
  a.second < b.second || (a.second == b.second && a.nano < b.nano)

def millis (i : Instant) : Int :=
  i.second * 1000 + ((i.nano / 1000000 : Nat) : Int)

def ofDate (d : Date) (secondOfDay : Int) (nano : Nat) : Instant :=
  ⟨d.toDays * 86400 + secondOfDay, nano⟩

def isRepresented (i : Instant) : Bool :=
  let d := Date.ofDays (i.second.fdiv 86400)
  firstYear ≤ d.year && d.year ≤ lastYear

/-- A year as it is written: four digits, or a sign and at least four. -/
def yearText (year : Int) : String :=
  if 0 ≤ year ∧ year ≤ 9999 then Text.padded 4 year.natAbs
  else (if year < 0 then "-" else "+") ++ Text.padded 4 year.natAbs

def fractionText (nano : Nat) : String :=
  if nano = 0 then ""
  else if nano % 1000000 = 0 then "." ++ Text.padded 3 (nano / 1000000)
  else if nano % 1000 = 0 then "." ++ Text.padded 6 (nano / 1000)
  else "." ++ Text.padded 9 nano

def text (i : Instant) : String :=
  let days := i.second.fdiv 86400
  let d := Date.ofDays days
  let s := (i.second - days * 86400).toNat
  let leap := nanosPerSecond ≤ i.nano
  let second := if leap then s % 60 + 1 else s % 60
  let nano := if leap then i.nano - nanosPerSecond else i.nano
  yearText d.year ++ "-" ++ Text.padded 2 d.month ++ "-" ++ Text.padded 2 d.day ++ "T" ++
    Text.padded 2 (s / 3600) ++ ":" ++ Text.padded 2 (s / 60 % 60) ++ ":" ++
    Text.padded 2 second ++ fractionText nano ++ "Z"

end Instant

end Tollgate.Time
