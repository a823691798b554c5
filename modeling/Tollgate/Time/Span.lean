import Tollgate.Text.Ascii
import Tollgate.Text.Blank

/-!
# Spans of time

A span is written as items of a number and a unit, such as `1h 30m` or `1.5s`. The
items are added up. Blanks may stand between items, between number and unit, and
between the digits of a number.
-/

namespace Tollgate.Time

inductive SpanUnit where
  | nanosecond
  | microsecond
  | millisecond
  | second
  | minute
  | hour
  | day
  | week
  | month
  | year
  deriving DecidableEq, Repr

namespace SpanUnit

/-- The names of the units. Upper and lower case differ: `M` is a month. -/
def names : List (SpanUnit × List String) :=
  [(.nanosecond, ["nanos", "nsec", "ns"]),
   (.microsecond, ["usec", "us", "µs"]),
   (.millisecond, ["millis", "msec", "ms"]),
   (.second, ["seconds", "second", "secs", "sec", "s"]),
   (.minute, ["minutes", "minute", "min", "mins", "m"]),
   (.hour, ["hours", "hour", "hr", "hrs", "h"]),
   (.day, ["days", "day", "d"]),
   (.week, ["weeks", "week", "wk", "wks", "w"]),
   (.month, ["months", "month", "M"]),
   (.year, ["years", "year", "yr", "yrs", "y"])]

def ofName? (name : String) : Option SpanUnit :=
  (names.find? fun (_, ns) => ns.contains name).map Prod.fst

/-- Whether amounts of the unit count nanoseconds; of longer units they count seconds. -/
def countsNanos : SpanUnit → Bool
  | .nanosecond | .microsecond | .millisecond => true
  | _ => false

def size : SpanUnit → Nat
  | .nanosecond => 1
  | .microsecond => 1000
  | .millisecond => 1000000
  | .second => 1
  | .minute => 60
  | .hour => 3600
  | .day => 86400
  | .week => 604800
  | .month => 2630016
  | .year => 31557600

/-- Whether a fraction of the unit is taken in nanoseconds; of hours and longer it
is taken in seconds. -/
def fractionInNanos : SpanUnit → Bool
  | .hour | .day | .week | .month | .year => false
  | _ => true

def fractionSize : SpanUnit → Nat
  | .second => 1000000000
  | .minute => 60000000000
  | u => u.size

end SpanUnit

namespace Span

/-- Every amount on the way must fit 64 bits. -/
def limit : Nat := Nat.pow 2 64 - 1

def fitting (n : Nat) : Option Nat :=
  if n ≤ limit then some n else none

def nanosPerSecond : Nat := 1000000000

def add (total seconds nanos : Nat) : Option Nat := do
  let nanos ← fitting (total % nanosPerSecond + nanos)
  let seconds ← fitting (seconds + nanos / nanosPerSecond)
  let seconds ← fitting (total / nanosPerSecond + seconds)
  return seconds * nanosPerSecond + nanos % nanosPerSecond

structure Fraction where
  numerator : Nat
  denominator : Nat

/-- Adds an item to a sum of nanoseconds. The fraction must come out whole. -/
def addItem (total n : Nat) (fraction : Option Fraction) (unit : SpanUnit) : Option Nat := do
  let amount ← fitting (n * unit.size)
  let total ← if unit.countsNanos then add total 0 amount else add total amount 0
  match fraction with
  | none => return total
  | some f =>
    let part ← fitting (f.numerator * unit.fractionSize)
    if part % f.denominator ≠ 0 then none
    else if unit.fractionInNanos then add total 0 (part / f.denominator)
    else add total (part / f.denominator) 0

def isUnitChar (c : Char) : Bool :=
  Text.isLetter c || c == 'µ'

/-- The place inside a span. -/
inductive Place where
  /-- Before the first digit of an item. -/
  | start
  /-- Inside the whole digits of a number. -/
  | whole (n : Nat)
  /-- Inside the fraction digits; `digits` tells whether there was one. -/
  | fraction (n : Nat) (f : Fraction) (digits : Bool)
  /-- Inside the name of the unit, last character first. -/
  | unit (n : Nat) (f : Option Fraction) (name : List Char)

structure Progress where
  total : Nat
  place : Place
  /-- At least one item is finished. -/
  some : Bool

def finishItem (total n : Nat) (f : Option Fraction) (name : List Char) : Option Nat := do
  let unit ← SpanUnit.ofName? (String.ofList name.reverse)
  addItem total n f unit

def pushDigit (n : Nat) (c : Char) : Option Nat :=
  fitting (n * 10 + Text.digitValue c)

def step (p : Progress) (c : Char) : Option Progress :=
  match p.place with
  | .start =>
    if Text.isDigit c then some { p with place := .whole (Text.digitValue c) }
    else if Text.isBlank c then some p
    else none
  | .whole n =>
    if Text.isDigit c then do
      let n ← pushDigit n c
      return { p with place := .whole n }
    else if Text.isBlank c then some p
    else if isUnitChar c then some { p with place := .unit n none [c] }
    else if c == '.' then some { p with place := .fraction n ⟨0, 1⟩ false }
    else none
  | .fraction n f digits =>
    if Text.isDigit c then do
      let numerator ← pushDigit f.numerator c
      let denominator ← fitting (f.denominator * 10)
      return { p with place := .fraction n ⟨numerator, denominator⟩ true }
    else if Text.isBlank c then some p
    else if isUnitChar c && digits then some { p with place := .unit n (some f) [c] }
    else none
  | .unit n f name =>
    if Text.isDigit c then do
      let total ← finishItem p.total n f name
      return ⟨total, .whole (Text.digitValue c), true⟩
    else if Text.isBlank c then do
      let total ← finishItem p.total n f name
      return ⟨total, .start, true⟩
    else if isUnitChar c then some { p with place := .unit n f (c :: name) }
    else none

/-- The end of the text: an item may be open only inside its unit. -/
def finish (p : Progress) : Option Nat :=
  match p.place with
  | .start => if p.some then some p.total else none
  | .unit n f name => finishItem p.total n f name
  | _ => none

def ofChars? (cs : List Char) : Option Nat := do
  let p ← cs.foldlM step ⟨0, .start, false⟩
  finish p

def ofText? (s : String) : Option Nat :=
  ofChars? (Text.trimBoth s.toList)

end Span

end Tollgate.Time
