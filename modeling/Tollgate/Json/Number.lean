import Tollgate.Document.Node
import Tollgate.Text.Ascii

/-!
# JSON numbers

A number without point and exponent that fits 64 bits is an integer; minus zero and
every other number is a float. A float is made from the first digits that fit 64
bits and a power of ten, one rounding for each multiplication or division.
-/

namespace Tollgate.Json

open Document (Number)

def significandLimit : Nat := Nat.pow 2 64 - 1

def exponentLimit : Nat := Nat.pow 2 31 - 1

structure Spelling where
  negative : Bool
  whole : List Char
  fraction : Option (List Char)
  exponent : Option (Bool × List Char)

structure Gathered where
  significand : Nat
  /-- The digits that found no room, the one that overflowed included. -/
  left : List Char

def gather (significand : Nat) : List Char → Gathered
  | [] => ⟨significand, []⟩
  | c :: cs =>
    let next := significand * 10 + Text.digitValue c
    if next ≤ significandLimit then gather next cs else ⟨significand, c :: cs⟩

def tenTo (n : Nat) : Float :=
  Float.ofScientific 1 false n

/-- `x * 10 ^ exponent` in steps that each fit a float; none when it is too large.
A value that is still not small enough after all steps is zero. -/
def scaled : Nat → Float → Int → Option Float
  | 0, _, _ => some 0.0
  | steps + 1, x, exponent =>
    if exponent.natAbs ≤ 308 then
      if 0 ≤ exponent then
        let y := x * tenTo exponent.natAbs
        if y.isInf then none else some y
      else some (x / tenTo exponent.natAbs)
    else if x == 0.0 then some x
    else if 0 ≤ exponent then none
    else scaled steps (x / tenTo 308) (exponent + 308)

/-- The significand and exponent before the written exponent counts. -/
def Spelling.mantissa (s : Spelling) : Nat × Int :=
  let front := gather 0 s.whole
  let back := gather front.significand (s.fraction.getD [])
  let used := (s.fraction.getD []).length - back.left.length
  (back.significand, (front.left.length : Int) - (used : Int))

def Spelling.float? (s : Spelling) : Option Float :=
  let (significand, start) := s.mantissa
  let size : Option Float :=
    match s.exponent with
    | none => scaled 8 significand.toUInt64.toFloat start
    | some (down, digits) =>
      let e := Text.decimal digits
      if exponentLimit < e then
        if significand ≠ 0 ∧ !down then none else some 0.0
      else
        let place := if down then start - (e : Int) else start + (e : Int)
        scaled 8 significand.toUInt64.toFloat place
  size.map fun x => if s.negative then -x else x

def Spelling.integer? (s : Spelling) : Option Int :=
  match s.fraction, s.exponent with
  | none, none =>
    let n := Text.decimal s.whole
    if s.negative then
      if 0 < n ∧ n ≤ Nat.pow 2 63 then some (-(n : Int)) else none
    else if n ≤ significandLimit then some (n : Int) else none
  | _, _ => none

def Spelling.number? (s : Spelling) : Option Number :=
  match s.integer? with
  | some i => some (.integer i)
  | none => s.float?.map .float

end Tollgate.Json
