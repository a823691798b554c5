import Tollgate.Text.Ascii

/-!
# The shortest decimal of a binary fraction

A finite binary number `m * 2 ^ q` stands for every real that rounds to it. Among
the decimals in that interval the shortest is the one with the fewest digits, and
of two equally short ones the nearer. Everything is exact arithmetic on naturals.
-/

namespace Tollgate

/-- A non-negative decimal: `digits * 10 ^ exponent`. -/
structure Decimal where
  digits : Nat
  exponent : Int
  deriving DecidableEq, Repr

namespace Decimal

structure Quotient where
  num : Nat
  den : Nat

def Quotient.ofBinary (n : Nat) (q : Int) : Quotient :=
  if 0 ≤ q then ⟨n * Nat.pow 2 q.toNat, 1⟩ else ⟨n, Nat.pow 2 (-q).toNat⟩

def Quotient.ofDecimal (n : Nat) (k : Int) : Quotient :=
  if 0 ≤ k then ⟨n * Nat.pow 10 k.toNat, 1⟩ else ⟨n, Nat.pow 10 (-k).toNat⟩

def Quotient.le (a b : Quotient) : Bool :=
  a.num * b.den ≤ b.num * a.den

def Quotient.lt (a b : Quotient) : Bool :=
  a.num * b.den < b.num * a.den

/-- The reals that round to a binary number; the ends belong to it when `closed`. -/
structure Interval where
  low : Quotient
  high : Quotient
  closed : Bool

def Interval.contains (i : Interval) (x : Quotient) : Bool :=
  if i.closed then i.low.le x && x.le i.high else i.low.lt x && x.lt i.high

/-- The number of the leading decimal place of a positive quotient: the `e` with
`10 ^ e ≤ x < 10 ^ (e + 1)`. -/
def leadingPlace (x : Quotient) : Int :=
  if x.den ≤ x.num then ((Nat.toDigits 10 (x.num / x.den)).length : Int) - 1
  else
    let shift := ((List.range 400).find? fun j => x.den ≤ x.num * Nat.pow 10 j).getD 0
    Int.negOfNat shift

/-- How far a decimal is from the quotient, times the quotient's denominator and a
power of ten that is the same for all decimals of one exponent. -/
def distance (x : Quotient) (digits : Nat) (k : Int) : Nat :=
  let y := Quotient.ofDecimal digits k
  let a := x.num * y.den
  let b := y.num * x.den
  (a - b) + (b - a)

/-- The decimal of exponent `k` inside the interval that is nearest to `x`, if one
of the two neighbours of `x` lies inside. -/
def onGrid? (i : Interval) (x : Quotient) (k : Int) : Option Decimal :=
  let unit := Quotient.ofDecimal 1 k
  let below := (x.num * unit.den) / (x.den * unit.num)
  let above := below + 1
  match i.contains (.ofDecimal below k), i.contains (.ofDecimal above k) with
  | false, false => none
  | true, false => some ⟨below, k⟩
  | false, true => some ⟨above, k⟩
  | true, true =>
    let down := distance x below k
    let up := distance x above k
    if down < up || (down == up && below % 2 == 0) then some ⟨below, k⟩ else some ⟨above, k⟩

def strip : Nat → Decimal → Decimal
  | 0, d => d
  | fuel + 1, d =>
    if d.digits ≠ 0 ∧ d.digits % 10 = 0 then strip fuel ⟨d.digits / 10, d.exponent + 1⟩ else d

/-- The shortest decimal that rounds to `m * 2 ^ q`; `narrow` says that the
neighbour below is only half as far away as the one above. -/
def shortest (m : Nat) (q : Int) (narrow : Bool) : Decimal :=
  if m = 0 then ⟨0, 0⟩
  else
    let x := Quotient.ofBinary m q
    let low := if narrow then Quotient.ofBinary (4 * m - 1) (q - 2)
      else Quotient.ofBinary (2 * m - 1) (q - 1)
    let interval : Interval := ⟨low, .ofBinary (2 * m + 1) (q - 1), m % 2 == 0⟩
    let place := leadingPlace x
    let grids := (List.range 17).filterMap fun (n : Nat) => onGrid? interval x (place - n)
    strip 32 (grids.headD ⟨m, 0⟩)

/-- The sign and the shortest decimal of a finite float, none for the others. -/
def ofFloat? (x : Float) : Option (Bool × Decimal) :=
  let bits : Nat := x.toBits.toNat
  let negative := bits / Nat.pow 2 63 == 1
  let exponent : Nat := bits / Nat.pow 2 52 % Nat.pow 2 11
  let fraction : Nat := bits % Nat.pow 2 52
  if exponent == 2047 then none
  else if exponent == 0 then some (negative, shortest fraction (-1074) false)
  else
    let narrow := fraction == 0 && 1 < exponent
    some (negative, shortest (Nat.pow 2 52 + fraction) ((exponent : Int) - 1075) narrow)

def digitChars (d : Decimal) : List Char :=
  Nat.toDigits 10 d.digits

def place (d : Decimal) : Int :=
  (d.digitChars.length : Int) + d.exponent - 1

/-- The decimal written out with a point and at least one digit on each side. -/
def positional (d : Decimal) : String :=
  let cs := d.digitChars
  let zeros (n : Int) : List Char := List.replicate n.toNat '0'
  if 0 ≤ d.exponent then String.ofList (cs ++ zeros d.exponent ++ ['.', '0'])
  else if 0 ≤ d.place then
    let whole := (d.place + 1).toNat
    String.ofList (cs.take whole ++ ['.'] ++ cs.drop whole)
  else String.ofList (['0', '.'] ++ zeros (-d.place - 1) ++ cs)

/-- The decimal written with one digit before the point and a signed exponent of
at least two digits. -/
def scientific (d : Decimal) : String :=
  let mantissa := match d.digitChars with
    | [] => []
    | [c] => [c]
    | c :: cs => c :: '.' :: cs
  let sign := if d.place < 0 then "-" else "+"
  String.ofList mantissa ++ "e" ++ sign ++ Text.padded 2 d.place.natAbs

end Decimal

end Tollgate
