import Tollgate.Address.Basic
import Tollgate.Text.Ascii

/-!
# Reading addresses

Two dialects are in use. A single address allows no leading zeros in its decimal
parts, and its `::` stands for at least one group. Inside a network leading zeros
are allowed, and `::` may stand for no group at all.
-/

namespace Tollgate.Address

structure Dialect where
  leadingZeros : Bool
  emptyGap : Bool

def Dialect.single : Dialect := ⟨false, false⟩

def Dialect.network : Dialect := ⟨true, true⟩

namespace Reading

/-- Reads a number of one to `width` digits, below `bound`. -/
def number (base : Nat) (width : Option Nat) (zeros : Bool) (bound : Nat) (cs : List Char) :
    Option (Nat × List Char) :=
  let isBaseDigit (c : Char) : Bool := match Text.hexValue? c with
    | some d => d < base
    | none => false
  let ds := cs.takeWhile isBaseDigit
  let fits := match width with
    | some w => ds.length ≤ w
    | none => true
  let leading := ds.head? == some '0' && 1 < ds.length
  match Text.ofDigits base (ds.filterMap Text.hexValue?) with
  | n =>
    if ds.isEmpty || !fits || (leading && !zeros) || bound ≤ n then none
    else some (n, cs.drop ds.length)

def char (c : Char) : List Char → Option (List Char)
  | [] => none
  | d :: rest => if c == d then some rest else none

/-- Reads `count` decimal parts; `first` says that no point comes before. -/
def octets (d : Dialect) : Nat → Bool → List Char → Option (List Nat × List Char)
  | 0, _, cs => some ([], cs)
  | count + 1, first, cs => do
    let cs ← if first then some cs else char '.' cs
    let (n, cs) ← number 10 (some 3) d.leadingZeros 256 cs
    let (rest, cs) ← octets d count false cs
    return (n :: rest, cs)

def short (d : Dialect) (cs : List Char) : Option (BitVec 32 × List Char) :=
  (octets d 4 true cs).map fun (os, rest) => (ofOctets os, rest)

/-- Groups read one after another. -/
structure Groups where
  groups : List Nat
  /-- They end in a short address. -/
  endsShort : Bool
  rest : List Char

/-- Reads up to `room` groups; two of them may be given as a short address, which
ends the groups. -/
def groups (d : Dialect) : Nat → Bool → List Char → Groups
  | 0, _, cs => ⟨[], false, cs⟩
  | room + 1, first, cs =>
    let behind := if first then some cs else char ':' cs
    match behind with
    | none => ⟨[], false, cs⟩
    | some inner =>
      match if 0 < room then short d inner else none with
      | some (bits, rest) => ⟨splitDigits 16 2 bits.toNat, true, rest⟩
      | none =>
        match number 16 (some 4) true 65536 inner with
        | none => ⟨[], false, cs⟩
        | some (n, rest) =>
          let more := groups d room false rest
          { more with groups := n :: more.groups }

def long (d : Dialect) (cs : List Char) : Option (BitVec 128 × List Char) :=
  let head := groups d 8 true cs
  if head.groups.length = 8 then some (ofGroups head.groups, head.rest)
  else if head.endsShort then none
  else do
    let cs ← char ':' head.rest
    let cs ← char ':' cs
    let room := 8 - head.groups.length - (if d.emptyGap then 0 else 1)
    let tail := groups d room true cs
    let gap := 8 - head.groups.length - tail.groups.length
    return (ofGroups (head.groups ++ List.replicate gap 0 ++ tail.groups), tail.rest)

def address (d : Dialect) (cs : List Char) : Option (Address × List Char) :=
  match short d cs with
  | some (bits, rest) => some (.v4 bits, rest)
  | none => (long d cs).map fun (bits, rest) => (.v6 bits, rest)

def whole : Option (α × List Char) → Option α
  | some (a, []) => some a
  | _ => none

end Reading

def ofText? (s : String) : Option Address :=
  Reading.whole ((Reading.short .single s.toList).map fun (b, rest) => (.v4 b, rest)) <|>
    Reading.whole ((Reading.long .single s.toList).map fun (b, rest) => (.v6 b, rest))

structure Socket where
  address : Address
  port : Nat
  deriving DecidableEq, Repr

namespace Socket

def portNumber (cs : List Char) : Option (Nat × List Char) := do
  let cs ← Reading.char ':' cs
  Reading.number 10 none true 65536 cs

/-- Reads the number of a scope behind a percent sign, if there is one. -/
def scope : List Char → Option (List Char)
  | '%' :: cs => (Reading.number 10 none true (Nat.pow 2 32) cs).map Prod.snd
  | cs => some cs

def short (cs : List Char) : Option (Socket × List Char) := do
  let (bits, cs) ← Reading.short .single cs
  let (p, cs) ← portNumber cs
  return (⟨.v4 bits, p⟩, cs)

def long (cs : List Char) : Option (Socket × List Char) := do
  let cs ← Reading.char '[' cs
  let (bits, cs) ← Reading.long .single cs
  let cs ← scope cs
  let cs ← Reading.char ']' cs
  let (p, cs) ← portNumber cs
  return (⟨.v6 bits, p⟩, cs)

def ofText? (s : String) : Option Socket :=
  Reading.whole (short s.toList) <|> Reading.whole (long s.toList)

end Socket

end Tollgate.Address
