import Tollgate.Text.Ascii
import Tollgate.Text.Quoted

/-!
# Network addresses

An address has 32 or 128 bits. An address of the long form may carry one of the
short form; `canonical` takes it out, so that a client is the same in both forms.
-/

namespace Tollgate

inductive Address where
  | v4 (bits : BitVec 32)
  | v6 (bits : BitVec 128)
  deriving DecidableEq, Repr

namespace Address

/-- The bits above the 32 of a carried address. -/
def carrierBits : BitVec 96 := 0xffff#96

def carried? (bits : BitVec 128) : Option (BitVec 32) :=
  if bits.extractLsb' 32 96 = carrierBits then some (bits.extractLsb' 0 32) else none

/-- The address in its own form: a carried short address is taken out. -/
def canonical : Address → Address
  | .v4 bits => .v4 bits
  | .v6 bits =>
    match carried? bits with
    | some short => .v4 short
    | none => .v6 bits

/-- The number that digits denote in base `2 ^ width`, the first digit highest. -/
def joinDigits (width : Nat) (digits : List Nat) : Nat :=
  digits.foldl (fun n d => n * Nat.pow 2 width + d) 0

/-- The lowest `count` digits in base `2 ^ width`, the highest first. -/
def splitDigits (width count n : Nat) : List Nat :=
  (List.range count).map fun i => n / Nat.pow 2 (width * (count - 1 - i)) % Nat.pow 2 width

def ofOctets (octets : List Nat) : BitVec 32 :=
  BitVec.ofNat 32 (joinDigits 8 octets)

def ofGroups (groups : List Nat) : BitVec 128 :=
  BitVec.ofNat 128 (joinDigits 16 groups)

-- ---------------------------------------------------------------------------
-- Writing

def shortText (bits : BitVec 32) : String :=
  ".".intercalate ((splitDigits 8 4 bits.toNat).map Text.ofNat)

def groupsText (groups : List Nat) : String :=
  ":".intercalate (groups.map fun g => String.ofList (Text.hexDigits g))

def zeroRun (groups : List Nat) : Nat :=
  (groups.takeWhile (· == 0)).length

/-- The first among the longest runs of zeros, as its start and length. -/
def longestZeros (groups : List Nat) : Nat × Nat :=
  (List.range groups.length).foldl (fun (start, length) i =>
    let run := zeroRun (groups.drop i)
    if length < run then (i, run) else (start, length)) (0, 0)

/-- Eight groups, the first longest run of two zeros or more written as `::`. A
carried address is written as such. -/
def longText (bits : BitVec 128) : String :=
  match carried? bits with
  | some short => "::ffff:" ++ shortText short
  | none =>
    let groups := splitDigits 16 8 bits.toNat
    let (start, length) := longestZeros groups
    if 1 < length then
      groupsText (groups.take start) ++ "::" ++ groupsText (groups.drop (start + length))
    else groupsText groups

def text : Address → String
  | .v4 bits => shortText bits
  | .v6 bits => longText bits

end Address

end Tollgate
