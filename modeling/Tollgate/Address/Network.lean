import Tollgate.Address.Reading

/-!
# Networks

A network is the set of addresses of one form that agree in their first bits.
-/

namespace Tollgate.Address

inductive Network where
  | v4 (bits : BitVec 32) (length : Nat)
  | v6 (bits : BitVec 128) (length : Nat)
  deriving DecidableEq, Repr

namespace Network

def truncate {w : Nat} (length : Nat) (bits : BitVec w) : BitVec w :=
  (bits >>> (w - length)) <<< (w - length)

def truncated : Network → Network
  | .v4 bits length => .v4 (truncate length bits) length
  | .v6 bits length => .v6 (truncate length bits) length

/-- Whether an address lies in the network: it has its form and its first bits. -/
def contains : Network → Address → Bool
  | .v4 bits length, .v4 a => truncate length a == truncate length bits
  | .v6 bits length, .v6 a => truncate length a == truncate length bits
  | _, _ => false

def length (width limit : Nat) (cs : List Char) : Option (Nat × List Char) := do
  let cs ← Reading.char '/' cs
  Reading.number 10 (some width) true (limit + 1) cs

def short (cs : List Char) : Option (Network × List Char) := do
  let (bits, cs) ← Reading.short .network cs
  let (n, cs) ← length 2 32 cs
  return (.v4 bits n, cs)

def long (cs : List Char) : Option (Network × List Char) := do
  let (bits, cs) ← Reading.long .network cs
  let (n, cs) ← length 3 128 cs
  return (.v6 bits n, cs)

def ofText? (s : String) : Option Network :=
  Reading.whole (short s.toList) <|> Reading.whole (long s.toList)

end Network

end Tollgate.Address
