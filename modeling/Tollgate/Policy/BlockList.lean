import Tollgate.Address.Network
import Tollgate.Policy.Table
import Tollgate.Text.Pieces

/-!
# Blocked addresses

The block list is made from addresses and networks. Networks are kept by the length
of what their addresses share, the longest first, so that a look-up truncates an
address once for each length in use.
-/

namespace Tollgate.Policy

/-- The networks of one length, truncated. -/
structure NetworkClass (w : Nat) where
  length : Nat
  networks : List (BitVec w)
  deriving DecidableEq, Repr

structure BlockList where
  /-- The accepted items as they were written, blanks around them dropped. -/
  entries : List String
  addresses : List Address
  short : List (NetworkClass 32)
  long : List (NetworkClass 128)
  deriving DecidableEq, Repr

namespace BlockList

def empty : BlockList :=
  ⟨[], [], [], []⟩

/-- Adds a truncated network to the class of its length; classes stay in the order
of decreasing lengths. -/
def addNetwork {w : Nat} (length : Nat) (bits : BitVec w) :
    List (NetworkClass w) → List (NetworkClass w)
  | [] => [⟨length, [bits]⟩]
  | b :: rest =>
    if b.length = length then { b with networks := bits :: b.networks } :: rest
    else if b.length < length then ⟨length, [bits]⟩ :: b :: rest
    else b :: addNetwork length bits rest

inductive Item where
  | address (a : Address)
  | network (n : Address.Network)
  deriving DecidableEq, Repr

def Item.ofText? (item : String) : Option Item :=
  match Address.ofText? item with
  | some a => some (.address a)
  | none => (Address.Network.ofText? item).map .network

/-- Adds an item under its text. Addresses are kept in their own form. -/
def add (list : BlockList) (text : String) : Item → BlockList
  | .address a =>
    { list with addresses := a.canonical :: list.addresses, entries := list.entries ++ [text] }
  | .network (.v4 bits n) =>
    { list with
      short := addNetwork n (Address.Network.truncate n bits) list.short,
      entries := list.entries ++ [text] }
  | .network (.v6 bits n) =>
    { list with
      long := addNetwork n (Address.Network.truncate n bits) list.long,
      entries := list.entries ++ [text] }

/-- Reads the text of the item at a position into a list. A blank text is passed over,
and one that denotes nothing is refused. -/
def addText (list : BlockList) (position : Nat) (text : String) : BlockList × Outcome :=
  if text = "" then (list, ⟨0, []⟩)
  else
    match Item.ofText? text with
    | some i => (list.add text i, ⟨1, []⟩)
    | none => (list, ⟨0, [(position, .invalidAddress text)]⟩)

/-- Reads the items at the positions from `start` on into a list. -/
def addAll (list : BlockList) (start : Nat) : List String → BlockList × Outcome
  | [] => (list, ⟨0, []⟩)
  | item :: rest =>
    let (list, first) := list.addText start (Text.trim item)
    let (list, others) := addAll list (start + 1) rest
    (list, ⟨first.applied + others.applied, first.rejected ++ others.rejected⟩)

def ofItems (items : List String) : BlockList × Outcome :=
  addAll empty 0 items

def inClasses {w : Nat} (classes : List (NetworkClass w)) (bits : BitVec w) : Bool :=
  classes.any fun b => b.networks.contains (Address.Network.truncate b.length bits)

/-- Whether the address is on the list or in one of its networks. -/
def containsAddress (list : BlockList) (a : Address) : Bool :=
  let a := a.canonical
  list.addresses.contains a ||
    match a with
    | .v4 bits => inClasses list.short bits
    | .v6 bits => inClasses list.long bits

/-- Whether the published list blocks the address; an empty one blocks none. -/
def blocks (list : BlockList) (a : Address) : Bool :=
  !list.entries.isEmpty && list.containsAddress a

def blocksText (list : BlockList) (s : String) : Bool :=
  (Address.ofText? (Text.trim s)).any list.blocks

end BlockList

end Tollgate.Policy
