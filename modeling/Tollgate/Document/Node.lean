/-!
# Documents as trees

Policies, rows and configurations arrive as documents: scalars, lists and tables.
A document read from text may break off or turn malformed. The tree then keeps
everything that stands before the fault and marks the place, so that a reader that
walks the tree in the order of the text meets the fault exactly when it gets there.

A fault comes in two strengths. Skimming a value that nobody asked for only finds
its end, while reading it also decodes it; a text with a broken escape or a number
out of range can be skimmed but not read.
-/

namespace Tollgate.Document

/-- Why a text cannot be read further. -/
inductive Fault where
  | ended
  | malformed
  deriving DecidableEq, Repr

inductive Number where
  | integer (i : Int)
  | float (x : Float)
  deriving Repr

/-- A place that neither reading nor skimming gets past. -/
structure Cut where
  reading : Fault
  skimming : Fault
  /-- The fault lies inside a number or a bare word. -/
  bare : Bool := false
  deriving DecidableEq, Repr

def Cut.both (f : Fault) : Cut :=
  { reading := f, skimming := f }

/-- The fault of reading where a label must stand: a number or word is none, whatever
may be wrong inside it. -/
def Cut.readingLabel (c : Cut) : Fault :=
  if c.bare then .malformed else c.reading

/-- The fault of skimming where a label must stand. -/
def Cut.skimmingLabel (c : Cut) : Fault :=
  if c.bare then .malformed else c.skimming

/-- What a value turns out to be, as error texts name it. -/
inductive Found where
  | null
  | boolean (b : Bool)
  | number (n : Number)
  | text (s : String)
  | sequence
  | map
  deriving Repr

/-- What names a member of a table. -/
inductive Label where
  | plain (name : String)
  /-- A label that can be skimmed only. -/
  | spoiled
  /-- No label, although one must follow; `instead` is the value found there. -/
  | broken (cut : Cut) (instead : Option Found)
  deriving Repr

mutual
/-- A document. -/
inductive Node where
  | null
  | boolean (b : Bool)
  | number (n : Number)
  | text (s : String)
  | list (items : Elements)
  | table (members : Members)
  /-- A scalar that can be skimmed only; read, it is malformed. -/
  | spoiled
  /-- No value, although one must follow. -/
  | broken (cut : Cut)
inductive Elements where
  | close
  | cut (c : Cut)
  | item (head : Node) (rest : Elements)
inductive Members where
  | close
  | cut (c : Cut)
  | member (label : Label) (value : Node) (rest : Members)
end

def Elements.ofList : List Node → Elements
  | [] => .close
  | n :: ns => .item n (ofList ns)

def Members.ofList : List (String × Node) → Members
  | [] => .close
  | (name, n) :: ms => .member (.plain name) n (ofList ms)

def Elements.length : Elements → Nat
  | .close => 0
  | .cut _ => 0
  | .item _ rest => rest.length + 1

mutual
/-- The first fault met when the value is skimmed. -/
def Node.skim : Node → Except Fault Unit
  | .broken c => .error c.skimming
  | .list items => items.skim
  | .table members => members.skim
  | _ => .ok ()
def Elements.skim : Elements → Except Fault Unit
  | .close => .ok ()
  | .cut c => .error c.skimming
  | .item head rest => do
    head.skim
    rest.skim
def Members.skim : Members → Except Fault Unit
  | .close => .ok ()
  | .cut c => .error c.skimming
  | .member (.broken c _) _ _ => .error c.skimmingLabel
  | .member _ value rest => do
    value.skim
    rest.skim
end

def depthLimit : Nat := 127

mutual
def Node.readWhole (depth : Nat) : Node → Except Fault Unit
  | .broken c => .error c.reading
  | .spoiled => .error .malformed
  | .list items =>
    if depth < depthLimit then items.readWhole (depth + 1) else .error .malformed
  | .table members =>
    if depth < depthLimit then members.readWhole (depth + 1) else .error .malformed
  | _ => .ok ()
def Elements.readWhole (depth : Nat) : Elements → Except Fault Unit
  | .close => .ok ()
  | .cut c => .error c.reading
  | .item head rest => do
    head.readWhole depth
    rest.readWhole depth
def Members.readWhole (depth : Nat) : Members → Except Fault Unit
  | .close => .ok ()
  | .cut c => .error c.reading
  | .member (.broken c _) _ _ => .error c.readingLabel
  | .member .spoiled _ _ => .error .malformed
  | .member (.plain _) value rest => do
    value.readWhole depth
    rest.readWhole depth
end

end Tollgate.Document
