import Tollgate.Json.Token

/-!
# The tree of a JSON text

The tokens drive a machine with a stack of open lists and tables. Each token either
moves the machine on or stops it; when it stops, or the tokens run out, everything
that is still open is closed with the fault, so the tree holds all that was read.
-/

namespace Tollgate.Json

open Document (Node Elements Members Label Found Fault Cut)

/-- A list or table that is still open, with what it holds so far, last first. -/
inductive Frame where
  | list (done : List Node)
  | table (done : List (Label × Node)) (label : Label)

inductive Await where
  | value
  | firstItem
  | afterItem
  | firstLabel
  | label
  | colon
  | afterMember
  deriving DecidableEq, Repr

/-- A machine in the middle of a text. -/
structure Machine where
  stack : List Frame
  await : Await

def Machine.start : Machine :=
  ⟨[], .value⟩

def elementsOf (ending : Elements) (done : List Node) : Elements :=
  done.foldl (fun rest n => .item n rest) ending

def membersOf (ending : Members) (done : List (Label × Node)) : Members :=
  done.foldl (fun rest (label, n) => .member label n rest) ending

def Frame.close : Frame → Node
  | .list done => .list (elementsOf .close done)
  | .table done _ => .table (membersOf .close done)

def Frame.cut (c : Cut) : Frame → Node
  | .list done => .list (elementsOf (.cut c) done)
  | .table done _ => .table (membersOf (.cut c) done)

/-- The frame broken off inside the child that stands next. -/
def Frame.cutInside (c : Cut) (child : Node) : Frame → Node
  | .list done => .list (elementsOf (.cut c) (child :: done))
  | .table done label => .table (membersOf (.cut c) ((label, child) :: done))

/-- The tree when the child that stands next inside the frames is the last. -/
def cutAll (c : Cut) (child : Node) (stack : List Frame) : Node :=
  stack.foldl (fun n f => f.cutInside c n) child

inductive Step where
  | next (m : Machine)
  | complete (n : Node)
  /-- The text is faulty; the tree holds what came before. -/
  | stopped (n : Node)

/-- A value is complete: it joins the container around it. -/
def deliver (n : Node) : List Frame → Step
  | [] => .complete n
  | .list done :: fs => .next ⟨.list (n :: done) :: fs, .afterItem⟩
  | .table done label :: fs => .next ⟨.table ((label, n) :: done) label :: fs, .afterMember⟩

def Machine.stop (m : Machine) (c : Cut) (instead : Option Found) : Node :=
  match m.await, m.stack with
  | .value, fs => cutAll c (.broken c) fs
  | .firstItem, fs => cutAll c (.broken c) fs
  | .colon, fs => cutAll c (.broken c) fs
  | _, [] => .broken c
  | .afterItem, f :: fs => cutAll c (f.cut c) fs
  | .afterMember, f :: fs => cutAll c (f.cut c) fs
  | _, .table done _ :: fs =>
    cutAll c (Frame.cutInside c (.broken c) (.table done (.broken c instead))) fs
  | _, f :: fs => cutAll c (f.cut c) fs

def Token.found? : Token → Option Found
  | .null => some .null
  | .boolean b => some (.boolean b)
  | .number n => some (.number n)
  | .openList => some .sequence
  | .openTable => some .map
  | _ => none

def Machine.value (m : Machine) (t : Token) : Step :=
  match t with
  | .null => deliver .null m.stack
  | .boolean b => deliver (.boolean b) m.stack
  | .number n => deliver (.number n) m.stack
  | .text s => deliver (.text s) m.stack
  | .spoiledNumber => deliver .spoiled m.stack
  | .spoiledText => deliver .spoiled m.stack
  | .openList => .next ⟨.list [] :: m.stack, .firstItem⟩
  | .openTable => .next ⟨.table [] (.plain "") :: m.stack, .firstLabel⟩
  | .broken c => .stopped (m.stop c none)
  | _ => .stopped (m.stop (.both .malformed) none)

def Machine.close (m : Machine) : Step :=
  match m.stack with
  | [] => .stopped (m.stop (.both .malformed) none)
  | f :: fs => deliver f.close fs

def Machine.label (m : Machine) (t : Token) : Step :=
  match t, m.stack with
  | .text s, .table done _ :: fs => .next ⟨.table done (.plain s) :: fs, .colon⟩
  | .spoiledText, .table done _ :: fs => .next ⟨.table done .spoiled :: fs, .colon⟩
  | .broken c, _ => .stopped (m.stop c none)
  | t, _ => .stopped (m.stop (.both .malformed) t.found?)

def Machine.step (m : Machine) (t : Token) : Step :=
  match m.await, t with
  | .value, t => m.value t
  | .firstItem, .closeList => m.close
  | .firstItem, t => m.value t
  | .afterItem, .comma => .next { m with await := .value }
  | .afterItem, .closeList => m.close
  | .firstLabel, .closeTable => m.close
  | .firstLabel, t => m.label t
  | .label, t => m.label t
  | .colon, .colon => .next { m with await := .value }
  | .afterMember, .comma => .next { m with await := .label }
  | .afterMember, .closeTable => m.close
  | _, _ => .stopped (m.stop (.both .malformed) none)

/-- A whole text: its tree, and whether something other than blanks follows it. -/
structure Reading where
  root : Node
  trailing : Bool

def Machine.run (m : Machine) : List Token → Reading
  | [] => ⟨m.stop (.both .ended) none, false⟩
  | t :: ts =>
    match m.step t with
    | .next m => m.run ts
    | .complete n => ⟨n, !ts.isEmpty⟩
    | .stopped n => ⟨n, false⟩

def Reading.ofText (s : String) : Reading :=
  Machine.start.run (tokens s.toList)

end Tollgate.Json
