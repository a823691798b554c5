import Tollgate.Document.Node

/-!
# TOML tables

A file builds its tables piece by piece: headers open tables, dotted keys make
tables on their way, and each table may be defined only once. How a table came
about decides what may still be added to it.
-/

namespace Tollgate.Toml

open Document (Node Elements Members)

mutual
/-- What a key stands for. -/
inductive Item where
  /-- A finished value; nothing can be added to it. -/
  | value (n : Node)
  | table (t : Table)
  /-- The tables of a list of tables, last first. -/
  | tables (ts : List Table)
/-- A table under construction. -/
inductive Table where
  /-- `implicit`: made on the way to another table; `dotted`: made by a dotted key. -/
  | mk (implicit dotted : Bool) (items : List (String × Item))
end

namespace Table

def empty : Table :=
  .mk false false []

def isImplicit : Table → Bool
  | .mk implicit _ _ => implicit

def isDotted : Table → Bool
  | .mk _ dotted _ => dotted

def items : Table → List (String × Item)
  | .mk _ _ items => items

def withItems : Table → List (String × Item) → Table
  | .mk implicit dotted _, items => .mk implicit dotted items

def get? (t : Table) (key : String) : Option Item :=
  t.items.lookup key

/-- Sets the item of a key: in its place if there is one, else at the end. -/
def set (t : Table) (key : String) (item : Item) : Table :=
  if (t.get? key).isSome then
    t.withItems (t.items.map fun (k, old) => if k = key then (k, item) else (k, old))
  else t.withItems (t.items ++ [(key, item)])

def erase (t : Table) (key : String) : Table :=
  t.withItems (t.items.filter fun (k, _) => k ≠ key)

/-- Changes the table at the end of a path. Tables that are missing on the way are
made; of a list of tables the last is meant. A dotted key passes only through
tables that no header defined. -/
def modifyAt (dotted : Bool) (f : Table → Option Table) : List String → Table → Option Table
  | [], t => f t
  | key :: path, t =>
    match t.get? key with
    | none => do
      let child ← modifyAt dotted f path (.mk true dotted [])
      return t.set key (.table child)
    | some (.value _) => none
    | some (.table child) =>
      if dotted && !child.isImplicit then none
      else do
        let child ← modifyAt dotted f path child
        return t.set key (.table child)
    | some (.tables []) => none
    | some (.tables (last :: others)) => do
      let last ← modifyAt dotted f path last
      return t.set key (.tables (last :: others))

def insertNew (key : String) (n : Node) (t : Table) : Option Table :=
  match t.get? key with
  | some _ => none
  | none => some (t.set key (.value n))

/-- Puts a value at the end of a path of keys. A dotted key may end only in a table
that dotted keys made. -/
def insertAt (path : List String) (key : String) (n : Node) (t : Table) : Option Table :=
  modifyAt true (fun target =>
    if target.isDotted == path.isEmpty then none else insertNew key n target) path t

end Table

mutual
def Item.toNode : Item → Node
  | .value n => n
  | .table t => t.toNode
  | .tables ts => .list (tablesToElements ts .close)
def Table.toNode : Table → Node
  | .mk _ _ items => .table (itemsToMembers items)
def tablesToElements : List Table → Elements → Elements
  | [], later => later
  | t :: earlier, later => tablesToElements earlier (.item t.toNode later)
def itemsToMembers : List (String × Item) → Members
  | [] => .close
  | (key, item) :: rest => .member (.plain key) item.toNode (itemsToMembers rest)
end

-- ---------------------------------------------------------------------------
-- Whole files

inductive Line where
  | entry (path : List String) (key : String) (value : Node)
  | header (path : List String) (key : String)
  | listHeader (path : List String) (key : String)

/-- A file under construction: the root without the table that is open, that table,
and where it belongs. -/
structure Builder where
  root : Table
  current : Table
  path : List String
  /-- The last key of the open table's path; none while it is the root. -/
  key : Option String
  /-- The open table belongs to a list of tables. -/
  isList : Bool

namespace Builder

def start : Builder :=
  ⟨.empty, .empty, [], none, false⟩

def close (b : Builder) : Option Table :=
  match b.key with
  | none => some b.current
  | some key =>
    Table.modifyAt false (fun parent =>
      match parent.get? key with
      | none =>
        some (parent.set key (if b.isList then .tables [b.current] else .table b.current))
      | some (.tables ts) =>
        if b.isList then some (parent.set key (.tables (b.current :: ts))) else none
      | some (.table t) =>
        if !b.isList && t.isImplicit then some (parent.set key (.table b.current)) else none
      | some (.value _) => none) b.path b.root

/-- What a header finds under its key: a table that was only made on the way is
taken out and opened again. -/
structure Opened where
  parent : Table
  found : Table

def openIn (key : String) (parent : Table) : Option Opened :=
  match parent.get? key with
  | none => some ⟨parent, .empty⟩
  | some (.table (.mk true false items)) => some ⟨parent.erase key, .mk false false items⟩
  | some _ => none

def openAt (key : String) : List String → Table → Option Opened
  | [], t => openIn key t
  | step :: path, t =>
    match t.get? step with
    | none => do
      let opened ← openAt key path (.mk true false [])
      return { opened with parent := t.set step (.table opened.parent) }
    | some (.value _) => none
    | some (.table child) => do
      let opened ← openAt key path child
      return { opened with parent := t.set step (.table opened.parent) }
    | some (.tables []) => none
    | some (.tables (last :: others)) => do
      let opened ← openAt key path last
      return { opened with parent := t.set step (.tables (opened.parent :: others)) }

def line (b : Builder) : Line → Option Builder
  | .entry path key value => do
    let current ← b.current.insertAt path key value
    return { b with current := current }
  | .header path key => do
    let root ← b.close
    let opened ← openAt key path root
    return ⟨opened.parent, opened.found, path, some key, false⟩
  | .listHeader path key => do
    let root ← b.close
    let root ← Table.modifyAt false (fun parent =>
      match parent.get? key with
      | none => some (parent.set key (.tables []))
      | some (.tables _) => some parent
      | some _ => none) path root
    return ⟨root, .empty, path, some key, true⟩

def finish (b : Builder) : Option Node :=
  b.close.map Table.toNode

end Builder

end Tollgate.Toml
