import Tollgate.Document.Reader

/-!
# Readers of records

A record is a table of named members, or a list of its members in their declared
order. Members that nobody declared are skimmed. A member that stands twice is a
problem when it is met again, and one that is absent takes its fallback or is a
problem once the table has closed.
-/

namespace Tollgate.Document

/-- The declared members of a record; the index is the type of their values. -/
inductive Fields : Type → Type 1 where
  | done : Fields Unit
  | field {α β : Type} (name : String) (read : Reader α) (fallback : Option α)
      (rest : Fields β) : Fields (α × β)

namespace Fields

/-- The values met so far, one place for each declared member. -/
def Slots : {τ : Type} → Fields τ → Type
  | _, .done => Unit
  | _, .field (α := α) _ _ _ rest => Option α × Slots rest

def empty : {τ : Type} → (fs : Fields τ) → fs.Slots
  | _, .done => ()
  | _, .field _ _ _ rest => (none, rest.empty)

def count : {τ : Type} → Fields τ → Nat
  | _, .done => 0
  | _, .field _ _ _ rest => rest.count + 1

/-- Puts a member's value in its place; none if no member of that name is declared. -/
def put (form : Form) (key : String) (n : Node) :
    {τ : Type} → (fs : Fields τ) → fs.Slots → Option (Except Problem fs.Slots)
  | _, .done => fun _ => none
  | _, .field (α := α) name read _ rest => fun (slots : Option α × rest.Slots) =>
    if name = key then
      match slots.1 with
      | some _ => some (.error (.duplicate name))
      | none => some ((read form n).map fun a => (some a, slots.2))
    else (put form key n rest slots.2).map fun r => r.map fun s => (slots.1, s)

def finish : {τ : Type} → (fs : Fields τ) → fs.Slots → Except Problem τ
  | _, .done => fun _ => .ok ()
  | _, .field (α := α) name _ fallback rest => fun (slots : Option α × rest.Slots) => do
    let a ← match slots.1.or fallback with
      | some a => .ok a
      | none => .error (.missing name)
    let b ← rest.finish slots.2
    return (a, b)

/-- Walks a table, filling the places, and skims members that are not declared. -/
def readMembers (form : Form) (fs : Fields τ) : Members → fs.Slots → Except Problem τ
  | .close, slots => fs.finish slots
  | .cut c, _ => .error (.fault c.reading)
  | .member (.broken c _) _ _, _ => .error (.fault c.readingLabel)
  | .member .spoiled _ _, _ => .error (.fault .malformed)
  | .member (.plain key) value rest, slots =>
    match fs.put form key value slots with
    | some (.error p) => .error p
    | some (.ok slots) => readMembers form fs rest slots
    | none =>
      match value.skim with
      | .error f => .error (.fault f)
      | .ok () => readMembers form fs rest slots

def describe (name : String) (count : Nat) : String :=
  "struct " ++ name ++ " with " ++ Text.ofNat count ++
    (if count = 1 then " element" else " elements")

/-- What may follow the last declared member of a record written as a list of
`total` elements. -/
def readEnd (form : Form) (total : Nat) : Elements → Except Problem Unit
  | .close => .ok ()
  | .cut c => .error (.fault c.reading)
  | .item .. =>
    match form with
    | .text => .error (.fault .malformed)
    | .value => .error (.wrongLength total "fewer elements in array")
    | .toml => .ok ()

/-- Walks a list of the members in their declared order. `seen` counts the members
before, `expected` names the record, and `total` is the length of the list. -/
def readElements (form : Form) (expected : String) (total : Nat) :
    {τ : Type} → Fields τ → Nat → Elements → Except Problem τ
  | _, .done, _, items => readEnd form total items
  | _, .field _ _ fallback rest, seen, .close => do
    let a ← match fallback with
      | some a => .ok a
      | none => .error (.wrongLength seen expected)
    let b ← readElements form expected total rest (seen + 1) .close
    return (a, b)
  | _, .field .., _, .cut c => .error (.fault c.reading)
  | _, .field _ read _ rest, seen, .item head items => do
    let a ← read form head
    let b ← readElements form expected total rest (seen + 1) items
    return (a, b)

end Fields

/-- A record given as a table or as a list of its members. -/
def Reader.record (name : String) (fields : Fields τ) : Reader τ
  | form, .table members => fields.readMembers form members fields.empty
  | form, .list items =>
    fields.readElements form (Fields.describe name fields.count) items.length 0 items
  | form, n => .error (mismatch ("struct " ++ name) form n)

def Reader.as (read : Reader α) (f : α → β) : Reader β := fun form n =>
  (read form n).map f

-- ---------------------------------------------------------------------------
-- Records with a part that is read late

namespace Fields

/-- The members of a table that is read in two passes: one named member is read
when met, the others are only read whole and kept for later. -/
structure Split (α : Type) where
  head : Option α
  kept : List (String × Node)

/-- The first pass over a table: `name` is typed when met, twice is a problem, and
every other member is read whole. -/
def splitMembers (form : Form) (name : String) (read : Reader α) :
    Members → Split α → Except Problem (Split α)
  | .close, split => .ok { split with kept := split.kept.reverse }
  | .cut c, _ => .error (.fault c.reading)
  | .member (.broken c _) _ _, _ => .error (.fault c.readingLabel)
  | .member .spoiled _ _, _ => .error (.fault .malformed)
  | .member (.plain key) value rest, split =>
    if key = name then
      match split.head with
      | some _ => .error (.duplicate name)
      | none =>
        match read form value with
        | .error p => .error p
        | .ok a => splitMembers form name read rest { split with head := some a }
    else
      match value.readWhole 1 with
      | .error f => .error (.fault f)
      | .ok () =>
        splitMembers form name read rest { split with kept := (key, value) :: split.kept }

/-- The second pass: the kept members fill the fields of the late part. -/
def readKept (form : Form) (fs : Fields τ) : List (String × Node) → fs.Slots → Except Problem τ
  | [], slots => fs.finish slots
  | (key, value) :: rest, slots =>
    match fs.put form key value slots with
    | some (.error p) => .error p
    | some (.ok slots) => readKept form fs rest slots
    | none => readKept form fs rest slots

end Fields

/-- A record of one leading member and a late part, given as a table only. -/
def Reader.twoPass (name : String) (head : String) (read : Reader α) (fallback : Option α)
    (late : Fields τ) : Reader (α × τ)
  | form, .table members => do
    let split ← Fields.splitMembers form head read members ⟨none, []⟩
    let a ← match split.head.or fallback with
      | some a => .ok a
      | none => .error (.missing head)
    let t ← late.readKept form split.kept late.empty
    return (a, t)
  | form, n => .error (mismatch ("struct " ++ name) form n)

end Tollgate.Document
