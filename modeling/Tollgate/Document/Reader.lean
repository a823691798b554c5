import Tollgate.Document.Problem

/-!
# Readers of typed values

A reader walks a document in the order of its text and stops at the first problem:
a value of the wrong type counts when it is met, even if the document breaks off
later. Readers are built from one another; records have a module of their own.
-/

namespace Tollgate.Document

abbrev Reader (α : Type) := Form → Node → Except Problem α

/-- The refusal of a node that holds no value of the expected type. Lists and
tables are refused as soon as they open; a faulty scalar shows its fault. -/
def mismatch (expected : String) (form : Form) : Node → Problem
  | .null => .wrongType (Found.null.describe form) expected
  | .boolean b => .wrongType ((Found.boolean b).describe form) expected
  | .number n => .wrongType ((Found.number n).describe form) expected
  | .text s => .wrongType ((Found.text s).describe form) expected
  | .list _ => .wrongType (Found.sequence.describe form) expected
  | .table _ => .wrongType (Found.map.describe form) expected
  | .spoiled => .fault .malformed
  | .broken c => .fault c.reading

namespace Reader

def text : Reader String
  | _, .text s => .ok s
  | form, n => .error (mismatch "a string" form n)

def boolean : Reader Bool
  | _, .boolean b => .ok b
  | form, n => .error (mismatch "a boolean" form n)

def integer (name : String) (low high : Int) : Reader Int
  | form, .number (.integer i) =>
    if low ≤ i ∧ i ≤ high then .ok i
    else .error (.wrongValue ((Found.number (.integer i)).describe form) name)
  | form, n => .error (mismatch name form n)

/-- A natural number of so many bits, under the name of its type. -/
def natural (name : String) (bits : Nat) : Reader Nat := fun form n =>
  (integer name 0 (Nat.pow 2 bits - 1) form n).map Int.toNat

def word16 : Reader Nat := natural "u16" 16

def word32 : Reader Nat := natural "u32" 32

def word64 : Reader Nat := natural "u64" 64

def size : Reader Nat := natural "usize" 64

def signed64 : Reader Int := integer "i64" Int64.minValue.toInt Int64.maxValue.toInt

def optional (read : Reader α) : Reader (Option α)
  | _, .null => .ok none
  | form, n => (read form n).map some

def elements (read : Reader α) (form : Form) : Elements → Except Problem (List α)
  | .close => .ok []
  | .cut c => .error (.fault c.reading)
  | .item head rest => do
    let a ← read form head
    let as ← elements read form rest
    return a :: as

def list (read : Reader α) : Reader (List α)
  | form, .list items => elements read form items
  | form, n => .error (mismatch "a sequence" form n)

/-- The null that stands for "nothing more to say". -/
def unit : Reader Unit
  | _, .null => .ok ()
  | form, n => .error (mismatch "unit" form n)

/-- What must follow the single member of a choice written as a table. -/
def endOfChoice : Members → Except Problem Unit
  | .close => .ok ()
  | .cut c => .error (.fault c.reading)
  | .member .. => .error (.fault .malformed)

/-- The member of a choice written as a table: its name, then a null. -/
def choiceMember (pick : String → Except Problem α) (form : Form) :
    Members → Except Problem α
  | .close => .error (.fault .malformed)
  | .cut c => .error (.fault c.reading)
  | .member (.broken c instead) _ _ =>
    match instead with
    | none => .error (.fault c.reading)
    | some found => .error (.wrongType (found.describe form) "variant identifier")
  | .member .spoiled _ _ => .error (.fault .malformed)
  | .member (.plain name) value rest => do
    let a ← pick name
    unit form value
    match form with
    | .text => endOfChoice rest
    | _ => pure ()
    return a

/-- A choice among names: a text, or a table with one member that is null. -/
def choice (pick : String → Except Problem α) : Reader α
  | _, .text name => pick name
  | .text, .table members => choiceMember pick .text members
  | form, .table members =>
    match members with
    | .member _ _ .close => choiceMember pick form members
    | _ => .error (.wrongValue (Found.map.describe form) "map with a single key")
  | .text, .broken c => .error (.fault (if c.bare then .malformed else c.reading))
  | .text, _ => .error (.fault .malformed)
  | form, n => .error (mismatch "string or map" form n)

end Reader

end Tollgate.Document
