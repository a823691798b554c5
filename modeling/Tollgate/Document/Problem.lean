import Tollgate.Decimal.Shortest
import Tollgate.Document.Node
import Tollgate.Text.Quoted

/-!
# What can be wrong with a document

A document fails to give a value for one of a few causes. `Problem.message` words
them; the wording of a float depends on the form the document came in.
-/

namespace Tollgate.Document

inductive Form where
  | text
  | value
  | toml
  deriving DecidableEq, Repr

/-- A float as JSON messages show it: positional from `1e-5` up to below `1e16`. -/
def jsonFloatText (x : Float) : String :=
  match Decimal.ofFloat? x with
  | none => if x.isNaN then "NaN" else if x < 0 then "-inf" else "inf"
  | some (negative, d) =>
    let body := if d.digits = 0 ∨ (-5 ≤ d.place ∧ d.place ≤ 15) then d.positional
      else d.scientific
    if negative then "-" ++ body else body

/-- A float as TOML messages show it: always positional. -/
def tomlFloatText (x : Float) : String :=
  match Decimal.ofFloat? x with
  | none => if x.isNaN then "NaN" else if x < 0 then "-inf" else "inf"
  | some (negative, d) => if negative then "-" ++ d.positional else d.positional

def floatText : Form → Float → String
  | .toml => tomlFloatText
  | _ => jsonFloatText

def Found.describe (form : Form) : Found → String
  | .null => "null"
  | .boolean b => "boolean `" ++ (if b then "true" else "false") ++ "`"
  | .number (.integer i) => "integer `" ++ Text.ofInt i ++ "`"
  | .number (.float x) => "floating point `" ++ floatText form x ++ "`"
  | .text s => "string " ++ Text.quoted s
  | .sequence => "sequence"
  | .map => "map"

inductive Problem where
  | fault (f : Fault)
  | wrongType (found : String) (expected : String)
  | wrongValue (found : String) (expected : String)
  | wrongLength (length : Nat) (expected : String)
  | missing (name : String)
  | duplicate (name : String)
  | unknownVariant (name : String) (known : List String)
  /-- A text field whose content follows a grammar of its own. -/
  | content (message : String)
  deriving DecidableEq, Repr

def oneOf (names : List String) : String :=
  " or ".intercalate (names.map fun n => "`" ++ n ++ "`")

def Problem.message : Problem → String
  | .fault .ended => "eof"
  | .fault .malformed => "syntax"
  | .wrongType found expected => "invalid type: " ++ found ++ ", expected " ++ expected
  | .wrongValue found expected => "invalid value: " ++ found ++ ", expected " ++ expected
  | .wrongLength n expected => "invalid length " ++ Text.ofNat n ++ ", expected " ++ expected
  | .missing name => "missing field `" ++ name ++ "`"
  | .duplicate name => "duplicate field `" ++ name ++ "`"
  | .unknownVariant name known =>
    "unknown variant `" ++ name ++ "`, expected " ++ oneOf known
  | .content message => message

end Tollgate.Document
