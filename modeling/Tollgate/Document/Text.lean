import Tollgate.Document.Fields
import Tollgate.Json.Value

/-!
# Typed values of JSON documents

A text gives a typed value when the reader accepts its tree and nothing but blanks
follows. A value in hand is read through its own tree.
-/

namespace Tollgate.Document

def readText (read : Reader α) (s : String) : Except Problem α :=
  let reading := Json.Reading.ofText s
  match read .text reading.root with
  | .error p => .error p
  | .ok a => if reading.trailing then .error (.fault .malformed) else .ok a

def readValue (read : Reader α) (v : Json.Value) : Except Problem α :=
  read .value v.toNode

end Tollgate.Document
