import Tollgate.Config.Validation
import Tollgate.Store.Error
import Tollgate.Toml.File

/-!
# Configuration files

A configuration file is read, given its types, and validated.
-/

namespace Tollgate.Config

open Document (Problem)

inductive LoadError where
  | unreadable (reason : String)
  | unparsable (problem : Problem)
  | invalid (violations : List Violation)
  deriving DecidableEq, Repr

def LoadError.message : LoadError → String
  | .unreadable reason => "IO error: " ++ reason
  | .unparsable problem => "Parse error: " ++ problem.message
  | .invalid violations => "Validation failed: " ++ violationsText violations

def ofToml (s : String) : Except Problem Config :=
  match Toml.ofText? s with
  | none => .error (.fault .malformed)
  | some n => reader .toml n

def ofText (s : String) : Except LoadError Config :=
  match ofToml s with
  | .error p => .error (.unparsable p)
  | .ok c => if c.isValid then .ok c else .error (.invalid c.violations)

def ofFile : Option String → Except LoadError Config
  | none => .error (.unreadable Store.missingFile)
  | some s => ofText s

end Tollgate.Config
