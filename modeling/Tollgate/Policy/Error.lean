import Tollgate.Document.Problem
import Tollgate.Time.Reading

/-!
# Why a policy row is refused

Each cause has one wording. Refused texts are shown quoted.
-/

namespace Tollgate.Policy

inductive PolicyError where
  | json (problem : Document.Problem)
  | invalidRouter (text : String)
  | invalidStatus (status : Nat)
  | invalidTimestamp (text : String) (cause : Time.TimeError)
  | invalidAddress (text : String)
  | empty (field : String)
  deriving DecidableEq, Repr

def PolicyError.message : PolicyError → String
  | .json problem => "malformed JSON: " ++ problem.message
  | .invalidRouter text =>
    "invalid router " ++ Text.quoted text ++ ", expected \"METHOD /pattern\""
  | .invalidStatus status => "invalid HTTP status " ++ Text.ofNat status
  | .invalidTimestamp text cause =>
    "invalid timestamp " ++ Text.quoted text ++ ": " ++ cause.message
  | .invalidAddress text => "invalid IP or CIDR " ++ Text.quoted text
  | .empty field => "field `" ++ field ++ "` must not be empty"

end Tollgate.Policy
