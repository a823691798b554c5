/-!
# Store errors

A store either cannot be reached or holds something that is not a list of rows.
-/

namespace Tollgate.Store

inductive StoreError where
  | unavailable (reason : String)
  | undecodable (reason : String)
  deriving DecidableEq, Repr

def StoreError.message : StoreError → String
  | .unavailable reason => "policy store unavailable: " ++ reason
  | .undecodable reason => "policy store returned undecodable data: " ++ reason

def missingFile : String :=
  "No such file or directory (os error 2)"

end Tollgate.Store
