import Tollgate.Address.Reading
import Tollgate.Http.Uri
import Tollgate.Json.Value

/-!
# Requests and responses

A message carries headers in their order; names are in lower case. A value is
readable as text when it has only visible ASCII characters, blanks and tabs.
-/

namespace Tollgate.Http

abbrev Headers := List (String × String)

namespace Headers

def get? (hs : Headers) (name : String) : Option String :=
  hs.lookup name

def set (hs : Headers) (name value : String) : Headers :=
  hs.filter (fun (n, _) => n ≠ name) ++ [(name, value)]

def isTokenChar (c : Char) : Bool :=
  Text.isLetter c || Text.isDigit c || "!#$%&'*+-.^_\x60|~".toList.contains c

def isToken (s : String) : Bool :=
  s ≠ "" && s.toList.all isTokenChar

/-- Whether a text may be the value of a header: no control but the tab. -/
def isValue (s : String) : Bool :=
  s.toList.all fun c => c == '\t' || (0x20 ≤ c.toNat && c.toNat != 0x7F)

def isReadable (s : String) : Bool :=
  s.toList.all fun c => c == '\t' || (0x20 ≤ c.toNat && c.toNat < 0x7F)

/-- The first value of a name, if it is readable. -/
def readable? (hs : Headers) (name : String) : Option String :=
  (hs.get? name).filter isReadable

end Headers

structure Request where
  method : String
  uri : Uri
  headers : Headers
  peer : Option Address.Socket
  deriving DecidableEq, Repr

structure Response where
  status : Nat
  headers : Headers
  body : String
  deriving DecidableEq, Repr

namespace Response

/-- What a response says apart from its body. -/
structure Head where
  status : Nat
  headers : Headers
  deriving DecidableEq, Repr

def head (r : Response) : Head :=
  ⟨r.status, r.headers⟩

def withHead (r : Response) (h : Head) : Response :=
  ⟨h.status, h.headers, r.body⟩

def bare (status : Nat) : Response :=
  ⟨status, [], ""⟩

def json (status : Nat) (body : Json.Value) : Response :=
  ⟨status, [("content-type", "application/json")], body.write⟩

def isSuccess (r : Response) : Bool :=
  200 ≤ r.status && r.status < 300

/-- The response as it goes out: the answer to HEAD has no body, nor has a good
answer to CONNECT. -/
def answering (r : Response) (method : String) : Response :=
  if method = "HEAD" ∨ (method = "CONNECT" ∧ r.isSuccess) then { r with body := "" } else r

end Response

def requestIdHeader : String := "x-request-id"

end Tollgate.Http
