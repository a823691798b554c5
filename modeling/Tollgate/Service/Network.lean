import Tollgate.Service.Actions

/-!
# The service on a network

A service that listens answers the requests that reach it. On the wire the answer to
some statuses has no body, and values have no blanks around them. A service that is
cut off from its clients refuses them all and stays as it is.
-/

namespace Tollgate.Service

open Http (Request Response Router)

inductive Network where
  | reachable
  | isolated
  deriving DecidableEq, Repr

inductive Exchange where
  | answered (r : Response)
  | refused
  deriving DecidableEq, Repr

namespace Network

def loopback : Address.Socket :=
  ⟨.v4 (Address.ofOctets [127, 0, 0, 1]), 0⟩

/-- Whether an answer with this status has no body on the wire. -/
def isBodiless (status : Nat) : Bool :=
  status < 200 || status == 204 || status == 304

def received (r : Response) : Response :=
  { r with
    headers := r.headers.map fun (name, value) => (name, Text.trim value)
    body := if isBodiless r.status then "" else r.body }

def exchange (n : Network) (router : Router) (s : Service) (r : Request) :
    Exchange × Service :=
  match n with
  | .isolated => (.refused, s)
  | .reachable =>
    match s.request router { r with peer := some loopback } with
    | (.answered response, s) => (.answered (received response), s)
    | (_, s) => (.refused, s)

def exchanges (n : Network) (router : Router) (s : Service) :
    List Request → List Exchange × Service
  | [] => ([], s)
  | r :: rest =>
    let (first, s) := n.exchange router s r
    let (others, s) := n.exchanges router s rest
    (first :: others, s)

end Network

end Tollgate.Service
