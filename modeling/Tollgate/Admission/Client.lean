import Tollgate.Http.Message
import Tollgate.Text.Blank

/-!
# The client's address

The client is the other end of the connection. Behind a trusted proxy it is the
first hop of the forwarding header, if that hop is an address.
-/

namespace Tollgate.Admission

open Http (Request)

def forwardedHeader : String := "x-forwarded-for"

/-- The address of the first hop, none if the header is missing or does not start
with an address. -/
def forwardedAddress (r : Request) : Option Address := do
  let hops ← r.headers.readable? forwardedHeader
  let first ← (Text.piecesOf (· == ',') hops).head?
  Address.ofText? (Text.trim first)

def clientAddress (trustForwarded : Bool) (r : Request) : Option Address :=
  let peer := r.peer.map Address.Socket.address
  if trustForwarded then forwardedAddress r <|> peer else peer

end Tollgate.Admission
