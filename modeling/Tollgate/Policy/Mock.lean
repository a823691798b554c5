import Tollgate.Document.Text
import Tollgate.Policy.Table
import Tollgate.Route.Key

/-!
# Mocked responses

A `router` row answers the requests of a route with a fixed response, possibly only
those of one URL, and possibly after a delay.
-/

namespace Tollgate.Policy

open Document (Fields Problem Reader)

structure Mock where
  route : Route.Key
  /-- When not empty, the path and query that a request must have. -/
  url : String
  status : Nat
  contentType : String
  response : String
  delaySeconds : Nat
  deriving DecidableEq, Repr

namespace Mock

def defaultContentType : String :=
  "application/json; charset=utf-8"

def defaultStatus : Nat := 200

def fields : Fields (String × Option Nat × Option String × String × Nat × String × Unit) :=
  .field "router" Reader.text none <|
  .field "status" (Reader.optional Reader.word16) (some none) <|
  .field "contentType" (Reader.optional Reader.text) (some none) <|
  .field "response" Reader.text (some "") <|
  .field "delaySeconds" Reader.word64 (some 0) <|
  .field "url" Reader.text (some "") .done

def isStatus (status : Nat) : Bool :=
  100 ≤ status && status ≤ 999

def ofData (data : String) : Except PolicyError Mock := do
  let (router, status, contentType, response, delaySeconds, url, ()) ←
    (Document.readText (Reader.record "Row" fields) data).mapError .json
  let route ← match Route.Key.ofText? router with
    | some key => pure key
    | none => throw (.invalidRouter router)
  let status := status.getD defaultStatus
  if !isStatus status then throw (.invalidStatus status)
  let contentType := match contentType with
    | some c => if Text.isBlankText c then defaultContentType else c
    | none => defaultContentType
  return ⟨route, Text.trim url, status, contentType, response, delaySeconds⟩

/-- Whether the mock answers a request with this path and query. -/
def answers (m : Mock) (pathAndQuery : String) : Bool :=
  m.url == "" || m.url == pathAndQuery

end Mock

abbrev Mocks := Table Route.Key Mock

namespace Mocks

def ofRows (rows : List String) : Mocks × Outcome :=
  let results := rows.map Mock.ofData
  let table := Table.ofEntries ((accepted results).map fun m => (m.route, m))
  (table, ⟨table.length, rejections 0 results⟩)

def answering? (mocks : Mocks) (route : Route.Key) (pathAndQuery : String) : Option Mock :=
  (mocks.lookup route).filter fun m => m.answers pathAndQuery

def list (mocks : Mocks) : List Mock :=
  (sortedBy (fun a b : Route.Key => a.text < b.text) mocks).map Prod.snd

end Mocks

end Tollgate.Policy
