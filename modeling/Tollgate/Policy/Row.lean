import Tollgate.Document.Text
import Tollgate.Time.Reading

/-!
# Policy rows

Operators administer policy as rows. A row has a category, which decides how its
data is read, and a window of time in which it is active.
-/

namespace Tollgate.Policy

open Document (Fields Problem Reader)
open Time (Instant)

inductive Category where
  | mockTime
  | blockIp
  | signedKey
  | routerConcurrency
  | router
  | requestConcurrency
  | email
  | httpServerInterceptor
  /-- A category that is not understood; its rows are ignored. -/
  | unknown
  deriving DecidableEq, Repr

namespace Category

def name : Category → String
  | .mockTime => "mockTime"
  | .blockIp => "blockIP"
  | .signedKey => "signedKey"
  | .routerConcurrency => "routerConcurrency"
  | .router => "router"
  | .requestConcurrency => "requestConcurrency"
  | .email => "email"
  | .httpServerInterceptor => "httpServerInterceptor"
  | .unknown => "unknown"

def known : List Category :=
  [.mockTime, .blockIp, .signedKey, .routerConcurrency, .router, .requestConcurrency, .email,
   .httpServerInterceptor]

def ofName (name : String) : Category :=
  (known.find? fun c => c.name == name).getD .unknown

def reader : Reader Category :=
  Reader.choice fun name => .ok (ofName name)

end Category

inductive Status where
  | enabled
  | disabled
  deriving DecidableEq, Repr

namespace Status

def name : Status → String
  | .enabled => "enabled"
  | .disabled => "disabled"

def ofName (name : String) : Except Problem Status :=
  if name = "enabled" then .ok .enabled
  else if name = "disabled" then .ok .disabled
  else .error (.unknownVariant name ["enabled", "disabled"])

def reader : Reader Status :=
  Reader.choice ofName

end Status

structure Row where
  name : String
  category : Category
  status : Status
  data : String
  startedAt : Instant
  endedAt : Instant
  updatedAt : Instant
  deriving DecidableEq, Repr

namespace Row

def instantReader : Reader Instant
  | _, .text s =>
    match Instant.ofLenientText s with
    | .ok i => .ok i
    | .error e => .error (.content e.message)
  | form, n => .error (Document.mismatch "an RFC 3339 formatted date and time string" form n)

def fields : Fields (String × Category × Status × String × Instant × Instant × Instant × Unit) :=
  .field "name" Reader.text none <|
  .field "category" Category.reader none <|
  .field "status" Status.reader none <|
  .field "data" Reader.text (some "") <|
  .field "startedAt" instantReader none <|
  .field "endedAt" instantReader none <|
  .field "updatedAt" instantReader none .done

def reader : Reader Row :=
  (Reader.record "ConfigurationRecord" fields).as
    fun (name, category, status, data, startedAt, endedAt, updatedAt, ()) =>
      ⟨name, category, status, data, startedAt, endedAt, updatedAt⟩

def toJson (r : Row) : Json.Value :=
  .table
    [("name", .text r.name), ("category", .text r.category.name), ("status", .text r.status.name),
     ("data", .text r.data), ("startedAt", .text r.startedAt.text),
     ("endedAt", .text r.endedAt.text), ("updatedAt", .text r.updatedAt.text)]

/-- Rows count while they are enabled and strictly inside their window. -/
def isActive (r : Row) (now : Instant) : Bool :=
  r.status == .enabled && r.startedAt.before now && now.before r.endedAt

/-- Whether the first row may stand before the second: it is not older. -/
def newerOrEqual (a b : Row) : Bool :=
  !a.updatedAt.before b.updatedAt

/-- The rows newest first; rows of the same age keep their order. -/
def newestFirst (rows : List Row) : List Row :=
  rows.mergeSort newerOrEqual

end Row

end Tollgate.Policy
