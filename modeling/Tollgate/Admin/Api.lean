import Tollgate.Control.View
import Tollgate.Http.Message
import Tollgate.Text.Blank

/-!
# The operators' API

Operators look at the registries and start refreshes over HTTP. The key is checked
before anything else, for unknown paths too; the refresh itself may have to wait for
the store, so it is left to the caller.
-/

namespace Tollgate.Admin

open Control (RefreshError Report)
open Http (Request Response)
open Json (Value)

structure Settings where
  apiKey : String
  intervalSecs : Nat
  version : String
  /-- The text that stands for moments of the real clock. -/
  stamp : String
  deriving DecidableEq, Repr

/-- The token that a request carries: what follows `Bearer` in its first
authorization header, if that is readable. -/
def bearerToken (r : Request) : Option String := do
  let value ← r.headers.readable? "authorization"
  let token ← Text.afterStart? "Bearer ".toList value.toList
  return String.ofList (Text.trimBoth token)

/-- Whether the request carries the key. An empty key lets nobody in. -/
def isAuthorized (apiKey : String) (r : Request) : Bool :=
  apiKey ≠ "" && bearerToken r == some apiKey

inductive View where
  | status
  | concurrency
  | blockedIps
  | mocks
  | interceptors
  | requestLimits
  | alarms
  deriving DecidableEq, Repr

inductive Endpoint where
  | view (v : View)
  | refresh
  deriving DecidableEq, Repr

def Endpoint.ofPath? (path : String) : Option Endpoint :=
  [("/admin/status", .view .status), ("/admin/concurrency", .view .concurrency),
   ("/admin/blocked-ips", .view .blockedIps), ("/admin/mocks", .view .mocks),
   ("/admin/interceptors", .view .interceptors), ("/admin/request-limits", .view .requestLimits),
   ("/admin/alarms", .view .alarms), ("/admin/refresh", .refresh)].lookup path

def View.body (s : Settings) (c : Control) : View → Value
  | .status =>
    .table
      [("version", .text s.version), ("refreshing", .boolean c.running),
       ("refresh_interval_secs", .ofNat s.intervalSecs),
       ("refreshed_at", if c.plane.refreshedAt.isSome then .text s.stamp else .null),
       ("mock_time", Control.instantJson c.plane.mockedTime),
       ("signing_keys", .ofNat c.plane.signingKeys.current.length),
       ("last_report", match c.lastReport with
          | some r => r.toJson s.stamp
          | none => .null)]
  | .concurrency =>
    .table
      [("stats", Control.statsJson c.plane.gates.stats),
       ("gates", .list (c.plane.gates.snapshot.map Control.gateJson))]
  | .blockedIps => .ofTexts c.plane.blocked.entries
  | .mocks => .list (c.plane.mocks.list.map Control.mockJson)
  | .interceptors => Control.interceptorsJson c.plane.interceptors.list
  | .requestLimits => .list (c.plane.limits.status.map Control.limitJson)
  | .alarms => .list (c.center.recent.map (Control.alarmJson s.stamp))

inductive Reply where
  | answer (r : Response)
  /-- A refresh is asked for; `refreshResponse` words its result. -/
  | refresh
  deriving DecidableEq, Repr

def methodNotAllowed (allow : String) : Response :=
  { Response.bare 405 with headers := [("allow", allow)] }

def reply (s : Settings) (c : Control) (r : Request) : Reply :=
  if !isAuthorized s.apiKey r then .answer (.bare 401)
  else
    match Endpoint.ofPath? r.uri.path with
    | none => .answer (.bare 404)
    | some (.view v) =>
      if r.method = "GET" ∨ r.method = "HEAD" then
        .answer ((Response.json 200 (v.body s c)).answering r.method)
      else .answer (methodNotAllowed "GET,HEAD")
    | some .refresh => if r.method = "POST" then .refresh else .answer (methodNotAllowed "POST")

def refreshResponse (s : Settings) : Except RefreshError Report → Response
  | .ok report => .json 200 (report.toJson s.stamp)
  | .error e =>
    let status := match e with
      | .inProgress => 409
      | .store _ => 503
    .json status (.table [("error", .text e.message)])

end Tollgate.Admin
