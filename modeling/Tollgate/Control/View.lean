import Tollgate.Control.Cycle

/-!
# What operators see

The registries and reports as JSON values. Moments of the real clock are shown by the
stamp that the caller gives.
-/

namespace Tollgate.Control

open Json (Value)
open Policy

def instantJson (i : Option Time.Instant) : Value :=
  .ofText? (i.map Time.Instant.text)

def RejectedRow.toJson (r : RejectedRow) : Value :=
  .table
    [("name", .text r.row.name), ("category", .text r.row.category.name),
     ("error", .text r.error.message)]

def Report.toJson (stamp : String) (r : Report) : Value :=
  .table
    [("rows", .ofNat r.rows), ("concurrency", .ofNat r.concurrency), ("mocks", .ofNat r.mocks),
     ("blocked_ips", .ofNat r.blockedIps), ("interceptors", .ofNat r.interceptors),
     ("request_limits", .ofNat r.requestLimits), ("email_groups", .ofNat r.emailGroups),
     ("mock_time", instantJson r.mockTime), ("signing_keys", .ofNat r.signingKeys),
     ("default_signing_keys", .boolean r.defaultSigningKeys),
     ("rejected", .list (r.rejected.map RejectedRow.toJson)),
     ("refreshed_at", .text stamp), ("duration_ms", .ofNat 0)]

def gateJson (g : GateSnapshot) : Value :=
  .table
    [("route", .text g.route.text), ("current", .ofNat g.current), ("ceiling", .ofNat g.ceiling),
     ("rate", .text g.rate)]

def statsJson (stats : List (Route.Key × Nat)) : Value :=
  .table (stats.map fun (key, n) => (key.text, .ofNat n))

def mockJson (m : Mock) : Value :=
  .table
    [("route", .text m.route.text), ("url", .text m.url), ("status", .ofNat m.status),
     ("contentType", .text m.contentType), ("response", .text m.response),
     ("delaySeconds", .ofNat m.delaySeconds)]

def interceptorJson (i : Interceptor) : Value :=
  .table [("before", .text i.before), ("after", .text i.after)]

def interceptorsJson (list : List (Route.Key × Interceptor)) : Value :=
  .table (list.map fun (key, i) => (key.text, interceptorJson i))

def limitJson (l : LimitStatus) : Value :=
  .table [("name", .text l.name), ("max", .ofNat l.max), ("in_flight", .ofNat l.inFlight)]

def alarmJson (stamp : String) (a : Alarm) : Value :=
  .table
    [("kind", .text a.kind.label), ("source", .text a.source), ("message", .text a.message),
     ("raisedAt", .text stamp)]

def noticeJson (n : Notice) : Value :=
  .table
    [("kind", .text n.alarm.kind.name), ("source", .text n.alarm.source),
     ("receivers", .text (Text.quotedList n.receivers)), ("message", .text n.message)]

def countersJson (cs : Counters) : Value :=
  .table (cs.map fun (c, n) => (c.text, .ofNat n))

def overviewJson (intervalSecs : Nat) (c : Control) : Value :=
  let p := c.plane
  .table
    [("refreshed", .boolean p.refreshedAt.isSome), ("running", .boolean c.running),
     ("interval_secs", .ofNat intervalSecs),
     ("gates", .list (p.gates.snapshot.map gateJson)),
     ("mocks", .list (p.mocks.list.map mockJson)),
     ("blocked", .ofTexts p.blocked.entries),
     ("interceptors", interceptorsJson p.interceptors.list),
     ("limits", .list (p.limits.status.map limitJson)),
     ("mock_time", instantJson p.mockedTime),
     ("keys", .ofTexts p.signingKeys.current),
     ("alarm_emails", .ofTexts (p.emails.recipients "alarm")),
     ("alarms", .ofNat c.center.recent.length)]

end Tollgate.Control
