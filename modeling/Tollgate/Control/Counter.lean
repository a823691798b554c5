import Tollgate.Control.Alarm
import Tollgate.Policy.Row
import Tollgate.Route.Key

/-!
# Counters

What happens is counted, each kind of event under its name and labels.
-/

namespace Tollgate.Control

/-- Why a request was turned away. -/
inductive Refusal where
  | blockedIp
  | overLimit
  deriving DecidableEq, Repr

def Refusal.name : Refusal → String
  | .blockedIp => "blocked_ip"
  | .overLimit => "over_limit"

/-- How a refresh ended. -/
inductive CycleEnd where
  | ok
  | incomplete
  | storeError
  deriving DecidableEq, Repr

def CycleEnd.name : CycleEnd → String
  | .ok => "ok"
  | .incomplete => "partial"
  | .storeError => "store_error"

inductive Counter where
  | refused (reason : Refusal) (route : Route.Key)
  | mocked (route : Route.Key)
  | refreshed (how : CycleEnd)
  | refreshDuration
  | rejectedRow (category : Policy.Category)
  | alarm (kind : AlarmKind)
  deriving DecidableEq, Repr

namespace Counter

def name : Counter → String
  | .refused .. => "governor_rejections_total"
  | .mocked _ => "governor_mock_responses_total"
  | .refreshed _ => "governor_refresh_total"
  | .refreshDuration => "governor_refresh_duration_seconds"
  | .rejectedRow _ => "governor_policy_rejected_rows_total"
  | .alarm _ => "governor_alarms_total"

def labels : Counter → List (String × String)
  | .refused reason route => [("reason", reason.name), ("route", route.text)]
  | .mocked route => [("route", route.text)]
  | .refreshed how => [("outcome", how.name)]
  | .refreshDuration => []
  | .rejectedRow category => [("category", category.name)]
  | .alarm kind => [("kind", kind.name)]

def text (c : Counter) : String :=
  c.name ++ "\x7b" ++ ",".intercalate (c.labels.map fun (k, v) => k ++ "=" ++ v) ++ "\x7d"

end Counter

abbrev Counters := List (Counter × Nat)

namespace Counters

def value (cs : Counters) (c : Counter) : Nat :=
  (cs.lookup c).getD 0

def raise : Counters → Counter → Counters
  | [], c => [(c, 1)]
  | (d, n) :: rest, c => if d = c then (d, n + 1) :: rest else (d, n) :: raise rest c

end Counters

end Tollgate.Control
