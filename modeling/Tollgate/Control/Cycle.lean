import Tollgate.Control.Counter
import Tollgate.Control.Plane
import Tollgate.Store.Error

/-!
# Refresh cycles

A cycle begins, fetches the rows, and ends by publishing them; at most one runs at a
time. A fetch that fails leaves the policy as it was. Rejected rows and failed
fetches raise alarms, and everything is counted.
-/

namespace Tollgate

/-- The control plane with what is known about its refreshes. -/
structure Control where
  plane : Control.Plane
  center : Control.AlarmCenter
  /-- The log lines of alarms, oldest first. -/
  notices : List Control.Notice
  counters : Control.Counters
  /-- Whether a cycle has begun and not ended. -/
  running : Bool
  lastReport : Option Control.Report
  deriving DecidableEq, Repr

namespace Control

open Policy (Row)
open Store (StoreError)

inductive RefreshError where
  | store (error : StoreError)
  | inProgress
  deriving DecidableEq, Repr

def RefreshError.message : RefreshError → String
  | .store error => error.message
  | .inProgress => "a refresh cycle is already in progress"

def ofPlane (plane : Plane) (center : AlarmCenter) : Control :=
  ⟨plane, center, [], [], false, none⟩

def count (c : Control) (counter : Counter) : Control :=
  { c with counters := c.counters.raise counter }

def alarm (c : Control) (emails : Policy.Emails) (a : Alarm) : Control :=
  { c with
    center := c.center.raise a
    notices := c.notices ++ [c.center.notice emails a]
    counters := c.counters.raise (.alarm a.kind) }

def rowAlarm (r : RejectedRow) : Alarm :=
  ⟨.malformedRow, r.row.name, r.row.category.name ++ ": " ++ r.error.message⟩

def reject (emails : Policy.Emails) (c : Control) (r : RejectedRow) : Control :=
  (c.count (.rejectedRow r.row.category)).alarm emails (rowAlarm r)

def beginCycle (c : Control) : Option Control :=
  if c.running then none else some { c with running := true }

def cancelCycle (c : Control) : Control :=
  { c with running := false }

def cycleEnd (r : Report) : CycleEnd :=
  if r.rejected.isEmpty then .ok else .incomplete

def endCycle (c : Control) (now : Nat) :
    Except StoreError (List Row) → Except RefreshError Report × Control
  | .error e =>
    let c := c.alarm c.plane.emails ⟨.storeUnavailable, "store", e.message⟩
    let c := (c.count (.refreshed .storeError)).count .refreshDuration
    (.error (.store e), { c with running := false })
  | .ok rows =>
    let published := c.plane.publish now rows
    let c := published.early.foldl (reject c.plane.emails) c
    let c := published.late.foldl (reject published.plane.emails) c
    let c := (c.count (.refreshed (cycleEnd published.report))).count .refreshDuration
    (.ok published.report,
      { c with
        plane := published.plane
        running := false
        lastReport := some published.report })

/-- A whole cycle whose fetch does not wait. -/
def refresh (c : Control) (now : Nat) (fetched : Except StoreError (List Row)) :
    Except RefreshError Report × Control :=
  match c.beginCycle with
  | none => (.error .inProgress, c)
  | some c => c.endCycle now fetched

end Control

end Tollgate
