import Tollgate.Policy.Settings

/-!
# Alarms

Operators are told of failures by alarms. An alarm goes to the recipients of one
e-mail group as they are when it is raised, and the most recent ones are kept.
-/

namespace Tollgate.Control

inductive AlarmKind where
  /-- A refresh could not read the store. -/
  | storeUnavailable
  /-- A row could not be applied. -/
  | malformedRow
  deriving DecidableEq, Repr

namespace AlarmKind

def name : AlarmKind → String
  | .storeUnavailable => "store_unavailable"
  | .malformedRow => "malformed_row"

def label : AlarmKind → String
  | .storeUnavailable => "storeUnavailable"
  | .malformedRow => "malformedRow"

end AlarmKind

structure Alarm where
  kind : AlarmKind
  /-- The name of the row, or of the part that failed. -/
  source : String
  message : String
  deriving DecidableEq, Repr

structure Notice where
  alarm : Alarm
  receivers : List String
  deriving DecidableEq, Repr

def Notice.message (n : Notice) : String :=
  "Governance alarm: " ++ n.alarm.message

/-- Where alarms go. -/
structure AlarmCenter where
  group : String
  /-- How many alarms are kept, at least one. -/
  capacity : Nat
  /-- The most recent alarms, oldest first. -/
  recent : List Alarm
  deriving DecidableEq, Repr

namespace AlarmCenter

def ofCapacity (group : String) (capacity : Nat) : AlarmCenter :=
  ⟨group, max capacity 1, []⟩

/-- Keeps an alarm; a full history loses its oldest one. -/
def raise (c : AlarmCenter) (a : Alarm) : AlarmCenter :=
  let kept := if c.recent.length = c.capacity then c.recent.tail else c.recent
  { c with recent := kept ++ [a] }

def notice (c : AlarmCenter) (emails : Policy.Emails) (a : Alarm) : Notice :=
  ⟨a, emails.recipients c.group⟩

end AlarmCenter

end Tollgate.Control
