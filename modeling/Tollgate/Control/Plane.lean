import Tollgate.Policy.Batch
import Tollgate.Policy.BlockList
import Tollgate.Policy.Gate
import Tollgate.Policy.Interceptor
import Tollgate.Policy.Mock
import Tollgate.Policy.RequestLimits
import Tollgate.Policy.Settings

/-!
# The control plane

The control plane holds every registry that requests are checked against. A refresh
publishes a batch of rows: each category replaces what its registry held before,
and rows that cannot be read are set aside with the reason.
-/

namespace Tollgate.Control

open Policy
open Time (Instant)

structure Plane where
  gates : Gates
  mocks : Mocks
  blocked : BlockList
  interceptors : Interceptors
  limits : RequestLimits
  mockedTime : Option Instant
  signingKeys : SigningKeys
  emails : Emails
  /-- The clock reading at the last refresh that succeeded. -/
  refreshedAt : Option Nat
  deriving DecidableEq, Repr

structure RejectedRow where
  row : Row
  error : PolicyError
  deriving DecidableEq, Repr

/-- What a refresh put in force. -/
structure Report where
  rows : Nat
  concurrency : Nat
  mocks : Nat
  blockedIps : Nat
  interceptors : Nat
  requestLimits : Nat
  emailGroups : Nat
  mockTime : Option Instant
  signingKeys : Nat
  defaultSigningKeys : Bool
  rejected : List RejectedRow
  refreshedAt : Nat
  deriving DecidableEq, Repr

namespace Plane

def ofRoutes (routes : List Route.Key) (defaultKeys : List String) : Plane :=
  ⟨.ofRoutes routes, [], .empty, [], .empty, none, .ofDefaults defaultKeys, [], none⟩

/-- The rows at the refused positions of an outcome. -/
def rejectedAt (rows : List Row) (rejected : List (Nat × PolicyError)) : List RejectedRow :=
  rejected.filterMap fun (i, e) => rows[i]?.map fun r => ⟨r, e⟩

def readRows (read : String → Except PolicyError α) : List Row → List α × List RejectedRow
  | [] => ([], [])
  | r :: rest =>
    let (values, rejected) := readRows read rest
    match read r.data with
    | .ok a => (a :: values, rejected)
    | .error e => (values, ⟨r, e⟩ :: rejected)

/-- The comma pieces of the rows that are not blank, each with its row. -/
def blockItems (rows : List Row) : List (Row × String) :=
  rows.flatMap fun r => (Text.commaItems r.data).map fun item => (r, item)

/-- A plane after one category was published, with the rows set aside and the count
for the report. -/
structure Stage where
  plane : Plane
  rejected : List RejectedRow
  count : Nat

/-- Publishes ceilings and rates at a clock reading; routes without a row lose theirs. -/
def publishGates (p : Plane) (now : Nat) (rows : List Row) : Stage :=
  let (entries, rejected) := readRows GateSpec.ofData rows
  let batch := Table.ofEntries entries
  ⟨{ p with gates := p.gates.apply now batch }, rejected,
    batch.length - (p.gates.unknown batch).length⟩

def publishMocks (p : Plane) (rows : List Row) : Stage :=
  let (mocks, outcome) := Mocks.ofRows (rows.map Row.data)
  ⟨{ p with mocks := mocks }, rejectedAt rows outcome.rejected, mocks.length⟩

def publishBlocked (p : Plane) (rows : List Row) : Stage :=
  let items := blockItems rows
  let (list, outcome) := BlockList.ofItems (items.map Prod.snd)
  ⟨{ p with blocked := list }, rejectedAt (items.map Prod.fst) outcome.rejected, outcome.applied⟩

def publishInterceptors (p : Plane) (rows : List Row) : Stage :=
  let (interceptors, outcome) := Interceptors.ofRows (rows.map Row.data)
  ⟨{ p with interceptors := interceptors }, rejectedAt rows outcome.rejected, interceptors.length⟩

def publishLimits (p : Plane) (rows : List Row) : Stage :=
  let (limits, rejected) := readRows RequestLimit.ofData rows
  ⟨{ p with limits := p.limits.replace limits }, rejected, limits.length⟩

def publishEmails (p : Plane) (rows : List Row) : Stage :=
  let (groups, rejected) := readRows EmailGroup.ofData rows
  ⟨{ p with emails := Emails.ofGroups groups }, rejected, groups.length⟩

/-- A plane after the clock was set, with the time to report and the row set aside. -/
structure Timed where
  plane : Plane
  reported : Option Instant
  rejected : List RejectedRow

/-- Pins the clock to the newest row's time; without a readable one it runs freely. -/
def publishMockTime (p : Plane) : Option Row → Timed
  | none => ⟨{ p with mockedTime := none }, none, []⟩
  | some r =>
    match MockTime.ofData r.data with
    | .ok instant => ⟨{ p with mockedTime := some instant }, some instant, []⟩
    | .error e => ⟨{ p with mockedTime := none }, none, [⟨r, e⟩]⟩

def publishSigningKeys (p : Plane) (row : Option Row) : Plane × Bool :=
  let keys := row.map fun r => SigningKeys.ofData r.data
  ({ p with signingKeys := p.signingKeys.apply keys }, SigningKeys.isDefault keys)

/-- What publishing a whole batch gives. Rows of the categories up to the e-mail
groups are rejected while the old groups stand, later ones under the new groups. -/
structure Published where
  plane : Plane
  early : List RejectedRow
  late : List RejectedRow
  report : Report

/-- Publishes the rows of a fetch at a clock reading. -/
def publish (p : Plane) (now : Nat) (fetched : List Row) : Published :=
  let rows := Row.newestFirst fetched
  let batch := Batch.ofRows rows
  let gates := p.publishGates now batch.routerConcurrency
  let mocks := gates.plane.publishMocks batch.router
  let blocked := mocks.plane.publishBlocked batch.blockIp
  let interceptors := blocked.plane.publishInterceptors batch.interceptor
  let limits := interceptors.plane.publishLimits batch.requestConcurrency
  let emails := limits.plane.publishEmails batch.email
  let timed := emails.plane.publishMockTime batch.mockTime
  let (keyed, isDefault) := timed.plane.publishSigningKeys batch.signedKey
  let early := gates.rejected ++ mocks.rejected ++ blocked.rejected ++ interceptors.rejected ++
    limits.rejected ++ emails.rejected
  let plane := { keyed with refreshedAt := some now }
  ⟨plane, early, timed.rejected,
    { rows := rows.length
      concurrency := gates.count
      mocks := mocks.count
      blockedIps := blocked.count
      interceptors := interceptors.count
      requestLimits := limits.count
      emailGroups := emails.count
      mockTime := timed.reported
      signingKeys := plane.signingKeys.current.length
      defaultSigningKeys := isDefault
      rejected := early ++ timed.rejected
      refreshedAt := now }⟩

end Plane

end Tollgate.Control
