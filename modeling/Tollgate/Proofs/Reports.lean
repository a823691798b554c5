import Tollgate.Proofs.Newest

/-!
# What a report tells

The counts of a report are the sizes of what a refresh put in force: the registered routes
that a row governs, the routes with mocks and interceptors, the entries of the block list,
the signing keys, and the mocked time. The limits of outbound requests and the e-mail groups
are counted as rows: rows that name one thing twice are counted twice, though one of them is
in force.
-/

namespace Tollgate

open Policy

-- ---------------------------------------------------------------------------
-- Gates

namespace Policy.Gates

/-- The entries of a batch less its unknown routes are those of routes with gates. -/
theorem numbers_known (gates : Gates) (entries : List (Route.Key × GateSpec)) :
    let batch := Table.ofEntries entries
    Numbers (fun key => key ∈ gates.routes ∧ (batch.lookup key).isSome)
      (batch.length - (gates.unknown batch).length) := by
  intro batch
  let keys := batch.map Prod.fst
  refine ⟨keys.filter fun key => (gates.lookup key).isSome,
    (Table.nodup_ofEntries entries).filter _, fun key => ?_, ?_⟩
  · have known : key ∈ gates.routes ↔ (gates.lookup key).isSome :=
      mem_routes_iff.trans Option.isSome_iff_exists.symm
    have said : (batch.lookup key).isSome ↔ key ∈ keys := Table.isSome_lookup_iff
    exact List.mem_filter.trans ((and_congr said.symm known.symm).trans and_comm)
  · have split := keys.length_eq_length_filter_add fun key => (gates.lookup key).isSome
    have unknown : gates.unknown batch = keys.filter fun key => !(gates.lookup key).isSome :=
      List.filter_congr fun key _ => by simp
    have length : keys.length = batch.length := List.length_map _
    rw [unknown]
    omega

end Policy.Gates

-- ---------------------------------------------------------------------------
-- Reports

namespace Control

/-- A report tells what is in force on a plane. What it tells of limits and groups is the
number of rows that were read. -/
structure Report.Tells (r : Report) (fetched : List Row) (p : Plane) : Prop where
  concurrency :
    Numbers (fun key => key ∈ p.gates.routes ∧
      ∃ spec, Decided GateSpec.assign? .routerConcurrency fetched key (some spec)) r.concurrency
  mocks : Numbers (fun key => (p.mocks.lookup key).isSome) r.mocks
  blockedIps : r.blockedIps = p.blocked.entries.length
  interceptors : Numbers (fun key => (p.interceptors.lookup key).isSome) r.interceptors
  mockTime : r.mockTime = p.mockedTime
  signingKeys : r.signingKeys = p.signingKeys.current.length
  limitsRead : r.requestLimits = (readIn RequestLimit.ofData fetched .requestConcurrency).length
  requestLimits :
    Numbers (fun name => (p.limits.limit? name).isSome) r.requestLimits ↔
      ((readIn RequestLimit.ofData fetched .requestConcurrency).map RequestLimit.name).Nodup
  groupsRead : r.emailGroups = (readIn EmailGroup.ofData fetched .email).length
  emailGroups :
    Numbers (fun name => (p.emails.lookup name).isSome) r.emailGroups ↔
      ((readIn EmailGroup.ofData fetched .email).map EmailGroup.name).Nodup
  refreshedAt : p.refreshedAt = some r.refreshedAt

variable (p : Plane) (now : Nat) (fetched : List Row)

theorem isSome_specs_iff {key : Route.Key} :
    ((Table.ofEntries (contentOf fetched).specs).lookup key).isSome ↔
      ∃ spec, Decided GateSpec.assign? .routerConcurrency fetched key (some spec) := by
  have specs : (contentOf fetched).specs =
      entriesIn GateSpec.assign? fetched .routerConcurrency := rfl
  simp only [Option.isSome_iff_exists, decided_iff_lookup, specs]

theorem limits_publish :
    (p.publish now fetched).plane.limits.limits =
      Table.ofEntries ((readIn RequestLimit.ofData fetched .requestConcurrency).map
        fun l => (l.name, l.max)) := by
  rw [Plane.publish_putOn]
  rfl

theorem tells_publish :
    (p.publish now fetched).report.Tells fetched (p.publish now fetched).plane := by
  rw [Plane.publish_reportOn, Plane.publish_putOn]
  refine
    { concurrency := ?concurrency
      mocks := Table.numbers_ofEntries _
      blockedIps := ?blockedIps
      interceptors := Table.numbers_ofEntries _
      mockTime := rfl
      signingKeys := rfl
      limitsRead := rfl
      requestLimits := ?requestLimits
      groupsRead := rfl
      emailGroups := ?emailGroups
      refreshedAt := rfl }
  case concurrency =>
    refine (Gates.numbers_known p.gates (contentOf fetched).specs).congr fun key => ?_
    have routes : ((contentOf fetched).putOn p now).gates.routes = p.gates.routes :=
      Gates.routes_apply p.gates now _
    rw [routes, isSome_specs_iff]
  case blockedIps =>
    have entries : ((contentOf fetched).putOn p now).blocked.entries =
        (contentOf fetched).items.map Prod.fst := (contentOf fetched).entries_blocked
    rw [entries, List.length_map]
    rfl
  case requestLimits =>
    have limits := Table.numbers_ofEntries_iff
      ((contentOf fetched).limits.map fun l => (l.name, l.max))
    rw [List.length_map, List.map_map] at limits
    exact limits
  case emailGroups =>
    have groups := Table.numbers_ofEntries_iff
      ((contentOf fetched).groups.map fun g => (g.name, g.list))
    rw [List.length_map, List.map_map] at groups
    exact groups

/-- After every cycle that fetched rows the report tells what is in force, whatever was
before. Limits and groups are numbered as they are in force exactly if no two rows that can
be read have one name. -/
theorem cycle_reported (c : Control) (now : Nat) (fetched : List Row) :
    let ended := c.endCycle now (.ok fetched)
    ∃ r, ended.1 = .ok r ∧ ended.2.lastReport = some r ∧ r.Tells fetched ended.2.plane := by
  obtain ⟨told, plane, kept⟩ := endCycle_ok c now fetched
  refine ⟨_, told, kept, ?_⟩
  rw [plane]
  exact tells_publish c.plane now fetched

def limitRow (name : String) (max : Nat) : Row :=
  ⟨name, .requestConcurrency, .enabled,
    "\x7b\"name\":\"db\",\"max\":" ++ Text.ofNat max ++ "\x7d", ⟨0, 0⟩, ⟨9, 0⟩, ⟨0, 0⟩⟩

/-- Two rows limit one name: one limit is in force, and two are reported. -/
theorem repeated_limit_counted :
    let c := ofPlane (.ofRoutes [] ["key"]) (.ofCapacity "alarm" 1)
    let ended := c.endCycle 0 (.ok [limitRow "newer" 1, limitRow "older" 2])
    ∃ r, ended.1 = .ok r ∧ r.requestLimits = 2 ∧ ended.2.plane.limits.limits = [("db", 1)] ∧
      ¬Numbers (fun name => (ended.2.plane.limits.limit? name).isSome) r.requestLimits := by
  intro c ended
  have sorted : Row.newestFirst [limitRow "newer" 1, limitRow "older" 2] =
      [limitRow "newer" 1, limitRow "older" 2] := List.mergeSort_of_pairwise (by decide +kernel)
  have read : readIn RequestLimit.ofData [limitRow "newer" 1, limitRow "older" 2]
      .requestConcurrency = [⟨"db", 1⟩, ⟨"db", 2⟩] := by
    rw [readIn, rowsIn, sorted]
    decide +kernel
  obtain ⟨told, plane, -⟩ := endCycle_ok c 0 [limitRow "newer" 1, limitRow "older" 2]
  have tells := tells_publish c.plane 0 [limitRow "newer" 1, limitRow "older" 2]
  refine ⟨_, told, ?_, ?_, ?_⟩
  · rw [tells.limitsRead, read]
    rfl
  · rw [plane, limits_publish, read]
    rfl
  · rw [plane, tells.requestLimits, read]
    decide

end Control

end Tollgate
