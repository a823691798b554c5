import Tollgate.Control.Cycle
import Tollgate.Proofs.Gates

/-!
# What a refresh puts in force

The enforced policy of a plane is all that requests are checked against, apart from
the requests in flight and the tokens taken. Publishing rows on faithful gates puts
the policy of the rows in force: it depends on the rows, the routes and the configured
keys, and on nothing that was in force before. What no row names is not governed.
-/

namespace Tollgate.Control

open Policy
open Time (Instant)

/-- All that requests are checked against. -/
structure Enforced where
  gates : List (Route.Key × GateRule)
  mocks : Mocks
  blocked : BlockList
  interceptors : Interceptors
  limits : Table String Nat
  emails : Emails
  mockedTime : Option Instant
  signingKeys : List String
  deriving DecidableEq, Repr

def Plane.enforced (p : Plane) : Enforced where
  gates := p.gates.rules
  mocks := p.mocks
  blocked := p.blocked
  interceptors := p.interceptors
  limits := p.limits.limits
  emails := p.emails
  mockedTime := p.mockedTime
  signingKeys := p.signingKeys.current

-- ---------------------------------------------------------------------------
-- The policy of rows

def batchOf (fetched : List Row) : Batch :=
  Batch.ofRows (Row.newestFirst fetched)

def specsOf (fetched : List Row) : Table Route.Key GateSpec :=
  Table.ofEntries (Plane.readRows GateSpec.ofData (batchOf fetched).routerConcurrency).1

def instantOf? (row : Option Row) : Option Instant :=
  row.bind fun r => (MockTime.ofData r.data).toOption

def keysOf? (row : Option Row) : Option (List String) :=
  row.map fun r => SigningKeys.ofData r.data

/-- The policy that the rows of a fetch ask for at the given routes, with the keys to
fall back to. -/
def Enforced.ofRows (routes : List Route.Key) (defaults : List String) (fetched : List Row) :
    Enforced where
  gates := routes.map fun key => (key, .ofSpec? ((specsOf fetched).lookup key))
  mocks := (Mocks.ofRows ((batchOf fetched).router.map Row.data)).1
  blocked := (BlockList.ofItems ((Plane.blockItems (batchOf fetched).blockIp).map Prod.snd)).1
  interceptors := (Interceptors.ofRows ((batchOf fetched).interceptor.map Row.data)).1
  limits := Table.ofEntries
    ((Plane.readRows RequestLimit.ofData (batchOf fetched).requestConcurrency).1.map
      fun l => (l.name, l.max))
  emails := Emails.ofGroups (Plane.readRows EmailGroup.ofData (batchOf fetched).email).1
  mockedTime := instantOf? (batchOf fetched).mockTime
  signingKeys := ((SigningKeys.ofDefaults defaults).apply (keysOf? (batchOf fetched).signedKey)).current

/-- The policy that governs nothing: no ceilings, no rates, no rows, the configured keys. -/
def Enforced.nothing (routes : List Route.Key) (defaults : List String) : Enforced where
  gates := routes.map fun key => (key, .free)
  mocks := []
  blocked := .empty
  interceptors := []
  limits := []
  emails := []
  mockedTime := none
  signingKeys := defaults

-- ---------------------------------------------------------------------------
-- Publishing

namespace Plane

theorem publishMockTime_plane (p : Plane) (row : Option Row) :
    (p.publishMockTime row).plane = { p with mockedTime := instantOf? row } := by
  cases row with
  | none => rfl
  | some r =>
    simp only [publishMockTime, instantOf?, Option.bind_some]
    cases MockTime.ofData r.data <;> rfl

theorem publishMockTime_reported (p : Plane) (row : Option Row) :
    (p.publishMockTime row).reported = instantOf? row := by
  cases row with
  | none => rfl
  | some r =>
    simp only [publishMockTime, instantOf?, Option.bind_some]
    cases MockTime.ofData r.data <;> rfl

theorem publishSigningKeys_fst (p : Plane) (row : Option Row) :
    (p.publishSigningKeys row).1 = { p with signingKeys := p.signingKeys.apply (keysOf? row) } :=
  rfl

variable (p : Plane) (now : Nat) (fetched : List Row)

theorem publish_plane :
    (p.publish now fetched).plane =
      { gates := p.gates.apply now (specsOf fetched)
        mocks := (Mocks.ofRows ((batchOf fetched).router.map Row.data)).1
        blocked := (BlockList.ofItems ((blockItems (batchOf fetched).blockIp).map Prod.snd)).1
        interceptors := (Interceptors.ofRows ((batchOf fetched).interceptor.map Row.data)).1
        limits := p.limits.replace
          (readRows RequestLimit.ofData (batchOf fetched).requestConcurrency).1
        mockedTime := instantOf? (batchOf fetched).mockTime
        signingKeys := p.signingKeys.apply (keysOf? (batchOf fetched).signedKey)
        emails := Emails.ofGroups (readRows EmailGroup.ofData (batchOf fetched).email).1
        refreshedAt := some now } := by
  simp only [publish, publishSigningKeys_fst, publishMockTime_plane]
  rfl

theorem publish_gates :
    (p.publish now fetched).plane.gates = p.gates.apply now (specsOf fetched) := by
  rw [publish_plane]

/-- The keys in force come from the row or from the configuration, never from the keys
that were in force before. -/
theorem current_apply (s : SigningKeys) (keys : Option (List String)) :
    (s.apply keys).current = ((SigningKeys.ofDefaults s.defaults).apply keys).current := by
  unfold SigningKeys.apply
  split <;> rfl

theorem defaults_apply (s : SigningKeys) (keys : Option (List String)) :
    (s.apply keys).defaults = s.defaults := by
  unfold SigningKeys.apply
  split <;> rfl

/-- A refresh of faithful gates puts the policy of its rows in force. -/
theorem enforced_publish (h : p.gates.Faithful) :
    (p.publish now fetched).plane.enforced =
      .ofRows p.gates.routes p.signingKeys.defaults fetched := by
  rw [publish_plane]
  simp only [enforced, Enforced.ofRows, RequestLimits.replace]
  rw [Gates.rules_apply now _ h, current_apply]

/-- Publishing no rows leaves nothing in force, whatever the gates were like before. -/
theorem enforced_publish_nil :
    (p.publish now []).plane.enforced = .nothing p.gates.routes p.signingKeys.defaults := by
  have batch : batchOf [] = Batch.ofRows [] := congrArg Batch.ofRows List.mergeSort_nil
  rw [publish_plane]
  simp only [enforced, specsOf, batch]
  exact congrArg (fun gates => { Enforced.nothing p.gates.routes p.signingKeys.defaults with
    gates := gates }) (p.gates.rules_apply_nil now)

/-- What neither requests nor refreshes change: the routes that have gates, the
configured keys, and that the gates are faithful. -/
structure Grounded (routes : List Route.Key) (defaults : List String) (p : Plane) : Prop where
  routes : p.gates.routes = (Gates.ofRoutes routes).routes
  defaults : p.signingKeys.defaults = defaults
  faithful : p.gates.Faithful

theorem grounded_ofRoutes (routes : List Route.Key) (defaults : List String) :
    (ofRoutes routes defaults).Grounded routes defaults :=
  ⟨rfl, rfl, Gates.faithful_ofRoutes routes⟩

variable {p} {routes : List Route.Key} {defaults : List String}

theorem Grounded.publish (h : p.Grounded routes defaults) :
    (p.publish now fetched).plane.Grounded routes defaults := by
  rw [publish_plane]
  refine ⟨?_, ?_, ?_⟩
  · exact (Gates.routes_apply p.gates now _).trans h.routes
  · exact (defaults_apply p.signingKeys _).trans h.defaults
  · exact h.faithful.apply now _

end Plane

-- ---------------------------------------------------------------------------
-- What no row names

variable {α : Type}

def Says (fetched : List Row) (category : Category) (read : String → Except PolicyError α)
    (a : α) : Prop :=
  ∃ r ∈ fetched, r.category = category ∧ read r.data = .ok a

theorem Plane.mem_readRows {read : String → Except PolicyError α} {rows : List Row} {a : α}
    (h : a ∈ (readRows read rows).1) : ∃ r ∈ rows, read r.data = .ok a := by
  induction rows with
  | nil => simp [readRows] at h
  | cons first rest ih =>
    simp only [readRows] at h
    split at h
    next value found =>
      rcases List.mem_cons.mp h with rfl | later
      · exact ⟨first, List.mem_cons_self, found⟩
      · obtain ⟨r, mem, said⟩ := ih later
        exact ⟨r, List.mem_cons_of_mem _ mem, said⟩
    next _ _ =>
      obtain ⟨r, mem, said⟩ := ih h
      exact ⟨r, List.mem_cons_of_mem _ mem, said⟩

theorem says_of_mem_rowsOf {fetched : List Row} {category : Category}
    {read : String → Except PolicyError α} {a : α} {r : Row}
    (h : r ∈ (batchOf fetched).rowsOf category) (said : read r.data = .ok a) :
    Says fetched category read a := by
  obtain ⟨mem, named⟩ := Batch.mem_of_mem_rowsOf h
  exact ⟨r, List.mem_mergeSort.mp mem, named, said⟩

theorem says_of_mem_readRows {fetched : List Row} {category : Category}
    {read : String → Except PolicyError α} {a : α}
    (h : a ∈ (Plane.readRows read ((batchOf fetched).rowsOf category)).1) :
    Says fetched category read a := by
  obtain ⟨r, mem, said⟩ := Plane.mem_readRows h
  exact says_of_mem_rowsOf mem said

theorem says_of_mem_accepted {fetched : List Row} {category : Category}
    {read : String → Except PolicyError α} {a : α}
    (h : a ∈ accepted ((((batchOf fetched).rowsOf category).map Row.data).map read)) :
    Says fetched category read a := by
  obtain ⟨_, data, said⟩ := List.mem_map.mp (mem_accepted.mp h)
  obtain ⟨r, mem, rfl⟩ := List.mem_map.mp data
  exact says_of_mem_rowsOf mem said

structure Enforced.NothingElse (routes : List Route.Key) (defaults : List String)
    (fetched : List Row) (e : Enforced) : Prop where
  gates : ∀ key ∈ routes, (∀ spec, ¬Says fetched .routerConcurrency GateSpec.ofData (key, spec)) →
    e.gates.lookup key = some .free
  mocks : ∀ key, (∀ m : Mock, m.route = key → ¬Says fetched .router Mock.ofData m) →
    e.mocks.lookup key = none
  interceptors : ∀ key,
    (∀ i, ¬Says fetched .httpServerInterceptor Interceptor.ofData (some (key, i))) →
    e.interceptors.lookup key = none
  limits : ∀ name,
    (∀ max, ¬Says fetched .requestConcurrency RequestLimit.ofData ⟨name, max⟩) →
    e.limits.lookup name = none
  emails : ∀ name, (∀ list, ¬Says fetched .email EmailGroup.ofData ⟨name, list⟩) →
    e.emails.lookup name = none
  mockedTime : (∀ instant, ¬Says fetched .mockTime MockTime.ofData instant) → e.mockedTime = none
  signingKeys : (∀ r ∈ fetched, r.category ≠ .signedKey) → e.signingKeys = defaults

theorem lookup_map_self (routes : List Route.Key) (f : Route.Key → α) {key : Route.Key}
    (h : key ∈ routes) : (routes.map fun key => (key, f key)).lookup key = some (f key) := by
  induction routes with
  | nil => simp at h
  | cons route rest ih =>
    rw [List.map_cons, lookup_cons_ite]
    split
    next same => rw [same]
    next other => exact ih ((List.mem_cons.mp h).resolve_left other)

theorem nothingElse_ofRows (routes : List Route.Key) (defaults : List String)
    (fetched : List Row) :
    (Enforced.ofRows routes defaults fetched).NothingElse routes defaults fetched where
  gates key registered silent := by
    have absent : (specsOf fetched).lookup key = none :=
      Table.lookup_ofEntries_eq_none fun spec mem => silent spec (says_of_mem_readRows mem)
    exact (lookup_map_self routes _ registered).trans (by rw [absent]; rfl)
  mocks key silent := by
    refine Table.lookup_ofEntries_eq_none fun m mem => ?_
    obtain ⟨m', read, pair⟩ := List.mem_map.mp mem
    obtain ⟨route, rfl⟩ := Prod.mk.inj pair
    exact silent m' route (says_of_mem_accepted read)
  interceptors key silent := by
    refine Table.lookup_ofEntries_eq_none fun i mem => ?_
    obtain ⟨entry, read, found⟩ := List.mem_filterMap.mp mem
    obtain rfl : entry = some (key, i) := found
    exact silent i (says_of_mem_accepted read)
  limits name silent := by
    refine Table.lookup_ofEntries_eq_none fun max mem => ?_
    obtain ⟨l, read, pair⟩ := List.mem_map.mp mem
    obtain ⟨rfl, rfl⟩ := Prod.mk.inj pair
    exact silent l.max (says_of_mem_readRows read)
  emails name silent := by
    refine Table.lookup_ofEntries_eq_none fun list mem => ?_
    obtain ⟨g, read, pair⟩ := List.mem_map.mp mem
    obtain ⟨rfl, rfl⟩ := Prod.mk.inj pair
    exact silent g.list (says_of_mem_readRows read)
  mockedTime silent := by
    change instantOf? (batchOf fetched).mockTime = none
    cases row : (batchOf fetched).mockTime with
    | none => rfl
    | some r =>
      cases read : MockTime.ofData r.data with
      | error e => simp [instantOf?, read, Except.toOption]
      | ok instant =>
        have mem : r ∈ (batchOf fetched).rowsOf .mockTime := by simp [Batch.rowsOf, row]
        exact absurd (says_of_mem_rowsOf mem read) (silent instant)
  signingKeys silent := by
    change ((SigningKeys.ofDefaults defaults).apply (keysOf? (batchOf fetched).signedKey)).current = _
    cases row : (batchOf fetched).signedKey with
    | none => rfl
    | some r =>
      have mem : r ∈ (batchOf fetched).rowsOf .signedKey := by simp [Batch.rowsOf, row]
      obtain ⟨fetched, named⟩ := Batch.mem_of_mem_rowsOf mem
      exact absurd named (silent r (List.mem_mergeSort.mp fetched))

-- ---------------------------------------------------------------------------
-- Cycles

theorem endCycle_plane (c : Control) (now : Nat) (fetched : Except Store.StoreError (List Row)) :
    (c.endCycle now fetched).2.plane =
      match fetched with
      | .ok rows => (c.plane.publish now rows).plane
      | .error _ => c.plane := by
  cases fetched <;> rfl

theorem beginCycle_plane (c : Control) : (c.beginCycle.getD c).plane = c.plane := by
  simp only [beginCycle]
  split <;> rfl

theorem endCycle_ok (c : Control) (now : Nat) (rows : List Row) :
    let published := c.plane.publish now rows
    (c.endCycle now (.ok rows)).1 = .ok published.report ∧
      (c.endCycle now (.ok rows)).2.plane = published.plane ∧
      (c.endCycle now (.ok rows)).2.lastReport = some published.report :=
  ⟨rfl, rfl, rfl⟩

theorem refresh_ok {c : Control} (idle : c.running = false) (now : Nat) (rows : List Row) :
    let published := c.plane.publish now rows
    (c.refresh now (.ok rows)).1 = .ok published.report ∧
      (c.refresh now (.ok rows)).2.plane = published.plane ∧
      (c.refresh now (.ok rows)).2.lastReport = some published.report := by
  have begun : c.beginCycle = some { c with running := true } := by simp [beginCycle, idle]
  rw [refresh, begun]
  exact endCycle_ok { c with running := true } now rows

theorem enforced_refresh_fresh (routes : List Route.Key) (defaults : List String)
    (center : AlarmCenter) (now : Nat) (rows : List Row) :
    ((ofPlane (.ofRoutes routes defaults) center).refresh now (.ok rows)).2.plane.enforced =
      .ofRows (Gates.ofRoutes routes).routes defaults rows := by
  have begun : (ofPlane (.ofRoutes routes defaults) center).beginCycle =
      some { ofPlane (.ofRoutes routes defaults) center with running := true } := rfl
  simp only [refresh, begun, endCycle_plane]
  exact Plane.enforced_publish _ now rows (Gates.faithful_ofRoutes routes)

end Tollgate.Control
