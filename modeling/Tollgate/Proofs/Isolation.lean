import Tollgate.Proofs.Blocking
import Tollgate.Proofs.Publish
import Tollgate.Proofs.Rejected

/-!
# Malformed rows do not disturb others

A publication takes from the rows what can be read of them, category by category, and
nothing else. A row of which nothing can be read gives nothing, wherever it stands. So a
refresh without it puts the same policy in force and counts the same; only what is told of
rejected rows differs. A row of addresses gives its readable pieces, and mocked times whose
newest row cannot be read are as good as none.
-/

namespace Tollgate.Control

open Policy
open Store (StoreError)
open Time (Instant)

variable {α β : Type}

-- ---------------------------------------------------------------------------
-- What rows say

def goodItems (r : Row) : List (String × BlockList.Item) :=
  (Text.commaItems r.data).filterMap fun item =>
    (BlockList.Item.ofText? item).map fun i => (item, i)

def readIn (read : String → Except PolicyError α) (fetched : List Row) (c : Category) : List α :=
  (rowsIn fetched c).filterMap fun r => (read r.data).toOption

/-- All that a publication takes from rows. -/
structure Content where
  specs : List (Route.Key × GateSpec)
  mocks : List Mock
  items : List (String × BlockList.Item)
  interceptors : List (Option (Route.Key × Interceptor))
  limits : List RequestLimit
  groups : List EmailGroup
  mockedTime : Option Instant
  keys : Option (List String)

def contentOf (fetched : List Row) : Content where
  specs := readIn GateSpec.ofData fetched .routerConcurrency
  mocks := readIn Mock.ofData fetched .router
  items := (rowsIn fetched .blockIp).flatMap goodItems
  interceptors := readIn Interceptor.ofData fetched .httpServerInterceptor
  limits := readIn RequestLimit.ofData fetched .requestConcurrency
  groups := readIn EmailGroup.ofData fetched .email
  mockedTime := instantOf? (rowsIn fetched .mockTime).head?
  keys := keysOf? (rowsIn fetched .signedKey).head?

namespace Content

def blocked (content : Content) : BlockList :=
  content.items.foldl BlockList.addEntry .empty

def putOn (content : Content) (p : Plane) (now : Nat) : Plane where
  gates := p.gates.apply now (Table.ofEntries content.specs)
  mocks := Table.ofEntries (content.mocks.map fun m => (m.route, m))
  blocked := content.blocked
  interceptors := Table.ofEntries (content.interceptors.filterMap id)
  limits := p.limits.replace content.limits
  mockedTime := content.mockedTime
  signingKeys := p.signingKeys.apply content.keys
  emails := Emails.ofGroups content.groups
  refreshedAt := some now

def reportOn (content : Content) (p : Plane) (now rows : Nat) (rejected : List RejectedRow) :
    Report :=
  let specs := Table.ofEntries content.specs
  { rows := rows
    concurrency := specs.length - (p.gates.unknown specs).length
    mocks := (Table.ofEntries (content.mocks.map fun m => (m.route, m))).length
    blockedIps := content.items.length
    interceptors := (Table.ofEntries (content.interceptors.filterMap id)).length
    requestLimits := content.limits.length
    emailGroups := content.groups.length
    mockTime := content.mockedTime
    signingKeys := (p.signingKeys.apply content.keys).current.length
    defaultSigningKeys := SigningKeys.isDefault content.keys
    rejected := rejected
    refreshedAt := now }

end Content

-- ---------------------------------------------------------------------------
-- Publications take what rows say

theorem readRows_batchOf {c : Category} (kept : c ∈ Batch.keepsAll)
    (read : String → Except PolicyError α) (fetched : List Row) :
    (Plane.readRows read ((batchOf fetched).rowsOf c)).1 = readIn read fetched c := by
  rw [batchOf, Batch.rowsOf_ofRows kept, Plane.readRows_eq]
  rfl

theorem accepted_batchOf {c : Category} (kept : c ∈ Batch.keepsAll)
    (read : String → Except PolicyError α) (fetched : List Row) :
    accepted ((((batchOf fetched).rowsOf c).map Row.data).map read) = readIn read fetched c := by
  rw [batchOf, Batch.rowsOf_ofRows kept, List.map_map, accepted_map]
  rfl

theorem accepted_blockItems (rows : List Row) :
    (accepted (((Plane.blockItems rows).map Prod.snd).map BlockList.readItem)).filterMap id =
      rows.flatMap goodItems := by
  rw [accepted_map, List.filterMap_map, List.filterMap_filterMap, Plane.blockItems,
    List.filterMap_flatMap]
  refine List.flatMap_congr fun r _ => ?_
  rw [List.filterMap_map, goodItems]
  refine List.filterMap_congr fun item mem => ?_
  simp only [Function.comp_apply, BlockList.readItem_of_mem mem]
  cases BlockList.Item.ofText? item <;> rfl

/-- What rows say, in the words of the publication. -/
theorem contentOf_eq (fetched : List Row) :
    contentOf fetched =
      { specs := (Plane.readRows GateSpec.ofData (batchOf fetched).routerConcurrency).1
        mocks := accepted (((batchOf fetched).router.map Row.data).map Mock.ofData)
        items := (accepted (((Plane.blockItems (batchOf fetched).blockIp).map Prod.snd).map
          BlockList.readItem)).filterMap id
        interceptors :=
          accepted (((batchOf fetched).interceptor.map Row.data).map Interceptor.ofData)
        limits := (Plane.readRows RequestLimit.ofData (batchOf fetched).requestConcurrency).1
        groups := (Plane.readRows EmailGroup.ofData (batchOf fetched).email).1
        mockedTime := instantOf? (batchOf fetched).mockTime
        keys := keysOf? (batchOf fetched).signedKey } := by
  have specs := readRows_batchOf (c := .routerConcurrency) (by decide) GateSpec.ofData fetched
  have mocks := accepted_batchOf (c := .router) (by decide) Mock.ofData fetched
  have items : (batchOf fetched).blockIp = rowsIn fetched .blockIp :=
    Batch.rowsOf_ofRows (c := .blockIp) (by decide) _
  have interceptors :=
    accepted_batchOf (c := .httpServerInterceptor) (by decide) Interceptor.ofData fetched
  have limits := readRows_batchOf (c := .requestConcurrency) (by decide) RequestLimit.ofData fetched
  have groups := readRows_batchOf (c := .email) (by decide) EmailGroup.ofData fetched
  have instants : (batchOf fetched).mockTime = (rowsIn fetched .mockTime).head? :=
    Batch.mockTime_ofRows _
  have keys : (batchOf fetched).signedKey = (rowsIn fetched .signedKey).head? :=
    Batch.signedKey_ofRows _
  simp only [Batch.rowsOf] at specs mocks interceptors limits groups
  rw [specs, mocks, accepted_blockItems, items, interceptors, limits, groups, instants, keys]
  rfl

theorem entries_foldl_addEntry (list : BlockList) (entries : List (String × BlockList.Item)) :
    (entries.foldl BlockList.addEntry list).entries = list.entries ++ entries.map Prod.fst := by
  induction entries generalizing list with
  | nil => simp
  | cons entry rest ih =>
    rw [List.foldl_cons, ih, BlockList.addEntry, BlockList.entries_add, List.append_assoc]
    rfl

theorem ofItems_eq (items : List String) :
    BlockList.ofItems items =
      let read := items.map BlockList.readItem
      let good := (accepted read).filterMap id
      (good.foldl BlockList.addEntry .empty, ⟨good.length, rejections 0 read⟩) :=
  BlockList.addAll_eq .empty 0 items

theorem Content.entries_blocked (content : Content) :
    content.blocked.entries = content.items.map Prod.fst :=
  entries_foldl_addEntry _ _

namespace Plane

variable (p : Plane) (now : Nat) (fetched : List Row)

theorem publish_putOn : (p.publish now fetched).plane = (contentOf fetched).putOn p now := by
  rw [publish_plane, contentOf_eq, ofItems_eq]
  rfl

theorem publish_reportOn :
    (p.publish now fetched).report =
      (contentOf fetched).reportOn p now fetched.length (rejectedOf fetched) := by
  have rows : (Row.newestFirst fetched).length = fetched.length := List.length_mergeSort _
  rw [← publish_rejected p now, ← rows, contentOf_eq]
  simp only [publish, publishSigningKeys_fst, publishMockTime_plane, publishMockTime_reported,
    publishBlocked, ofItems_eq]
  rfl

end Plane

-- ---------------------------------------------------------------------------
-- Rows that are left out

/-- A row of which nothing can be read. Of the mocked times and the signing keys the
newest row counts even so. -/
def Silent (r : Row) : Prop :=
  match r.category with
  | .routerConcurrency => (GateSpec.ofData r.data).toOption = none
  | .router => (Mock.ofData r.data).toOption = none
  | .blockIp => goodItems r = []
  | .httpServerInterceptor => (Interceptor.ofData r.data).toOption = none
  | .requestConcurrency => (RequestLimit.ofData r.data).toOption = none
  | .email => (EmailGroup.ofData r.data).toOption = none
  | .mockTime => False
  | .signedKey => False
  | .unknown => True

theorem toOption_of_refusal {r : Row} {result : Except PolicyError α}
    (refused : refusal r result ≠ []) : result.toOption = none := by
  cases result with
  | ok a => exact absurd rfl refused
  | error e => rfl

theorem silent_of_faults {r : Row} (faulty : faults r ≠ []) (untimed : r.category ≠ .mockTime)
    (unread : r.category = .blockIp → goodItems r = []) : Silent r := by
  rw [faults] at faulty
  rw [Silent]
  cases named : r.category with
  | blockIp => exact unread named
  | mockTime => exact untimed named
  | signedKey =>
    rw [named] at faulty
    exact faulty rfl
  | unknown => trivial
  | _ =>
    rw [named] at faulty
    exact toOption_of_refusal faulty

theorem rowsIn_filter (p : Row → Bool) (fetched : List Row) (c : Category) :
    rowsIn (fetched.filter p) c = (rowsIn fetched c).filter p := by
  rw [rowsIn, Row.newestFirst_filter, rowsIn, List.filter_comm]

theorem of_mem_rowsIn {fetched : List Row} {c : Category} {r : Row} (h : r ∈ rowsIn fetched c) :
    r ∈ fetched ∧ r.category = c := by
  obtain ⟨mem, named⟩ := List.mem_filter.mp h
  exact ⟨Row.mem_newestFirst.mp mem, of_decide_eq_true named⟩

theorem rowsIn_filter_self {p : Row → Bool} {fetched : List Row} {c : Category}
    (kept : ∀ r ∈ fetched, r.category = c → p r) : rowsIn (fetched.filter p) c = rowsIn fetched c := by
  rw [rowsIn_filter, List.filter_eq_self]
  intro r mem
  obtain ⟨mem, named⟩ := of_mem_rowsIn mem
  exact kept r mem named

theorem flatMap_filter {f : β → List α} {p : β → Bool} {l : List β}
    (nothing : ∀ b ∈ l, ¬p b → f b = []) : (l.filter p).flatMap f = l.flatMap f := by
  induction l with
  | nil => rfl
  | cons b rest ih =>
    have later := ih fun b mem => nothing b (List.mem_cons_of_mem _ mem)
    rw [List.filter_cons, List.flatMap_cons, ← later]
    split
    next _ => rfl
    next out => rw [nothing b List.mem_cons_self out, List.nil_append]

section LeaveOut

variable {p : Row → Bool} {fetched : List Row} (silent : ∀ r ∈ fetched, ¬p r → Silent r)

include silent

theorem readIn_filter {c : Category} {read : String → Except PolicyError α}
    (unread : ∀ r : Row, r.category = c → Silent r → (read r.data).toOption = none) :
    readIn read (fetched.filter p) c = readIn read fetched c := by
  rw [readIn, rowsIn_filter, List.filterMap_filter, readIn]
  refine List.filterMap_congr fun r mem => ?_
  obtain ⟨mem, named⟩ := of_mem_rowsIn mem
  split
  next _ => rfl
  next out => exact (unread r named (silent r mem out)).symm

theorem rowsIn_filter_of_loud {c : Category} (loud : ∀ r : Row, r.category = c → ¬Silent r) :
    rowsIn (fetched.filter p) c = rowsIn fetched c := by
  refine rowsIn_filter_self fun r mem named => ?_
  by_contra out
  exact loud r named (silent r mem out)

theorem contentOf_filter : contentOf (fetched.filter p) = contentOf fetched := by
  have items : (rowsIn (fetched.filter p) .blockIp).flatMap goodItems =
      (rowsIn fetched .blockIp).flatMap goodItems := by
    rw [rowsIn_filter]
    refine flatMap_filter fun r mem out => ?_
    obtain ⟨mem, named⟩ := of_mem_rowsIn mem
    simpa only [Silent, named] using silent r mem out
  have instants : rowsIn (fetched.filter p) .mockTime = rowsIn fetched .mockTime :=
    rowsIn_filter_of_loud silent fun r named => by simp [Silent, named]
  have keys : rowsIn (fetched.filter p) .signedKey = rowsIn fetched .signedKey :=
    rowsIn_filter_of_loud silent fun r named => by simp [Silent, named]
  rw [contentOf, contentOf, items, instants, keys]
  congr 1
  all_goals
    refine readIn_filter silent fun r named quiet => ?_
    simpa only [Silent, named] using quiet

end LeaveOut

theorem contentOf_erase (before after : List Row) {r : Row} (silent : Silent r) :
    contentOf (before ++ r :: after) = contentOf (before ++ after) := by
  have out : ∀ o : Row, ¬(o != r) → Silent o := by
    intro o same
    rw [bne_iff_ne, not_not] at same
    exact same ▸ silent
  have full : contentOf ((before ++ r :: after).filter (· != r)) = _ :=
    contentOf_filter fun o _ => out o
  have without : contentOf ((before ++ after).filter (· != r)) = _ :=
    contentOf_filter fun o _ => out o
  rw [← full, ← without]
  simp

theorem mockedTime_of_late {fetched : List Row} (late : lateOf fetched ≠ []) :
    instantOf? (rowsIn fetched .mockTime).head? = none := by
  rw [lateOf] at late
  cases rows : rowsIn fetched .mockTime with
  | nil => rfl
  | cons r rest =>
    have named := (of_mem_rowsIn (rows ▸ List.mem_cons_self)).2
    rw [rows, List.take_succ_cons, List.take_zero, List.flatMap_singleton, faults, named] at late
    rw [List.head?_cons, instantOf?, Option.bind_some]
    exact toOption_of_refusal late

/-- Mocked times whose newest row cannot be read are as good as none. -/
theorem contentOf_untimed {fetched : List Row} (late : lateOf fetched ≠ []) :
    contentOf (fetched.filter (·.category ≠ .mockTime)) = contentOf fetched := by
  have others : ∀ c, c ≠ .mockTime →
      rowsIn (fetched.filter (·.category ≠ .mockTime)) c = rowsIn fetched c := by
    intro c other
    refine rowsIn_filter_self fun r _ named => ?_
    simpa [named] using other
  have none : rowsIn (fetched.filter (·.category ≠ .mockTime)) .mockTime = [] := by
    rw [rowsIn_filter, rowsIn, List.filter_filter, List.filter_eq_nil_iff]
    simp
  rw [contentOf, contentOf, none, mockedTime_of_late late]
  simp only [readIn, others, ne_eq, reduceCtorEq, not_false_eq_true]
  rfl

-- ---------------------------------------------------------------------------
-- Cycles

def Report.counts (r : Report) : Report :=
  { r with rows := 0, rejected := [] }

/-- Two ends of a refresh that put the same in force and count the same. They may differ in
the rows read and rejected, and in what was told of them. -/
structure SameForce (a b : Except RefreshError Report × Control) : Prop where
  counts : a.1.map Report.counts = b.1.map Report.counts
  plane : a.2.plane = b.2.plane
  running : a.2.running = b.2.running
  lastReport : a.2.lastReport.map Report.counts = b.2.lastReport.map Report.counts

section Cycles

variable (c : Control) (now : Nat) {fetched fetched' : List Row}
  (same : contentOf fetched = contentOf fetched')

include same

theorem sameForce_endCycle :
    SameForce (c.endCycle now (.ok fetched)) (c.endCycle now (.ok fetched')) := by
  have plane : (c.plane.publish now fetched).plane = (c.plane.publish now fetched').plane := by
    rw [Plane.publish_putOn, Plane.publish_putOn, same]
  have counts : (c.plane.publish now fetched).report.counts =
      (c.plane.publish now fetched').report.counts := by
    rw [Plane.publish_reportOn, Plane.publish_reportOn, same]
    rfl
  exact ⟨congrArg Except.ok counts, plane, rfl, congrArg some counts⟩

theorem sameForce_refresh :
    SameForce (c.refresh now (.ok fetched)) (c.refresh now (.ok fetched')) := by
  rw [refresh, refresh]
  cases c.beginCycle with
  | none => exact ⟨rfl, rfl, rfl, rfl⟩
  | some begun => exact sameForce_endCycle begun now same

end Cycles

def Rejects (c : Control) (now : Nat) (fetched : List Row) (r : Row) : Prop :=
  ∃ report, (c.endCycle now (.ok fetched)).1 = .ok report ∧ ∃ x ∈ report.rejected, x.row = r

theorem rejects_iff {c : Control} {now : Nat} {fetched : List Row} {r : Row} :
    Rejects c now fetched r ↔ ∃ x ∈ rejectedOf fetched, x.row = r := by
  rw [← Plane.publish_rejected c.plane now]
  constructor
  · rintro ⟨report, ended, rejected⟩
    obtain rfl : (c.plane.publish now fetched).report = report := Except.ok.inj ended
    exact rejected
  · intro rejected
    exact ⟨_, rfl, rejected⟩

theorem mem_faults_of_mem {fetched : List Row} {x : RejectedRow} (h : x ∈ rejectedOf fetched) :
    x ∈ faults x.row := by
  have rows : ∃ r, x ∈ faults r := by
    rcases List.mem_append.mp h with early | late
    · obtain ⟨c, _, mem⟩ := List.mem_flatMap.mp early
      obtain ⟨r, _, mem⟩ := List.mem_flatMap.mp mem
      exact ⟨r, mem⟩
    · obtain ⟨r, _, mem⟩ := List.mem_flatMap.mp late
      exact ⟨r, mem⟩
  obtain ⟨r, mem⟩ := rows
  rwa [row_of_mem_faults mem]

theorem mem_lateOf {fetched : List Row} {x : RejectedRow} (h : x ∈ rejectedOf fetched)
    (timed : x.row.category = .mockTime) : x ∈ lateOf fetched := by
  refine (List.mem_append.mp h).resolve_left fun early => ?_
  obtain ⟨c, kept, mem⟩ := List.mem_flatMap.mp early
  obtain ⟨r, mem, faulty⟩ := List.mem_flatMap.mp mem
  obtain rfl : c = .mockTime := by rw [← (of_mem_rowsIn mem).2, ← row_of_mem_faults faulty, timed]
  exact absurd kept (by decide)

-- ---------------------------------------------------------------------------
-- Pieces of addresses

def goodPieces (fetched : List Row) : List String :=
  (rowsIn fetched .blockIp).flatMap fun r =>
    (Text.commaItems r.data).filter fun item => (BlockList.Item.ofText? item).isSome

theorem goodPieces_eq (fetched : List Row) :
    goodPieces fetched = (contentOf fetched).items.map Prod.fst := by
  simp only [contentOf, List.map_flatMap, goodPieces]
  refine List.flatMap_congr fun r _ => ?_
  rw [goodItems, List.map_filterMap, ← List.filterMap_eq_filter]
  refine List.filterMap_congr fun item _ => ?_
  cases read : BlockList.Item.ofText? item <;> simp [Option.guard, read]

theorem readItem_of_mem_goodItems {r : Row} {entry : String × BlockList.Item}
    (h : entry ∈ goodItems r) : BlockList.readItem entry.1 = .ok (some entry) := by
  obtain ⟨item, mem, found⟩ := List.mem_filterMap.mp h
  obtain ⟨i, read, rfl⟩ := Option.map_eq_some_iff.mp found
  rw [BlockList.readItem_of_mem mem, read]

theorem rejections_map_ok (start : Nat) (values : List α) :
    rejections start (values.map .ok) = [] := by
  induction values generalizing start with
  | nil => rfl
  | cons a rest ih => exact ih (start + 1)

theorem ofItems_goodPieces (fetched : List Row) :
    BlockList.ofItems (goodPieces fetched) =
      ((contentOf fetched).blocked, ⟨(goodPieces fetched).length, []⟩) := by
  have read : (goodPieces fetched).map BlockList.readItem =
      ((contentOf fetched).items.map some).map .ok := by
    rw [goodPieces_eq, List.map_map, List.map_map]
    refine List.map_congr_left fun entry mem => ?_
    obtain ⟨r, _, mem⟩ := List.mem_flatMap.mp mem
    exact readItem_of_mem_goodItems mem
  have good : (accepted (((contentOf fetched).items.map some).map .ok)).filterMap id =
      (contentOf fetched).items := by
    rw [accepted_map, List.filterMap_filterMap, List.filterMap_map]
    exact List.filterMap_some
  rw [ofItems_eq, read]
  simp only [good, rejections_map_ok, goodPieces_eq, List.length_map]
  rfl

/-- Malformed rows do not disturb others. For every control plane and all rows:

* a row that the cycle rejects, other than a mocked time and, of addresses, only if none of
  its pieces can be read, may be deleted: the same is put in force and counted;
* if the newest row of the mocked times is rejected, then the same is put in force and
  counted as without any row of mocked times, and the clock runs freely;
* the block list is made of exactly the readable pieces of the rows of addresses. -/
theorem malformed_rows_isolated (c : Control) (now : Nat) :
    (∀ (before after : List Row) (r : Row), Rejects c now (before ++ r :: after) r →
      r.category ≠ .mockTime →
      (r.category = .blockIp →
        ∀ item ∈ Text.commaItems r.data, BlockList.Item.ofText? item = none) →
      SameForce (c.endCycle now (.ok (before ++ r :: after)))
        (c.endCycle now (.ok (before ++ after))) ∧
      SameForce (c.refresh now (.ok (before ++ r :: after)))
        (c.refresh now (.ok (before ++ after)))) ∧
    (∀ (fetched : List Row) (r : Row), Rejects c now fetched r → r.category = .mockTime →
      SameForce (c.endCycle now (.ok fetched))
        (c.endCycle now (.ok (fetched.filter (·.category ≠ .mockTime)))) ∧
      SameForce (c.refresh now (.ok fetched))
        (c.refresh now (.ok (fetched.filter (·.category ≠ .mockTime)))) ∧
      (c.endCycle now (.ok fetched)).2.plane.mockedTime = none) ∧
    (∀ fetched : List Row,
      BlockList.ofItems (goodPieces fetched) =
        ((c.endCycle now (.ok fetched)).2.plane.blocked, ⟨(goodPieces fetched).length, []⟩) ∧
      (c.endCycle now (.ok fetched)).2.plane.blocked.entries = goodPieces fetched) := by
  refine ⟨fun before after r rejects untimed unread => ?_, fun fetched r rejects timed => ?_,
    fun fetched => ?_⟩
  · obtain ⟨x, mem, rfl⟩ := rejects_iff.mp rejects
    have faulty : faults x.row ≠ [] := List.ne_nil_of_mem (mem_faults_of_mem mem)
    have silent : Silent x.row := silent_of_faults faulty untimed fun named => by
      rw [goodItems, List.filterMap_eq_nil_iff]
      intro item piece
      rw [unread named item piece, Option.map_none]
    have same := contentOf_erase before after silent
    exact ⟨sameForce_endCycle c now same, sameForce_refresh c now same⟩
  · obtain ⟨x, mem, rfl⟩ := rejects_iff.mp rejects
    have late : lateOf fetched ≠ [] := List.ne_nil_of_mem (mem_lateOf mem timed)
    have same := (contentOf_untimed late).symm
    refine ⟨sameForce_endCycle c now same, sameForce_refresh c now same, ?_⟩
    simp only [endCycle_plane, Plane.publish_putOn]
    exact mockedTime_of_late late
  · have plane : (c.endCycle now (.ok fetched)).2.plane.blocked = (contentOf fetched).blocked := by
      simp only [endCycle_plane, Plane.publish_putOn]
      rfl
    rw [plane]
    exact ⟨ofItems_goodPieces fetched, by rw [Content.entries_blocked, goodPieces_eq]⟩

def brokenMock : Row :=
  ⟨"half a mock", .router, .enabled, "\x7b\"router\":\"GET /a\"", ⟨0, 0⟩, ⟨9, 0⟩, ⟨5, 0⟩⟩

def wholeMock : Row :=
  ⟨"mock", .router, .enabled, "\x7b\"router\":\"GET /a\"\x7d", ⟨0, 0⟩, ⟨9, 0⟩, ⟨4, 0⟩⟩

def mixedAddresses : Row :=
  ⟨"addresses", .blockIp, .enabled, "10.0.0.1, nowhere ,", ⟨0, 0⟩, ⟨9, 0⟩, ⟨6, 0⟩⟩

def noInstant : Row :=
  ⟨"clock", .mockTime, .enabled, "noon", ⟨0, 0⟩, ⟨9, 0⟩, ⟨7, 0⟩⟩

/-- A broken mock does not keep the older one of its route from being published, and the
clock runs freely. -/
theorem malformed_rows_isolated_mock :
    let c := ofPlane (.ofRoutes [⟨"GET /a"⟩] ["key"]) (.ofCapacity "alarm" 1)
    let rows := [noInstant, mixedAddresses] ++ brokenMock :: [wholeMock]
    Rejects c 0 rows brokenMock ∧ Rejects c 0 rows noInstant ∧
      SameForce (c.refresh 0 (.ok rows)) (c.refresh 0 (.ok [noInstant, mixedAddresses, wholeMock])) ∧
      (c.endCycle 0 (.ok rows)).2.plane.mockedTime = none ∧
      (c.endCycle 0 (.ok rows)).2.plane.blocked.entries = ["10.0.0.1"] := by
  intro c rows
  have sorted : Row.newestFirst rows = rows := List.mergeSort_of_pairwise (by decide)
  have broken : Rejects c 0 rows brokenMock := by
    simp only [rejects_iff, rejectedOf, earlyOf, lateOf, rowsIn, sorted]
    decide +kernel
  have untimed : Rejects c 0 rows noInstant := by
    simp only [rejects_iff, rejectedOf, earlyOf, lateOf, rowsIn, sorted]
    decide +kernel
  have pieces : goodPieces rows = ["10.0.0.1"] := by
    simp only [goodPieces, rowsIn, sorted]
    decide +kernel
  obtain ⟨others, times, blocked⟩ := malformed_rows_isolated c 0
  exact ⟨broken, untimed,
    (others [noInstant, mixedAddresses] [wholeMock] brokenMock broken (by decide) (by decide)).2,
    (times rows noInstant untimed rfl).2.2, pieces ▸ (blocked rows).2⟩

end Tollgate.Control
