import Tollgate.Control.Plane
import Tollgate.Proofs.Batches
import Tollgate.Proofs.Texts

/-!
# What is read and what is rejected

A row is read as its category says. A row of addresses is read piece by piece, and of
the mocked times only the newest row is read. What a publication rejects is said here row
by row, without positions: category after category, the rows of each newest first, and
what they are rejected for in the order in which it stands in the row.
-/

namespace Tollgate

-- ---------------------------------------------------------------------------
-- Comma items

namespace Text

theorem of_mem_commaItems {s item : String} (h : item ∈ commaItems s) :
    trim item = item ∧ item ≠ "" := by
  obtain ⟨piece, nonblank⟩ := List.mem_filter.mp h
  obtain ⟨raw, _, rfl⟩ := List.mem_map.mp piece
  exact ⟨trim_trim raw, of_decide_eq_true nonblank⟩

end Text

namespace Policy

-- ---------------------------------------------------------------------------
-- Readings

variable {α β : Type}

theorem accepted_eq_filterMap (results : List (Except PolicyError α)) :
    accepted results = results.filterMap Except.toOption := by
  induction results with
  | nil => rfl
  | cons result rest ih =>
    rw [List.filterMap_cons]
    cases result with
    | ok a => rw [accepted, ih, Except.toOption]
    | error e => rw [accepted, ih, Except.toOption]

theorem accepted_map (read : β → Except PolicyError α) (items : List β) :
    accepted (items.map read) = items.filterMap fun b => (read b).toOption := by
  rw [accepted_eq_filterMap, List.filterMap_map]
  rfl

namespace BlockList

/-- What an item of a block list reads as, with its text; nothing if it is blank. -/
def readItem (item : String) : Except PolicyError (Option (String × Item)) :=
  let text := Text.trim item
  if text = "" then .ok none
  else
    match Item.ofText? text with
    | some i => .ok (some (text, i))
    | none => .error (.invalidAddress text)

def addEntry (list : BlockList) (entry : String × Item) : BlockList :=
  list.add entry.1 entry.2

theorem addAll_eq (list : BlockList) (start : Nat) (items : List String) :
    list.addAll start items =
      let good := (accepted (items.map readItem)).filterMap id
      (good.foldl addEntry list, ⟨good.length, rejections start (items.map readItem)⟩) := by
  induction items generalizing list start with
  | nil => rfl
  | cons item rest ih =>
    simp only [List.map_cons, addAll, ih]
    by_cases blank : Text.trim item = ""
    · simp [addText, readItem, blank, accepted, rejections]
    · cases read : Item.ofText? (Text.trim item) with
      | some i =>
        simp [addText, readItem, blank, read, accepted, rejections, addEntry, Nat.add_comm]
      | none => simp [addText, readItem, blank, read, accepted, rejections]

theorem readItem_of_mem {s item : String} (h : item ∈ Text.commaItems s) :
    readItem item =
      match Item.ofText? item with
      | some i => .ok (some (item, i))
      | none => .error (.invalidAddress item) := by
  obtain ⟨trimmed, nonblank⟩ := Text.of_mem_commaItems h
  rw [readItem, trimmed, if_neg nonblank]

end BlockList

end Policy

namespace Control

open Policy

variable {α β : Type}

-- ---------------------------------------------------------------------------
-- What a row is rejected for

def refusal (r : Row) : Except PolicyError α → List RejectedRow
  | .ok _ => []
  | .error e => [⟨r, e⟩]

/-- Every piece between commas that is no address and no network, from left to right. -/
def itemFaults (r : Row) : List RejectedRow :=
  ((Text.commaItems r.data).filter fun item => (BlockList.Item.ofText? item).isNone).map
    fun item => ⟨r, .invalidAddress item⟩

def faults (r : Row) : List RejectedRow :=
  match r.category with
  | .routerConcurrency => refusal r (GateSpec.ofData r.data)
  | .router => refusal r (Mock.ofData r.data)
  | .blockIp => itemFaults r
  | .httpServerInterceptor => refusal r (Interceptor.ofData r.data)
  | .requestConcurrency => refusal r (RequestLimit.ofData r.data)
  | .email => refusal r (EmailGroup.ofData r.data)
  | .mockTime => refusal r (MockTime.ofData r.data)
  | .signedKey => []
  | .unknown => []

theorem row_of_mem_faults {r : Row} {x : RejectedRow} (h : x ∈ faults r) : x.row = r := by
  have refused : ∀ {α : Type} {result : Except PolicyError α}, x ∈ refusal r result → x.row = r := by
    intro α result mem
    cases result with
    | ok _ => simp [refusal] at mem
    | error e =>
      obtain rfl := List.mem_singleton.mp mem
      rfl
  rw [faults] at h
  split at h
  case h_3 =>
    obtain ⟨_, _, rfl⟩ := List.mem_map.mp h
    rfl
  case h_8 | h_9 => simp at h
  all_goals exact refused h

/-- The fetched rows of a category, newest first. -/
def rowsIn (fetched : List Row) (c : Category) : List Row :=
  (Row.newestFirst fetched).filter (·.category = c)

def earlyOf (fetched : List Row) : List RejectedRow :=
  Batch.keepsAll.flatMap fun c => (rowsIn fetched c).flatMap faults

def lateOf (fetched : List Row) : List RejectedRow :=
  ((rowsIn fetched .mockTime).take 1).flatMap faults

def rejectedOf (fetched : List Row) : List RejectedRow :=
  earlyOf fetched ++ lateOf fetched

-- ---------------------------------------------------------------------------
-- Positions

namespace Plane

theorem rejectedAt_rejections (row : β → Row) (read : β → Except PolicyError α)
    (front items : List β) :
    rejectedAt ((front ++ items).map row) (rejections front.length (items.map read)) =
      items.flatMap fun b => refusal (row b) (read b) := by
  induction items generalizing front with
  | nil => rfl
  | cons b rest ih =>
    have later := ih (front ++ [b])
    rw [List.append_assoc, List.singleton_append, List.length_append, List.length_singleton] at later
    rw [List.map_cons, List.flatMap_cons, ← later]
    cases read b with
    | ok _ => rfl
    | error e =>
      have found : ((front ++ b :: rest).map row)[front.length]? = some (row b) := by simp
      simp only [rejections, rejectedAt, List.filterMap_cons, found, Option.map_some]
      rfl

theorem readRows_eq (read : String → Except PolicyError α) (rows : List Row) :
    readRows read rows =
      (rows.filterMap fun r => (read r.data).toOption,
        rows.flatMap fun r => refusal r (read r.data)) := by
  induction rows with
  | nil => rfl
  | cons r rest ih =>
    rw [readRows, ih]
    cases found : read r.data <;> simp [refusal, found, Except.toOption]

theorem rejectedAt_rows (read : String → Except PolicyError α) (rows : List Row) :
    rejectedAt rows (rejections 0 ((rows.map Row.data).map read)) =
      rows.flatMap fun r => refusal r (read r.data) := by
  have found := rejectedAt_rejections id (fun r => read r.data) [] rows
  rw [List.nil_append, List.map_id] at found
  rw [List.map_map]
  exact found

theorem itemFaults_eq (r : Row) :
    itemFaults r =
      (Text.commaItems r.data).flatMap fun item => refusal r (BlockList.readItem item) := by
  rw [itemFaults, ← List.filterMap_eq_map, List.filterMap_filter, List.filterMap_eq_flatMap_toList]
  refine List.flatMap_congr fun item mem => ?_
  rw [BlockList.readItem_of_mem mem]
  cases BlockList.Item.ofText? item <;> rfl

theorem publishBlocked_rejected (p : Plane) (rows : List Row) :
    (p.publishBlocked rows).rejected = rows.flatMap itemFaults := by
  have found := rejectedAt_rejections Prod.fst (fun entry : Row × String =>
    BlockList.readItem entry.2) [] (blockItems rows)
  have each : rows.flatMap itemFaults = (blockItems rows).flatMap fun (r, item) =>
      refusal r (BlockList.readItem item) := by
    rw [blockItems, List.flatMap_assoc]
    refine List.flatMap_congr fun r _ => ?_
    rw [itemFaults_eq, List.flatMap_map]
  rw [List.nil_append] at found
  rw [each, ← found, publishBlocked, BlockList.ofItems, BlockList.addAll_eq, List.map_map]
  rfl

end Plane

theorem flatMap_rowsOf {c : Category} (kept : c ∈ Batch.keepsAll) {f : Row → List RejectedRow}
    (own : ∀ r : Row, r.category = c → faults r = f r) (fetched : List Row) :
    ((Batch.ofRows (Row.newestFirst fetched)).rowsOf c).flatMap f =
      (rowsIn fetched c).flatMap faults := by
  rw [Batch.rowsOf_ofRows kept]
  exact List.flatMap_congr fun r mem => (own r (of_decide_eq_true (List.mem_filter.mp mem).2)).symm

namespace Plane

variable (p : Plane) (now : Nat) (fetched : List Row)

section ReadAs

variable (read : String → Except PolicyError α) {c : Category} (kept : c ∈ Batch.keepsAll)
  (own : ∀ r : Row, r.category = c → faults r = refusal r (read r.data))

include kept own

theorem readRows_rowsOf :
    (readRows read ((Batch.ofRows (Row.newestFirst fetched)).rowsOf c)).2 =
      (rowsIn fetched c).flatMap faults := by
  rw [readRows_eq]
  exact flatMap_rowsOf kept own fetched

theorem rejectedAt_rowsOf :
    let rows := (Batch.ofRows (Row.newestFirst fetched)).rowsOf c
    rejectedAt rows (rejections 0 ((rows.map Row.data).map read)) =
      (rowsIn fetched c).flatMap faults :=
  (rejectedAt_rows read _).trans (flatMap_rowsOf kept own fetched)

end ReadAs

/-- The rows of every category but the mocked times are rejected before the groups of
e-mail addresses change. -/
theorem publish_early : (p.publish now fetched).early = earlyOf fetched := by
  have gates := readRows_rowsOf fetched GateSpec.ofData (c := .routerConcurrency)
    (by decide) fun r named => by rw [faults, named]
  have mocks : ∀ q : Plane,
      (q.publishMocks (Batch.ofRows (Row.newestFirst fetched)).router).rejected =
        (rowsIn fetched .router).flatMap faults := fun _ =>
    rejectedAt_rowsOf fetched Mock.ofData (c := .router)
      (by decide) fun r named => by rw [faults, named]
  have blocked : ∀ q : Plane,
      (q.publishBlocked (Batch.ofRows (Row.newestFirst fetched)).blockIp).rejected =
        (rowsIn fetched .blockIp).flatMap faults := fun q =>
    (q.publishBlocked_rejected _).trans
      (flatMap_rowsOf (c := .blockIp) (by decide) (fun r named => by rw [faults, named]) fetched)
  have interceptors : ∀ q : Plane,
      (q.publishInterceptors (Batch.ofRows (Row.newestFirst fetched)).interceptor).rejected =
        (rowsIn fetched .httpServerInterceptor).flatMap faults := fun _ =>
    rejectedAt_rowsOf fetched Interceptor.ofData (c := .httpServerInterceptor)
      (by decide) fun r named => by rw [faults, named]
  have limits := readRows_rowsOf fetched RequestLimit.ofData (c := .requestConcurrency)
    (by decide) fun r named => by rw [faults, named]
  have emails := readRows_rowsOf fetched EmailGroup.ofData (c := .email)
    (by decide) fun r named => by rw [faults, named]
  -- The readings name a batch's rows by their category, the stages by their field.
  simp only [Batch.rowsOf] at gates limits emails
  simp only [publish, mocks, blocked, interceptors]
  simp only [publishGates, publishLimits, publishEmails, gates, limits, emails, earlyOf,
    Batch.keepsAll, List.flatMap_cons, List.flatMap_nil, List.append_nil, List.append_assoc]

theorem publishMockTime_rejected (row : Option Row) :
    (p.publishMockTime row).rejected =
      row.toList.flatMap fun r => refusal r (MockTime.ofData r.data) := by
  cases row with
  | none => rfl
  | some r =>
    simp only [publishMockTime]
    cases read : MockTime.ofData r.data <;> simp [refusal, read]

theorem publish_late : (p.publish now fetched).late = lateOf fetched := by
  have late : ∀ q : Plane,
      (q.publishMockTime (Batch.ofRows (Row.newestFirst fetched)).mockTime).rejected =
        lateOf fetched := by
    intro q
    rw [publishMockTime_rejected, Batch.mockTime_ofRows, lateOf, List.take_one]
    refine List.flatMap_congr fun r mem => ?_
    have named := List.mem_of_mem_head? (Option.mem_toList.mp mem)
    rw [faults, of_decide_eq_true (List.mem_filter.mp named).2]
  simp only [publish, late]

theorem publish_rejected : (p.publish now fetched).report.rejected = rejectedOf fetched := by
  rw [rejectedOf, ← publish_early p now, ← publish_late p now]
  rfl

end Plane

end Control

end Tollgate
