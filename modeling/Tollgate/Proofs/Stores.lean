import Mathlib.Data.List.Nodup
import Tollgate.Control.Cycle
import Tollgate.Proofs.Batches
import Tollgate.Proofs.Publish
import Tollgate.Proofs.RowTexts
import Tollgate.Store.Memory

/-!
# Two stores, one query

A store answers with the active rows it holds, each once and strictly newest first, if no
two rows are of one age. This does not depend on where it holds them: a file that lists them
in any order and a memory that came to hold them by any operations answer the same, and a
refresh from one does what a refresh from the other does.
-/

namespace Tollgate

open Json (Laid)
open Policy (Row)
open Policy.Row (tokensOf)
open Time (Instant)

-- ---------------------------------------------------------------------------
-- Active rows

namespace Policy.Row

theorem isActive_iff {r : Row} {now : Instant} :
    r.isActive now ↔ r.status = .enabled ∧ r.startedAt.before now ∧ now.before r.endedAt := by
  simp [isActive, and_assoc]

/-- The rows that are active at an instant, each once and strictly newest first. -/
structure AreActive (rows : List Row) (now : Instant) (active : List Row) : Prop where
  mem : ∀ r, r ∈ active ↔
    r ∈ rows ∧ r.status = .enabled ∧ r.startedAt.before now ∧ now.before r.endedAt
  once : active.Nodup
  newestFirst : active.Pairwise fun a b => b.updatedAt.before a.updatedAt

theorem areActive_newestFirst {held rows : List Row} (same : held.Perm rows)
    (ages : (rows.map Row.updatedAt).Nodup) (now : Instant) :
    AreActive rows now (newestFirst (held.filter fun r => r.isActive now)) := by
  have perm : (newestFirst (held.filter fun r => r.isActive now)).Perm
      (rows.filter fun r => r.isActive now) :=
    (List.mergeSort_perm _ _).trans (same.filter _)
  have differ : (newestFirst (held.filter fun r => r.isActive now)).Pairwise
      fun a b => a.updatedAt ≠ b.updatedAt :=
    (perm.pairwise_iff fun ne => ne.symm).mpr ((List.pairwise_map.mp ages).filter _)
  refine ⟨fun r => ?_, differ.imp fun ne eq => ne (congrArg updatedAt eq), ?_⟩
  · rw [perm.mem_iff, List.mem_filter, isActive_iff]
  · refine ((pairwise_newestFirst _).and differ).imp fun h => ?_
    exact Instant.before_of_ne h.2 (by simpa [newerOrEqual] using h.1)

theorem AreActive.unique {rows : List Row} {now : Instant} {xs ys : List Row}
    (hx : AreActive rows now xs) (hy : AreActive rows now ys) : xs = ys := by
  have same : xs.Perm ys :=
    (List.perm_ext_iff_of_nodup hx.once hy.once).mpr fun r => (hx.mem r).trans (hy.mem r).symm
  refine same.eq_of_pairwise (fun a b _ _ newer older => ?_) hx.newestFirst hy.newestFirst
  rw [Instant.not_before_of_before newer] at older
  cases older

end Policy.Row

-- ---------------------------------------------------------------------------
-- Memory

namespace Store.Memory

inductive Op where
  | upsert (r : Row)
  | remove (name : String)
  | clear
  deriving DecidableEq, Repr

def act (m : Memory) : Op → Memory
  | .upsert r => m.upsert r
  | .remove name => m.remove name
  | .clear => empty

def run (ops : List Op) : Memory :=
  ops.foldl act empty

def Op.rowAfter (name : String) (before : Option Row) : Op → Option Row
  | .upsert r => if r.name = name then some r else before
  | .remove removed => if removed = name then none else before
  | .clear => none

/-- The row that was last put in under a name, unless it was taken out since. -/
def Op.row? (ops : List Op) (name : String) : Option Row :=
  ops.foldl (fun before op => op.rowAfter name before) none

def Op.EndWith (ops : List Op) (rows : List Row) : Prop :=
  ∀ r, r ∈ rows ↔ row? ops r.name = some r

structure Kept (m : Memory) : Prop where
  keys : Policy.KeysUp (fun a b : String => a < b) m
  named : ∀ entry ∈ m, entry.2.name = entry.1

theorem Kept.act {m : Memory} (h : m.Kept) (op : Op) : (m.act op).Kept := by
  cases op with
  | upsert r =>
    refine ⟨h.keys.putName r.name r, fun entry mem => ?_⟩
    rcases Policy.mem_putSorted _ mem with rfl | old
    · rfl
    · exact h.named entry old
  | remove name =>
    exact ⟨h.keys.filter _, fun entry mem => h.named entry (List.mem_filter.mp mem).1⟩
  | clear => exact ⟨.nil, List.forall_mem_nil _⟩

theorem lookup_act {m : Memory} (h : m.Kept) (op : Op) (name : String) :
    (m.act op).lookup name = op.rowAfter name (m.lookup name) := by
  cases op with
  | upsert r =>
    simp only [Memory.act, upsert, Op.rowAfter]
    rw [Policy.lookup_putSorted]
    simp only [eq_comm]
  | remove removed =>
    have found : (m.act (.remove removed)).lookup name =
        (m.lookup name).filter fun _ => decide (name ≠ removed) :=
      h.keys.lookup_filter (by simp) (fun entry => decide (entry.1 ≠ removed)) name
    rw [found, Op.rowAfter]
    by_cases same : removed = name
    · rw [if_pos same]
      cases m.lookup name <;> simp [Option.filter, same]
    · rw [if_neg same]
      cases m.lookup name <;> simp [Option.filter, Ne.symm same]
  | clear => rfl

theorem kept_foldl {m : Memory} (h : m.Kept) (ops : List Op) :
    (ops.foldl Memory.act m).Kept ∧
      ∀ name, (ops.foldl Memory.act m).lookup name =
        ops.foldl (fun before op => op.rowAfter name before) (m.lookup name) := by
  induction ops generalizing m with
  | nil => exact ⟨h, fun _ => rfl⟩
  | cons op ops ih =>
    obtain ⟨kept, lookup⟩ := ih (h.act op)
    refine ⟨kept, fun name => ?_⟩
    rw [List.foldl_cons, lookup name, lookup_act h op name]
    rfl

theorem kept_run (ops : List Op) : (run ops).Kept :=
  (kept_foldl ⟨.nil, List.forall_mem_nil _⟩ ops).1

theorem lookup_run (ops : List Op) (name : String) : (run ops).lookup name = Op.row? ops name :=
  (kept_foldl ⟨.nil, List.forall_mem_nil _⟩ ops).2 name

theorem Kept.mem_iff {m : Memory} (h : m.Kept) {r : Row} :
    r ∈ m.map Prod.snd ↔ m.lookup r.name = some r := by
  rw [h.keys.lookup_eq_some_iff (by simp), List.mem_map]
  constructor
  · rintro ⟨⟨name, r⟩, mem, rfl⟩
    rw [h.named _ mem]
    exact mem
  · exact fun mem => ⟨_, mem, rfl⟩

theorem Kept.nodup {m : Memory} (h : m.Kept) : (m.map Prod.snd).Nodup := by
  refine List.pairwise_map.mpr (h.keys.imp_of_mem ?_)
  intro a b memA memB less same
  have names : a.1 = b.1 := by rw [← h.named a memA, ← h.named b memB, same]
  rw [names] at less
  simp at less

theorem endWith_iff_perm {ops : List Op} {rows : List Row} (once : rows.Nodup) :
    Op.EndWith ops rows ↔ ((run ops).map Prod.snd).Perm rows := by
  rw [List.perm_ext_iff_of_nodup (kept_run ops).nodup once]
  refine forall_congr' fun r => ?_
  rw [(kept_run ops).mem_iff, lookup_run]
  exact iff_comm

theorem ofRows_eq_run (rows : List Row) : ofRows rows = run (rows.map .upsert) := by
  rw [ofRows, run, List.foldl_map]
  rfl

theorem foldl_upserts {rows : List Row} (names : (rows.map Row.name).Nodup) (name : String)
    (before : Option Row) :
    (rows.map Op.upsert).foldl (fun before op => op.rowAfter name before) before =
      (rows.find? fun r => r.name = name).or before := by
  induction rows generalizing before with
  | nil => rfl
  | cons r rows ih =>
    obtain ⟨first, others⟩ := List.nodup_cons.mp names
    rw [List.map_cons, List.foldl_cons, ih others, Op.rowAfter, List.find?_cons]
    by_cases same : r.name = name
    · have absent : (rows.find? fun r => r.name = name) = none := by
        refine List.find?_eq_none.mpr fun o mem equal => first ?_
        rw [same, ← of_decide_eq_true equal]
        exact List.mem_map_of_mem mem
      simp [same, absent]
    · simp [same]

theorem endWith_upserts {rows : List Row} (names : (rows.map Row.name).Nodup) :
    Op.EndWith (rows.map .upsert) rows := by
  intro r
  rw [Op.row?, foldl_upserts names, Option.or_none]
  refine ⟨fun mem => ?_, List.mem_of_find?_eq_some⟩
  cases found : rows.find? fun o => o.name = r.name with
  | none => simpa using List.find?_eq_none.mp found r mem
  | some o =>
    have equal : o.name = r.name := by simpa using List.find?_some found
    have once := List.inj_on_of_nodup_map names (List.mem_of_find?_eq_some found) mem equal
    rw [once]

end Store.Memory

-- ---------------------------------------------------------------------------
-- Both stores

namespace Store

/-- What a store that holds these rows answers, be they written to a file or put into
memory, in whatever order. -/
inductive Answer (rows : List Row) (now : Instant) : Except StoreError (List Row) → Prop
  | file {written : List Row} {content : String} (path : String) (same : written.Perm rows)
      (laid : Laid (tokensOf written) content.toList) :
      Answer rows now ((⟨path, some content⟩ : File).fetch now)
  | memory {ops : List Memory.Op} (same : Memory.Op.EndWith ops rows) :
      Answer rows now (.ok ((Memory.run ops).fetch now))

theorem answer_ofRows {rows : List Row} (names : (rows.map Row.name).Nodup) (now : Instant) :
    Answer rows now (.ok ((Memory.ofRows rows).fetch now)) := by
  rw [Memory.ofRows_eq_run]
  exact .memory (Memory.endWith_upserts names)

theorem Answer.exists_held {rows : List Row} {now : Instant}
    {fetched : Except StoreError (List Row)} (h : Answer rows now fetched)
    (once : rows.Nodup) (proper : ∀ r ∈ rows, r.IsProper) :
    ∃ held : List Row, held.Perm rows ∧
      fetched = .ok (Row.newestFirst (held.filter fun r => r.isActive now)) := by
  cases h with
  | @file written content path same laid =>
    have read : File.rows content = .ok written :=
      File.rows_of_laid (fun r mem => proper r (same.mem_iff.mp mem)) laid
    refine ⟨written, same, ?_⟩
    simp only [File.fetch, read]
  | memory same => exact ⟨_, (Memory.endWith_iff_perm once).mp same, rfl⟩

/-- If no two rows are of one age, every store that holds them answers with the active ones,
each once and strictly newest first. So a refresh puts the same policy in force, whatever the
store. -/
theorem stores_agree (rows : List Row) (ages : (rows.map Row.updatedAt).Nodup)
    (proper : ∀ r ∈ rows, r.IsProper) (now : Instant) :
    ∃ active, Row.AreActive rows now active ∧
      ∀ fetched, Answer rows now fetched → fetched = .ok active ∧
        ∀ (c : Control) (clock : Nat), c.running = false →
          let published := c.plane.publish clock active
          (c.refresh clock fetched).1 = .ok published.report ∧
            (c.refresh clock fetched).2.plane = published.plane ∧
            (c.refresh clock fetched).2.lastReport = some published.report := by
  have once : rows.Nodup := (List.pairwise_map.mp ages).imp fun ne eq => ne (congrArg _ eq)
  have areActive := Row.areActive_newestFirst (List.Perm.refl rows) ages now
  refine ⟨_, areActive, fun fetched answer => ?_⟩
  obtain ⟨held, same, rfl⟩ := answer.exists_held once proper
  have alike := (Row.areActive_newestFirst same ages now).unique areActive
  refine ⟨congrArg Except.ok alike, fun c clock idle => ?_⟩
  rw [alike]
  exact Control.refresh_ok idle clock _

def leapRow : Row :=
  ⟨"paused", .router, .enabled, "\x7b\"router\":\"GET /a\"\x7d", ⟨-1, 5⟩, ⟨900, 0⟩,
    ⟨59, 1000000000⟩⟩

def laterRow : Row :=
  ⟨"odd", .unknown, .enabled, "\t", ⟨-99999999999, 120000000⟩, ⟨900, 0⟩, ⟨60, 0⟩⟩

def expiredRow : Row :=
  ⟨"expired", .email, .enabled, "", ⟨0, 0⟩, ⟨80, 0⟩, ⟨70, 0⟩⟩

/-- Of three rows two are active, one of which was changed in a leap second; a file and a
memory hold them in different orders. -/
theorem stores_agree_leap_second :
    let rows := [leapRow, laterRow, expiredRow]
    let ops : List Memory.Op := [.upsert laterRow, .clear, .upsert expiredRow, .upsert leapRow,
      .upsert { leapRow with name := "gone" }, .remove "gone",
      .upsert { laterRow with status := .disabled }, .upsert laterRow]
    let file : File := ⟨"rows.json", some (File.textOf rows)⟩
    file.fetch ⟨100, 0⟩ = .ok [laterRow, leapRow] ∧
      (Memory.run ops).fetch ⟨100, 0⟩ = [laterRow, leapRow] := by
  intro rows ops file
  have ends : Memory.Op.EndWith ops rows :=
    (Memory.endWith_iff_perm (by decide +kernel)).mpr (by decide +kernel)
  have areActive : Row.AreActive rows ⟨100, 0⟩ [laterRow, leapRow] := by
    have only : ∀ r ∈ [laterRow, leapRow], r ∈ rows ∧ r.isActive ⟨100, 0⟩ := by decide +kernel
    have every : ∀ r ∈ rows, r.isActive ⟨100, 0⟩ → r ∈ [laterRow, leapRow] := by decide +kernel
    refine ⟨fun r => ?_, by decide +kernel, by decide +kernel⟩
    rw [← Row.isActive_iff]
    exact ⟨only r, fun h => every r h.1 h.2⟩
  obtain ⟨active, found, all⟩ := stores_agree rows (by decide +kernel) (by decide +kernel) ⟨100, 0⟩
  obtain rfl := found.unique areActive
  have fromMemory := (all _ (.memory ends)).1
  exact ⟨(all _ (.file "rows.json" (List.Perm.refl rows) (File.laid_textOf rows))).1,
    Except.ok.inj fromMemory⟩

end Store

end Tollgate
