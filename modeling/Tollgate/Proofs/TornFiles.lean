import Tollgate.Control.Watched
import Tollgate.Proofs.Publish
import Tollgate.Proofs.RowTexts

/-!
# Torn files

A file of rows may be read while it is being written. What is there of it is then the front
of a list that is not complete, and is refused as a whole: no row of it gets into the policy.
A file of which nothing is there but blanks is another matter; it holds no rows.
-/

namespace Tollgate

open Document (Reader)
open Json (Laid Token Value)
open Policy (Row)
open Store (File StoreError)

-- ---------------------------------------------------------------------------
-- Rows

namespace Policy.Row

theorem careful_instantReader : Reader.Careful instantReader := by
  intro n i h
  cases n with
  | text s => rfl
  | _ => cases h

theorem careful_fields : fields.Careful :=
  ⟨Reader.careful_text, Reader.careful_choice _, Reader.careful_choice _, Reader.careful_text,
    careful_instantReader, careful_instantReader, careful_instantReader, trivial⟩

theorem careful_reader : Reader.Careful reader :=
  Reader.careful_as (Reader.careful_record careful_fields _) _

end Policy.Row

-- ---------------------------------------------------------------------------
-- Files

namespace Store.File

open Policy.Row (tokensOf)

def IsVisible (cs : List Char) : Prop :=
  ∃ c ∈ cs, Json.isSpace c = false

/-- The front of one whole text is refused, unless it is blank. -/
theorem rows_of_front {content front : String} {back : List Char}
    (begins : content.toList = front.toList ++ back)
    (one : (Json.Reading.ofText content).trailing = false)
    (visible : Text.isBlankText front = false) (torn : IsVisible back) :
    ∃ p, rows front = .error p := by
  rw [rows_of_not_blank visible]
  cases read : Document.readText (Reader.list Row.reader) front with
  | error p => exact ⟨p, rfl⟩
  | ok rows =>
    obtain ⟨items, list, elements⟩ := Reader.list_ok (Document.readText_ok read).1
    have whole := Reader.careful_elements Row.careful_reader elements
    have all := Json.Reading.ofText_of_front begins list whole torn
    rw [all] at one
    cases one

/-- What is there of a list of rows while it is being written, in its compact text or in one
with spaces between the tokens. Something visible is there, and something is missing. -/
inductive Torn (rows : List Row) (front : String) : Prop
  | compact (back : List Char) (text : (textOf rows).toList = front.toList ++ back)
      (there : front ≠ "") (missing : back ≠ [])
  | spaced (content : String) (back : List Char) (laid : Laid (tokensOf rows) content.toList)
      (text : content.toList = front.toList ++ back) (there : Text.isBlankText front = false)
      (missing : IsVisible back)

/-- Every front of the compact text but the empty one shows something, and lacks something that
can be seen. -/
theorem Torn.exists_spaced {rows : List Row} {front : String} (h : Torn rows front) :
    ∃ (content : String) (back : List Char), Laid (tokensOf rows) content.toList ∧
      content.toList = front.toList ++ back ∧ Text.isBlankText front = false ∧ IsVisible back := by
  cases h with
  | spaced content back laid text there missing => exact ⟨content, back, laid, text, there, missing⟩
  | compact back text there missing =>
    obtain ⟨inner, brackets⟩ := exists_toList_textOf rows
    rw [brackets] at text
    refine ⟨textOf rows, back, laid_textOf rows, brackets.trans text, ?_, ?_⟩
    · obtain ⟨c, more, chars⟩ := List.exists_cons_of_ne_nil (mt String.toList_eq_nil_iff.mp there)
      rw [chars] at text
      obtain ⟨rfl, -⟩ := List.cons_eq_cons.mp text
      rw [Text.isBlankText, chars]
      rfl
    · obtain ⟨init, last, rfl⟩ := (List.eq_nil_or_concat back).resolve_left missing
      rw [List.concat_eq_append, ← List.append_assoc] at text
      obtain ⟨-, same⟩ := List.append_inj' text rfl
      obtain rfl := List.singleton_inj.mp same
      exact ⟨']', by simp, rfl⟩

theorem Torn.rows_eq {rows : List Row} {front : String} (h : Torn rows front) :
    ∃ p, File.rows front = .error p := by
  obtain ⟨content, back, laid, text, there, missing⟩ := h.exists_spaced
  exact rows_of_front text (trailing_of_laid laid) there missing

theorem Torn.fetch_eq {rows : List Row} {front : String} (h : Torn rows front) (path : String)
    (now : Time.Instant) :
    ∃ reason, fetch ⟨path, some front⟩ now = .error (.undecodable reason) := by
  obtain ⟨p, refused⟩ := h.rows_eq
  refine ⟨path ++ ": " ++ p.message, ?_⟩
  simp only [fetch, refused]

theorem fetch_of_blank {content : String} (blank : Text.isBlankText content) (path : String)
    (now : Time.Instant) : fetch ⟨path, some content⟩ now = .ok [] := by
  simp only [fetch, rows, blank, if_true]
  exact congrArg Except.ok List.mergeSort_nil

end Store.File

-- ---------------------------------------------------------------------------
-- Refreshes

namespace Control

open Policy.Row (tokensOf)
open Store.File (Torn exists_toList_textOf textOf toList_textOf)

/-- The policy in force and the last report are still those of before. -/
structure Frozen (c after : Control) : Prop where
  plane : after.plane = c.plane
  lastReport : after.lastReport = c.lastReport

theorem refresh_error (c : Control) (now : Nat) (e : StoreError) :
    (c.refresh now (.error e)).1 = .error (if c.running then .inProgress else .store e) ∧
      c.Frozen (c.refresh now (.error e)).2 := by
  cases busy : c.running with
  | true =>
    simp only [refresh, beginCycle, busy]
    exact ⟨rfl, rfl, rfl⟩
  | false =>
    simp only [refresh, beginCycle, busy]
    exact ⟨rfl, rfl, rfl⟩

/-- A refresh that finds a torn list of rows in the file fails, with an error of the store
unless another cycle is under way, and the policy stays frozen. -/
theorem refresh_torn (c : Control) {rows : List Row} {front : String} (torn : Torn rows front)
    (path : String) (instant : Time.Instant) (now : Nat) :
    let fetched := (⟨path, some front⟩ : File).fetch instant
    (∃ reason, fetched = .error (.undecodable reason) ∧
      (c.refresh now fetched).1 =
        .error (if c.running then .inProgress else .store (.undecodable reason))) ∧
      c.Frozen (c.refresh now fetched).2 := by
  intro fetched
  obtain ⟨reason, refused⟩ := torn.fetch_eq path instant
  have failed := c.refresh_error now (.undecodable reason)
  rw [← refused] at failed
  exact ⟨⟨reason, refused, failed.1⟩, failed.2⟩

/-- A refresh succeeded with no rows: nothing is governed any more, and the report tells so. -/
structure Emptied (c : Control) (now : Nat) (refreshed : Except RefreshError Report × Control) :
    Prop where
  enforced : refreshed.2.plane.enforced =
    .nothing c.plane.gates.routes c.plane.signingKeys.defaults
  refreshedAt : refreshed.2.plane.refreshedAt = some now
  reported : ∃ report, refreshed.1 = .ok report ∧ refreshed.2.lastReport = some report ∧
    report.rows = 0 ∧ report.rejected = [] ∧ report.refreshedAt = now

theorem refresh_nil {c : Control} (idle : c.running = false) (now : Nat) :
    c.Emptied now (c.refresh now (.ok [])) := by
  obtain ⟨result, plane, lastReport⟩ := refresh_ok idle now []
  have newest : Row.newestFirst [] = [] := List.mergeSort_nil
  refine ⟨?_, ?_, _, result, lastReport, ?_, ?_, rfl⟩
  · rw [plane]
    exact c.plane.enforced_publish_nil now
  · rw [plane, Plane.publish_plane]
  · exact congrArg List.length newest
  · simp only [Plane.publish, newest]
    rfl

/-- A file of rows that is read while it is being written leaves the policy as it is, unless
nothing of it but blanks is there yet: a refresh from those publishes an empty policy. -/
theorem torn_file_freezes_policy (c : Control) (path : String) (instant : Time.Instant)
    (now : Nat) :
    (∀ rows front, Torn rows front →
      let fetched := (⟨path, some front⟩ : File).fetch instant
      (∃ reason, fetched = .error (.undecodable reason) ∧
        (c.refresh now fetched).1 =
          .error (if c.running then .inProgress else .store (.undecodable reason))) ∧
        c.Frozen (c.refresh now fetched).2) ∧
    ∀ blank, Text.isBlankText blank →
      let fetched := (⟨path, some blank⟩ : File).fetch instant
      fetched = .ok [] ∧ (c.running = false → c.Emptied now (c.refresh now fetched)) := by
  refine ⟨fun rows front torn => c.refresh_torn torn path instant now, fun blank empty => ?_⟩
  intro fetched
  have none : fetched = .ok [] := Store.File.fetch_of_blank empty path instant
  exact ⟨none, fun idle => none ▸ refresh_nil idle now⟩

def blockRow : Row :=
  ⟨"scanners", .blockIp, .enabled, "9.9.9.9", ⟨0, 0⟩, ⟨9, 0⟩, ⟨5, 0⟩⟩

def afterBlockRow : Control :=
  ((ofPlane (.ofRoutes [] ["key"]) (.ofCapacity "" 1)).refresh 0 (.ok [blockRow])).2

/-- The list is cut inside the name of a member. With a line break alone the policy is gone. -/
theorem torn_file_freezes_policy_category :
    let front := "[\x7b\"name\":\"scanners\",\"catego"
    let fetched := (⟨"rows.json", some front⟩ : File).fetch ⟨7, 0⟩
    let truncated := (⟨"rows.json", some "\n"⟩ : File).fetch ⟨7, 0⟩
    (Torn [blockRow] front ∧
      (∃ reason, fetched = .error (.undecodable reason) ∧
        (afterBlockRow.refresh 0 fetched).1 =
          .error (if afterBlockRow.running then .inProgress else .store (.undecodable reason))) ∧
        afterBlockRow.Frozen (afterBlockRow.refresh 0 fetched).2) ∧
      afterBlockRow.Emptied 0 (afterBlockRow.refresh 0 truncated) := by
  intro front fetched truncated
  have cut : ((tokensOf [blockRow]).flatMap Value.spell).take 27 = front.toList := by
    decide +kernel
  have torn : Torn [blockRow] front :=
    .compact (((tokensOf [blockRow]).flatMap Value.spell).drop 27)
      (by rw [toList_textOf, ← cut, List.take_append_drop]) (by decide) (by decide +kernel)
  obtain ⟨frozen, emptied⟩ := torn_file_freezes_policy afterBlockRow "rows.json" ⟨7, 0⟩ 0
  refine ⟨⟨torn, frozen [blockRow] front torn⟩, (emptied "\n" (by decide)).2 ?_⟩
  decide +kernel

/-- The empty text is a front of every list of rows, and it is not refused: a file that was
just truncated holds no rows, and a refresh from it empties the policy. -/
theorem empty_file_empties_policy :
    ¬ ∀ (rows : List Row) (front : String) (back : List Char), rows ≠ [] →
      (textOf rows).toList = front.toList ++ back → back ≠ [] →
      ∀ (c : Control) (path : String) (instant : Time.Instant) (now : Nat),
        c.Frozen (c.refresh now ((⟨path, some front⟩ : File).fetch instant)).2 := by
  intro frozen
  obtain ⟨inner, brackets⟩ := exists_toList_textOf [blockRow]
  have kept := frozen [blockRow] "" ('[' :: inner ++ [']']) (List.cons_ne_nil _ _)
    (by rw [brackets, String.toList_empty, List.nil_append]) (List.cons_ne_nil _ _)
    afterBlockRow "rows.json" ⟨7, 0⟩ 0
  have blocked := congrArg (fun p : Plane => p.blocked.entries) kept.plane
  exact absurd blocked (by decide +kernel)

-- ---------------------------------------------------------------------------
-- Watched files

namespace Watched

variable {w : Watched} {rows : List Row} {front : String}

theorem frozen_refresh (torn : Torn rows front) (content : w.tree.content? w.file = some front) :
    w.refresh.1 = false ∧ w.control.Frozen w.refresh.2.control := by
  obtain ⟨⟨reason, refused, failed⟩, frozen⟩ :=
    w.control.refresh_torn torn w.file.text w.now 0
  have stored : w.store = ⟨w.file.text, some front⟩ := by rw [store, content]
  simp only [refresh, stored, failed]
  exact ⟨rfl, frozen⟩

/-- A change of the tree that leaves the file torn does not change the policy, whether the
watch hears of it or not. -/
theorem frozen_act {action : Files.Action} {heard : Bool} {v : Watched}
    (acted : w.act action = some (heard, v)) (torn : Torn rows front)
    (content : v.tree.content? v.file = some front) : w.control.Frozen v.control := by
  simp only [act] at acted
  split at acted
  next _ => cases acted
  next changes tree _ =>
    obtain ⟨-, rfl⟩ := Prod.mk.inj (Option.some.inj acted)
    split
    next heard =>
      rw [if_pos heard] at content
      have content : tree.content? w.file = some front := content
      exact (frozen_refresh (w := { w with tree := tree, watch := _ }) torn content).2
    next _ => exact ⟨rfl, rfl⟩

end Watched

end Control

end Tollgate
