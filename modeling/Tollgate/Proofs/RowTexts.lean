import Tollgate.Proofs.Instants
import Tollgate.Proofs.Writing
import Tollgate.Store.File

/-!
# Rows are read back

A list of rows that is written to a file, in its compact text or with spaces between the
tokens, is read from it again, field for field.
-/

namespace Tollgate

open Document (Fields Reader)
open Json (Laid Token Value)
open Policy (Category Row Status)

theorem Document.readText_ok {α : Type} {read : Reader α} {s : String} {a : α}
    (h : readText read s = .ok a) :
    read .text (Json.Reading.ofText s).root = .ok a ∧ (Json.Reading.ofText s).trailing = false := by
  simp only [readText] at h
  split at h
  next _ _ => cases h
  next accepted =>
    split at h
    next _ => cases h
    next ends =>
      cases h
      exact ⟨accepted, Bool.eq_false_iff.mpr ends⟩

-- ---------------------------------------------------------------------------
-- Rows

theorem Document.Reader.elements_toElements {α : Type} {read : Reader α} {write : α → Value}
    {form : Document.Form} {items : List α}
    (back : ∀ a ∈ items, read form (write a).toNode = .ok a) :
    Reader.elements read form (Value.toElements (items.map write)) = .ok items := by
  induction items with
  | nil => rfl
  | cons a items ih =>
    obtain ⟨first, others⟩ := List.forall_mem_cons.mp back
    simp only [List.map_cons, Value.toElements, Reader.elements, first, ih others]
    rfl

theorem Policy.Category.ofName_name (c : Category) : Category.ofName c.name = c := by
  cases c <;> decide

theorem Policy.Status.ofName_name (s : Status) : Status.ofName s.name = .ok s := by
  cases s <;> rfl

namespace Policy.Row

structure IsProper (r : Row) : Prop where
  startedAt : r.startedAt.IsProper
  endedAt : r.endedAt.IsProper
  updatedAt : r.updatedAt.IsProper

instance (r : Row) : Decidable r.IsProper :=
  decidable_of_iff (r.startedAt.IsProper ∧ r.endedAt.IsProper ∧ r.updatedAt.IsProper)
    ⟨fun h => ⟨h.1, h.2.1, h.2.2⟩, fun h => ⟨h.startedAt, h.endedAt, h.updatedAt⟩⟩

theorem instantReader_text {i : Time.Instant} (h : i.IsProper) :
    instantReader .text (.text i.text) = .ok i := by
  rw [instantReader, Time.Instant.ofLenientText_text h]

theorem reader_toJson {r : Row} (h : r.IsProper) : reader .text r.toJson.toNode = .ok r := by
  have category : Category.reader .text (.text r.category.name) = .ok r.category :=
    congrArg Except.ok r.category.ofName_name
  have status : Status.reader .text (.text r.status.name) = .ok r.status := r.status.ofName_name
  simp only [reader, Reader.as, Except.map, Reader.record, toJson, Value.toNode, Value.toMembers,
    Fields.readMembers, fields, Fields.empty, Fields.put, ↓reduceIte, Reader.text, String.reduceEq,
    category, status, instantReader_text h.startedAt, instantReader_text h.endedAt,
    instantReader_text h.updatedAt, Option.map_some, Fields.finish, Option.or_none, Option.or_some,
    Option.getD_some, bind_pure_comp, Except.map_ok, map_bind]
  rfl

theorem isProper_of_instantReader {form : Document.Form} {n : Document.Node} {i : Time.Instant}
    (h : instantReader form n = .ok i) : i.IsProper := by
  cases n with
  | text s =>
    simp only [instantReader] at h
    split at h
    next read =>
      obtain rfl := Except.ok.inj h
      exact Time.Instant.isProper_of_ofLenientText read
    next => cases h
  | _ => cases h

theorem isProper_of_reader {form : Document.Form} {n : Document.Node} {r : Row}
    (h : reader form n = .ok r) : r.IsProper := by
  cases read : Reader.record "ConfigurationRecord" fields form n with
  | error p => simp [reader, Reader.as, read, Except.map] at h
  | ok values =>
    obtain ⟨-, -, -, -, startedAt, endedAt, updatedAt, -⟩ := Reader.given_of_record read
    simp only [reader, Reader.as, read, Except.map, Except.ok.injEq] at h
    subst h
    have proper : ∀ {i : Time.Instant}, (none = some i ∨ ∃ form n, instantReader form n = .ok i) →
        i.IsProper := by
      rintro i (absent | ⟨form, n, read⟩)
      · cases absent
      · exact isProper_of_instantReader read
    exact ⟨proper startedAt, proper endedAt, proper updatedAt⟩

def tokensOf (rows : List Row) : List Token :=
  (Value.list (rows.map toJson)).tokens

theorem exact_tokens_toJson (r : Row) : ∀ t ∈ r.toJson.tokens, t.isExact := by
  simp [toJson, Value.tokens, Value.memberTokens, Token.isExact]

theorem exact_itemTokens (rows : List Row) :
    ∀ t ∈ Value.itemTokens (rows.map toJson), t.isExact := by
  induction rows with
  | nil => simp [Value.itemTokens]
  | cons r rows ih =>
    simp only [List.map_cons, Value.itemTokens]
    exact List.forall_mem_cons.mpr
      ⟨rfl, List.forall_mem_append.mpr ⟨exact_tokens_toJson r, ih⟩⟩

theorem exact_tokensOf (rows : List Row) : ∀ t ∈ tokensOf rows, t.isExact := by
  cases rows with
  | nil => simp [tokensOf, Value.tokens, Token.isExact]
  | cons r rows =>
    simp only [tokensOf, List.map_cons, Value.tokens]
    refine List.forall_mem_append.mpr ⟨List.forall_mem_cons.mpr ⟨rfl, ?_⟩, by simp [Token.isExact]⟩
    exact List.forall_mem_append.mpr ⟨exact_tokens_toJson r, exact_itemTokens rows⟩

end Policy.Row

-- ---------------------------------------------------------------------------
-- Files

namespace Store.File

open Policy.Row (exact_tokensOf tokensOf)

theorem toList_textOf (rows : List Row) :
    (textOf rows).toList = (tokensOf rows).flatMap Value.spell := by
  rw [textOf, Value.write, String.toList_ofList]
  rfl

theorem laid_textOf (rows : List Row) : Laid (tokensOf rows) (textOf rows).toList := by
  rw [toList_textOf]
  exact Json.laid_flatMap_spell _

theorem exists_toList_textOf (rows : List Row) :
    ∃ inner, (textOf rows).toList = '[' :: inner ++ [']'] := by
  rw [toList_textOf]
  cases rows with
  | nil => exact ⟨[], rfl⟩
  | cons r rows =>
    simp only [tokensOf, List.map_cons, Value.tokens, List.cons_append, List.flatMap_cons,
      List.flatMap_append, List.flatMap_nil, List.append_nil]
    exact ⟨_, rfl⟩

theorem rows_of_not_blank {content : String} (visible : Text.isBlankText content = false) :
    rows content = Document.readText (Reader.list Row.reader) content := by
  rw [rows, visible]
  rfl

theorem trailing_of_laid {rows : List Row} {content : String}
    (laid : Laid (tokensOf rows) content.toList) :
    (Json.Reading.ofText content).trailing = false := by
  rw [Json.Reading.ofText_of_laid laid (Row.exact_tokensOf rows)]

theorem visible_of_laid {rows : List Row} {content : String}
    (laid : Laid (tokensOf rows) content.toList) : Text.isBlankText content = false := by
  obtain ⟨ts, opened⟩ : ∃ ts, tokensOf rows = .openList :: ts := by
    cases rows with
    | nil => exact ⟨_, rfl⟩
    | cons r rows => exact ⟨_, rfl⟩
  rw [opened] at laid
  generalize chars : content.toList = cs at laid
  cases laid with
  | cons t blank later =>
    rw [Text.isBlankText, chars, List.all_eq_false]
    exact ⟨'[', by simp [Value.spell], by decide⟩

theorem rows_of_laid {written : List Row} (proper : ∀ r ∈ written, r.IsProper) {content : String}
    (laid : Laid (tokensOf written) content.toList) : rows content = .ok written := by
  have elements : Reader.list Row.reader .text (Value.list (written.map Row.toJson)).toNode =
      .ok written :=
    Reader.elements_toElements fun r mem => Row.reader_toJson (proper r mem)
  rw [rows_of_not_blank (visible_of_laid laid), Document.readText,
    Json.Reading.ofText_of_laid laid (exact_tokensOf written)]
  simp only [elements]
  rfl

theorem rows_textOf {written : List Row} (proper : ∀ r ∈ written, r.IsProper) :
    rows (textOf written) = .ok written :=
  rows_of_laid proper (laid_textOf written)

theorem isProper_of_rows {content : String} {found : List Row} (h : rows content = .ok found) :
    ∀ r ∈ found, r.IsProper := by
  intro r mem
  cases blank : Text.isBlankText content with
  | true =>
    rw [rows, if_pos blank] at h
    obtain rfl := Except.ok.inj h
    cases mem
  | false =>
    rw [rows_of_not_blank blank] at h
    obtain ⟨items, -, elements⟩ := Reader.list_ok (Document.readText_ok h).1
    obtain ⟨n, read⟩ := Reader.of_mem_elements elements mem
    exact Row.isProper_of_reader read

end Store.File

end Tollgate
