import Tollgate.Proofs.Texts
import Tollgate.Route.Pattern

/-!
# The grammar of patterns

Between its slashes a pattern has literals, captures, and, in the last place, a catch-all.
Checking a pattern accepts exactly those of this form. In any other it finds the leftmost
segment that is none of the three, and says what is wrong with it.
-/

namespace Tollgate.Route

def PatternError.segment : PatternError → String
  | .unsupportedCapture s | .partialCapture s | .badName s | .earlyCatchAll s => s

theorem PatternError.message_shows (e : PatternError) :
    ∃ what why, e.message = what ++ "`" ++ e.segment ++ "`" ++ why := by
  cases e with
  | unsupportedCapture s =>
    exact ⟨"segment ", " uses an unsupported capture prefix, write `\x7bname\x7d` instead",
      by simp [message, segment, String.append_assoc]⟩
  | partialCapture s =>
    exact ⟨"segment ", " must be a single `\x7bname\x7d` capture",
      by simp [message, segment, String.append_assoc]⟩
  | badName s =>
    exact ⟨"segment ", " has an invalid capture name",
      by simp [message, segment, String.append_assoc]⟩
  | earlyCatchAll s =>
    exact ⟨"catch-all ", " must be the last segment",
      by simp [message, segment, String.append_assoc]⟩

namespace Pattern

-- ---------------------------------------------------------------------------
-- Segments

def captureOf (name : List Char) : List Char :=
  '\x7b' :: (name ++ ['\x7d'])

def catchAllOf (name : List Char) : List Char :=
  '\x7b' :: '*' :: (name ++ ['\x7d'])

/-- Whether a text starts with one of the signs that other syntaxes capture with. -/
def Foreign (text : List Char) : Prop :=
  text.head? = some ':' ∨ text.head? = some '*'

def Plain (text : List Char) : Prop :=
  '\x7b' ∉ text ∧ '\x7d' ∉ text

def Named (name : List Char) : Prop :=
  name ≠ [] ∧ Plain name ∧ '*' ∉ name ∧ ':' ∉ name

inductive Allowed (last : Bool) : List Char → Prop
  | literal {text} : Plain text → ¬Foreign text → Allowed last text
  | capture {name} : Named name → Allowed last (captureOf name)
  | catchAll {name} : Named name → last → Allowed last (catchAllOf name)

inductive Fault (last : Bool) : List Char → PatternError → Prop
  | foreign {text} : Foreign text → Fault last text (.unsupportedCapture (String.ofList text))
  | partly {text} : ¬Foreign text → ¬Plain text → (∀ inner, text ≠ captureOf inner) →
      Fault last text (.partialCapture (String.ofList text))
  | unnamed {inner} : ¬Named inner → (∀ name, inner = '*' :: name → ¬Named name) →
      Fault last (captureOf inner) (.badName (String.ofList (captureOf inner)))
  | early {name} : Named name → ¬last →
      Fault last (catchAllOf name) (.earlyCatchAll (String.ofList (catchAllOf name)))

variable {last : Bool} {s name inner : List Char} {e : PatternError} {all : List (List Char)}

theorem Fault.message_shows (h : Fault last s e) :
    ∃ what why, e.message = what ++ "`" ++ String.ofList s ++ "`" ++ why := by
  have about : e.segment = String.ofList s := by cases h <;> rfl
  exact about ▸ e.message_shows

theorem isForeignCapture_iff : isForeignCapture s ↔ Foreign s := by
  cases s with
  | nil => simp [isForeignCapture, Foreign]
  | cons c rest =>
    unfold isForeignCapture
    split <;> simp_all [Foreign]

theorem any_isBrace_iff : s.any isBrace ↔ ¬Plain s := by
  simp only [List.any_eq_true, isBrace, Bool.or_eq_true, beq_iff_eq, Plain]
  constructor
  · rintro ⟨c, mem, rfl | rfl⟩ ⟨noLeft, noRight⟩
    · exact noLeft mem
    · exact noRight mem
  · intro h
    by_cases left : '\x7b' ∈ s
    · exact ⟨_, left, .inl rfl⟩
    · exact ⟨'\x7d', by simpa [left] using h, .inr rfl⟩

theorem isName_iff : isName name ↔ Named name := by
  simp only [isName, Named, Plain, isBrace, Bool.and_eq_true, Bool.not_eq_true',
    List.isEmpty_eq_false_iff, List.all_eq_true, Bool.or_eq_false_iff, beq_eq_false_iff_ne,
    bne_iff_ne]
  constructor
  · rintro ⟨some, free⟩
    refine ⟨some, ⟨fun mem => ?_, fun mem => ?_⟩, fun mem => ?_, fun mem => ?_⟩ <;>
      simpa using free _ mem
  · rintro ⟨some, ⟨left, right⟩, star, colon⟩
    refine ⟨some, fun c mem => ⟨⟨⟨?_, ?_⟩, ?_⟩, ?_⟩⟩ <;> rintro rfl <;> contradiction

theorem inside?_eq_some_iff : inside? s = some inner ↔ s = captureOf inner := by
  cases s with
  | nil => simp [inside?, captureOf]
  | cons c rest =>
    simp only [inside?, captureOf, List.cons.injEq]
    constructor
    · intro h
      split at h
      next braces =>
        obtain ⟨first, last⟩ := Bool.and_eq_true_iff.mp braces
        obtain ⟨front, rfl⟩ := List.getLast?_eq_some_iff.mp (beq_iff_eq.mp last)
        cases h
        simpa using first
      next _ => cases h
    · rintro ⟨rfl, rfl⟩
      simp

theorem not_named_star : ¬Named ('*' :: name) := by
  rintro ⟨-, -, free, -⟩
  exact free List.mem_cons_self

-- ---------------------------------------------------------------------------
-- Checking a segment

theorem not_foreign_captureOf : ¬Foreign (captureOf inner) := by
  simp [Foreign, captureOf]

theorem not_plain_captureOf : ¬Plain (captureOf inner) := by
  simp [Plain, captureOf]

theorem checkSegment_literal (plain : Plain s) (own : ¬Foreign s) :
    checkSegment last s = .ok () := by
  simp [checkSegment, Bool.eq_false_iff.mpr (mt isForeignCapture_iff.mp own),
    Bool.eq_false_iff.mpr (mt any_isBrace_iff.mp (not_not_intro plain))]

theorem checkSegment_captureOf (inner : List Char) :
    checkSegment last (captureOf inner) =
      if !isName (nameOf inner).2 then .error (.badName (String.ofList (captureOf inner)))
      else if (nameOf inner).1 && !last then
        .error (.earlyCatchAll (String.ofList (captureOf inner)))
      else .ok () := by
  simp [checkSegment, Bool.eq_false_iff.mpr (mt isForeignCapture_iff.mp not_foreign_captureOf),
    any_isBrace_iff.mpr not_plain_captureOf, inside?_eq_some_iff.mpr rfl]

theorem catchAllOf_eq : catchAllOf name = captureOf ('*' :: name) :=
  rfl

theorem nameOf_of_named (h : Named name) : nameOf name = (false, name) := by
  unfold nameOf
  split
  next => exact absurd h not_named_star
  next => rfl

theorem checkSegment_of_allowed (h : Allowed last s) : checkSegment last s = .ok () := by
  cases h with
  | literal plain own => exact checkSegment_literal plain own
  | capture named => simp [checkSegment_captureOf, nameOf_of_named named, isName_iff.mpr named]
  | catchAll named ends =>
    simp [catchAllOf_eq, checkSegment_captureOf, nameOf, isName_iff.mpr named, ends]

theorem checkSegment_of_fault (h : Fault last s e) : checkSegment last s = .error e := by
  cases h with
  | foreign sign => simp [checkSegment, isForeignCapture_iff.mpr sign]
  | partly own braces part =>
    have outside : inside? s = none :=
      Option.eq_none_iff_forall_ne_some.mpr fun inner found =>
        part inner (inside?_eq_some_iff.mp found)
    simp [checkSegment, Bool.eq_false_iff.mpr (mt isForeignCapture_iff.mp own),
      any_isBrace_iff.mpr braces, outside]
  | @unnamed inner unnamed unstarred =>
    have name : ¬isName (nameOf inner).2 := by
      unfold nameOf
      split
      next name => exact mt isName_iff.mp (unstarred name rfl)
      next => exact mt isName_iff.mp unnamed
    simp [checkSegment_captureOf, Bool.eq_false_iff.mpr name]
  | early named ends =>
    simp [catchAllOf_eq, checkSegment_captureOf, nameOf, isName_iff.mpr named, ends]

theorem allowed_or_fault (last : Bool) (s : List Char) :
    Allowed last s ∨ ∃ e, Fault last s e := by
  by_cases foreign : Foreign s
  · exact .inr ⟨_, .foreign foreign⟩
  by_cases plain : Plain s
  · exact .inl (.literal plain foreign)
  by_cases braced : ∃ inner, s = captureOf inner
  · obtain ⟨inner, rfl⟩ := braced
    by_cases named : Named inner
    · exact .inl (.capture named)
    by_cases starred : ∃ name, inner = '*' :: name ∧ Named name
    · obtain ⟨name, rfl, named'⟩ := starred
      cases last with
      | true => exact .inl (.catchAll named' rfl)
      | false => exact .inr ⟨_, .early named' Bool.false_ne_true⟩
    · exact .inr ⟨_, .unnamed named fun name same named => starred ⟨name, same, named⟩⟩
  · exact .inr ⟨_, .partly foreign plain fun inner same => braced ⟨inner, same⟩⟩

theorem checkSegment_eq_ok : checkSegment last s = .ok () ↔ Allowed last s := by
  refine ⟨fun h => ?_, checkSegment_of_allowed⟩
  rcases allowed_or_fault last s with allowed | ⟨e, fault⟩
  · exact allowed
  · simp [checkSegment_of_fault fault] at h

theorem Fault.not_allowed (h : Fault last s e) : ¬Allowed last s := by
  intro allowed
  simpa [checkSegment_of_fault h] using checkSegment_of_allowed allowed

-- ---------------------------------------------------------------------------
-- Checking all segments

def Grammatical (all : List (List Char)) : Prop :=
  ∃ front last, all = front ++ [last] ∧ (∀ s ∈ front, Allowed false s) ∧ Allowed true last

/-- The leftmost segment that may not stand where it stands, and what is wrong with it. -/
structure Offends (all front : List (List Char)) (s : List Char) (rest : List (List Char))
    (e : PatternError) : Prop where
  split : all = front ++ s :: rest
  before : ∀ t ∈ front, Allowed false t
  here : ¬Allowed rest.isEmpty s
  fault : Fault rest.isEmpty s e
  shown : ∃ what why, e.message = what ++ "`" ++ String.ofList s ++ "`" ++ why

theorem checkAll_append {front : List (List Char)} (h : ∀ t ∈ front, Allowed false t)
    (s : List Char) (rest : List (List Char)) :
    checkAll (front ++ s :: rest) = checkAll (s :: rest) := by
  induction front with
  | nil => rfl
  | cons t front ih =>
    obtain ⟨first, later⟩ := List.forall_mem_cons.mp h
    have more : (front ++ s :: rest).isEmpty = false := by simp
    rw [List.cons_append, checkAll, more, checkSegment_of_allowed first]
    exact ih later

theorem checkAll_of_grammatical (h : Grammatical all) : checkAll all = .ok () := by
  obtain ⟨front, last, rfl, before, ends⟩ := h
  simp [checkAll_append before, checkAll, checkSegment_of_allowed ends]

theorem Offends.checkAll_eq {front rest : List (List Char)} (h : Offends all front s rest e) :
    checkAll all = .error e := by
  rw [h.split, checkAll_append h.before, checkAll, checkSegment_of_fault h.fault]

theorem grammatical_or_offends (some : all ≠ []) :
    Grammatical all ∨ ∃ front s rest e, Offends all front s rest e := by
  induction all with
  | nil => contradiction
  | cons s rest ih =>
    rcases allowed_or_fault rest.isEmpty s with allowed | ⟨e, fault⟩
    · cases rest with
      | nil => exact .inl ⟨[], s, rfl, by simp, allowed⟩
      | cons next more =>
        rcases ih (List.cons_ne_nil next more) with
          ⟨front, last, split, before, ends⟩ | ⟨front, t, rest, e, found⟩
        · exact .inl ⟨s :: front, last, by simp [split],
            List.forall_mem_cons.mpr ⟨allowed, before⟩, ends⟩
        · exact .inr ⟨s :: front, t, rest, e, by simp [found.split],
            List.forall_mem_cons.mpr ⟨allowed, found.before⟩, found.here, found.fault, found.shown⟩
    · exact .inr ⟨[], s, rest, e, rfl, by simp, fault.not_allowed, fault, fault.message_shows⟩

theorem segments_slash (path : String) :
    segments ("/" ++ path).toList = path.toList.splitOn '/' := by
  have chars : ("/" ++ path).toList = '/' :: path.toList := by simp [String.toList_append]
  rw [segments, chars, Text.pieces_cons_separator rfl, Text.pieces_eq_splitOnP,
    List.splitOn_eq_splitOnP, List.drop_one, List.tail_cons]

/-- A pattern is accepted exactly if it keeps to the grammar; otherwise the error is about
the leftmost segment that does not, and shows it. -/
theorem check_grammar (path : String) :
    (check ("/" ++ path) = .ok () ↔ Grammatical (path.toList.splitOn '/')) ∧
      ∀ e, check ("/" ++ path) = .error e ↔
        ∃ front s rest, Offends (path.toList.splitOn '/') front s rest e := by
  have some : path.toList.splitOn '/' ≠ [] := by
    simp [List.splitOn_eq_splitOnP, List.splitOnP_ne_nil]
  rw [check, segments_slash]
  rcases grammatical_or_offends some with kept | ⟨front, s, rest, e, found⟩
  · have accepted := checkAll_of_grammatical kept
    refine ⟨⟨fun _ => kept, fun _ => accepted⟩, fun e => ⟨fun refused => ?_, ?_⟩⟩
    · cases accepted.symm.trans refused
    · rintro ⟨front, s, rest, found⟩
      exact found.checkAll_eq
  · have refused := found.checkAll_eq
    refine ⟨⟨fun accepted => ?_, checkAll_of_grammatical⟩, fun e' => ⟨fun other => ?_, ?_⟩⟩
    · cases accepted.symm.trans refused
    · cases other.symm.trans refused
      exact ⟨front, s, rest, found⟩
    · rintro ⟨front', s', rest', found'⟩
      exact found'.checkAll_eq

end Pattern

end Tollgate.Route
