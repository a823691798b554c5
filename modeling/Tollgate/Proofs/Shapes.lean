import Mathlib.Data.List.Forall2
import Tollgate.Proofs.Grammar
import Tollgate.Proofs.Keys

/-!
# Shapes of patterns

The segments of a pattern that keeps to the rules are literal, captures, or catch-alls. Two
such patterns have one shape exactly if they agree segment by segment: in the kind of the
segment, and in the text of literal ones.
-/

namespace Tollgate.Route

namespace Pattern

-- ---------------------------------------------------------------------------
-- Segments

inductive Formed : List Char → Prop
  | literal (text : List Char) (plain : ∀ c ∈ text, isBrace c = false) : Formed text
  | capture (name : List Char) (named : isName name) : Formed (captureOf name)
  | catchAll (name : List Char) (named : isName name) : Formed (catchAllOf name)

/-- Two segments are of one kind, and literal ones are the same. -/
inductive Alike : List Char → List Char → Prop
  | literal (text : List Char) (plain : ∀ c ∈ text, isBrace c = false) : Alike text text
  | capture (name other : List Char) (named : isName name) (named' : isName other) :
      Alike (captureOf name) (captureOf other)
  | catchAll (name other : List Char) (named : isName name) (named' : isName other) :
      Alike (catchAllOf name) (catchAllOf other)

theorem formed_of_checkSegment {last : Bool} {s : List Char} (h : checkSegment last s = .ok ()) :
    Formed s := by
  cases checkSegment_eq_ok.mp h with
  | literal plain _ => exact .literal s (by simpa using mt any_isBrace_iff.mp (not_not_intro plain))
  | capture named => exact .capture _ (isName_iff.mpr named)
  | catchAll named _ => exact .catchAll _ (isName_iff.mpr named)

theorem formed_of_checkAll {segments : List (List Char)} (h : checkAll segments = .ok ()) :
    ∀ s ∈ segments, Formed s := by
  induction segments with
  | nil => simp
  | cons first rest ih =>
    simp only [checkAll] at h
    split at h
    next _ => cases h
    next accepted => exact List.forall_mem_cons.mpr ⟨formed_of_checkSegment accepted, ih h⟩

-- ---------------------------------------------------------------------------
-- Shapes

theorem not_plain_cons {rest : List Char} : ¬∀ c ∈ '\x7b' :: rest, isBrace c = false :=
  fun plain => absurd (plain _ List.mem_cons_self) (by decide)

theorem eraseName_of_plain {text : List Char} (plain : ∀ c ∈ text, isBrace c = false) :
    eraseName text = text := by
  unfold eraseName
  split
  next => exact absurd plain not_plain_cons
  next => exact absurd plain not_plain_cons
  next => rfl

theorem eraseName_captureOf {name : List Char} (named : isName name) :
    eraseName (captureOf name) = captureOf [] := by
  cases name with
  | nil => cases named
  | cons c rest =>
    have other : c ≠ '*' := by
      rintro rfl
      simp [isName] at named
    simp [captureOf, eraseName, other]

theorem eraseName_catchAllOf (name : List Char) : eraseName (catchAllOf name) = catchAllOf [] :=
  rfl

theorem eraseName_of_alike {s t : List Char} (h : Alike s t) : eraseName s = eraseName t := by
  cases h with
  | literal _ _ => rfl
  | capture _ _ named named' => rw [eraseName_captureOf named, eraseName_captureOf named']
  | catchAll _ _ _ _ => rfl

theorem alike_of_eraseName {s t : List Char} (hs : Formed s) (ht : Formed t)
    (h : eraseName s = eraseName t) : Alike s t := by
  cases hs with
  | literal _ plain =>
    rw [eraseName_of_plain plain] at h
    cases ht with
    | literal _ plain' =>
      rw [eraseName_of_plain plain'] at h
      exact h ▸ .literal s plain
    | capture name named =>
      rw [eraseName_captureOf named] at h
      exact absurd (h ▸ plain) not_plain_cons
    | catchAll name _ =>
      rw [eraseName_catchAllOf] at h
      exact absurd (h ▸ plain) not_plain_cons
  | capture name named =>
    rw [eraseName_captureOf named] at h
    cases ht with
    | literal _ plain =>
      rw [eraseName_of_plain plain] at h
      exact absurd (h ▸ plain) not_plain_cons
    | capture other named' => exact .capture name other named named'
    | catchAll other _ =>
      rw [eraseName_catchAllOf] at h
      exact absurd h (by decide)
  | catchAll name named =>
    rw [eraseName_catchAllOf] at h
    cases ht with
    | literal _ plain =>
      rw [eraseName_of_plain plain] at h
      exact absurd (h ▸ plain) not_plain_cons
    | capture other named' =>
      rw [eraseName_captureOf named'] at h
      exact absurd h (by decide)
    | catchAll other named' => exact .catchAll name other named named'

theorem map_eraseName_eq_iff {ss ts : List (List Char)} (hs : ∀ s ∈ ss, Formed s)
    (ht : ∀ t ∈ ts, Formed t) : ss.map eraseName = ts.map eraseName ↔ List.Forall₂ Alike ss ts := by
  induction ss generalizing ts with
  | nil => simp [eq_comm]
  | cons s ss ih =>
    cases ts with
    | nil => simp
    | cons t ts =>
      obtain ⟨formed, hs⟩ := List.forall_mem_cons.mp hs
      obtain ⟨formed', ht⟩ := List.forall_mem_cons.mp ht
      rw [List.map_cons, List.map_cons, List.cons_eq_cons, ih hs ht, List.forall₂_cons]
      exact and_congr_left fun _ => ⟨alike_of_eraseName formed formed', eraseName_of_alike⟩

def Agree (p q : String) : Prop :=
  List.Forall₂ Alike (segments p.toList) (segments q.toList)

def Rooted (p : String) : Prop :=
  Key.isPattern p.toList

theorem shape_of_rooted {p : String} (rooted : Rooted p) :
    shape p = [] :: (segments p.toList).map eraseName := by
  unfold Rooted Key.isPattern at rooted
  split at rooted
  next path text =>
    rw [shape, segments, text, Text.pieces_cons_separator rfl]
    rfl
  next _ => cases rooted

theorem shape_eq_iff {p q : String} (rooted : Rooted p) (rooted' : Rooted q)
    (accepted : check p = .ok ()) (accepted' : check q = .ok ()) :
    shape p = shape q ↔ Agree p q := by
  rw [shape_of_rooted rooted, shape_of_rooted rooted', List.cons_eq_cons,
    map_eraseName_eq_iff (formed_of_checkAll accepted) (formed_of_checkAll accepted')]
  simp [Agree]

end Pattern

theorem Key.rooted_of_ofText? {s : String} {k : Key} (h : ofText? s = some k) :
    Pattern.Rooted k.pattern := by
  obtain ⟨left, method, gap, pattern, right, -, isMethod, isPattern, -, -, -⟩ :=
    spells_of_ofText? h
  have letters : Key.isMethod (String.ofList method).toList := by simpa using isMethod
  rw [(parts_ofParts letters (String.ofList pattern)).2, Pattern.Rooted, String.toList_ofList]
  exact isPattern

end Tollgate.Route
