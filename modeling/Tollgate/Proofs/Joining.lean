import Tollgate.Config.Validation
import Tollgate.Proofs.Spellings

/-!
# Routes from two fields

The key of a configured route is read from its two fields as one text, with a space between
them. If the method field is a method and the path field starts with a slash, the key keeps
both. In two other cases a key is read as well: from the path field alone, under a blank
method field, and from the method field alone, with the path field moved behind its pattern.
Such a key never keeps the fields.
-/

namespace Tollgate

theorem append_eq_append_cons {α : Type} {front back left right : List α} {x : α}
    (h : front ++ back = left ++ x :: right) :
    (∃ mid, left = front ++ mid ∧ back = mid ++ x :: right) ∨
      ∃ mid, front = left ++ x :: mid ∧ right = mid ++ back := by
  rcases List.append_eq_append_iff.mp h with ⟨mid, rfl, rfl⟩ | ⟨mid, rfl, same⟩
  · exact .inl ⟨mid, rfl, rfl⟩
  · cases mid with
    | nil => exact .inl ⟨[], by simp, by simpa using same.symm⟩
    | cons y mid =>
      obtain ⟨rfl, rfl⟩ := List.cons.inj same
      exact .inr ⟨mid, rfl, rfl⟩

namespace Config

open Tollgate.Route (Key)
open Tollgate.Route.Key (Written ofParts ofText?)

/-- The key has the method and the path that the fields are, without the blanks around them. -/
def Route.Keeps (r : Config.Route) (k : Key) : Prop :=
  k.method = Text.upperCase (Text.trim r.method) ∧ k.pattern = Text.trim r.path

structure Route.Proper (r : Config.Route) : Prop where
  letters : (Text.trim r.method).toList ≠ [] ∧ ∀ c ∈ (Text.trim r.method).toList, c.isAlpha
  rooted : (Text.trim r.path).toList.head? = some '/'

/-- Text of one field is taken for the other. -/
inductive Route.Strays (r : Config.Route) : Key → Prop
  | toMethod {k} : Text.isBlankText r.method → ofText? r.path = some k → Strays r k
  | toPattern {method pattern} : Written r.method method pattern →
      Strays r (ofParts (String.ofList method) (Text.trim (String.ofList pattern ++ " " ++ r.path)))

namespace Route

variable {r : Config.Route} {k : Key}

theorem toList_keyText (r : Config.Route) :
    r.keyText.toList = r.method.toList ++ ' ' :: r.path.toList := by
  simp [keyText, String.toList_append]

-- ---------------------------------------------------------------------------
-- Fields that are kept

theorem Proper.key?_eq (h : r.Proper) :
    r.key? = some (ofParts (Text.trim r.method) (Text.trim r.path)) := by
  obtain ⟨letters, rooted⟩ := h
  obtain ⟨left, gap, around, blankLeft, blankGap⟩ := Text.exists_trimBoth r.method.toList
  obtain ⟨more, right, around', blankMore, blankRight⟩ := Text.exists_trimBoth r.path.toList
  have trimmed : Text.trimBoth (Text.trimBoth r.path.toList ++ right) =
      Text.trimBoth r.path.toList := by
    rw [Text.trimBoth_append_right blankRight, Text.trimBoth_trimBoth]
  have written : Written r.keyText (Text.trim r.method).toList
      (Text.trimBoth r.path.toList ++ right) := by
    refine .intro left (gap ++ ' ' :: more) ?_ ⟨blankLeft, ?_⟩ (by simp) letters ?_
    · rw [toList_keyText]
      nth_rewrite 1 [around, around']
      simp
    · refine List.forall_mem_append.mpr ⟨blankGap, List.forall_mem_cons.mpr ⟨rfl, blankMore⟩⟩
    · rw [← Text.toList_trim, List.head?_append, rooted, Option.some_or]
  rw [key?, Key.ofText?_of_written written, trimmed]
  simp [Text.trim]

theorem Proper.keeps (h : r.Proper) : r.Keeps (ofParts (Text.trim r.method) (Text.trim r.path)) :=
  Key.parts_ofParts (Key.isMethod_iff.mpr h.letters) _

-- ---------------------------------------------------------------------------
-- Fields that are not

theorem Strays.key?_eq (h : r.Strays k) : r.key? = some k := by
  cases h with
  | toMethod blank named =>
    obtain ⟨method, pattern, written⟩ := Key.exists_written named
    have first := Key.ofText?_of_written written
    obtain ⟨left, gap, text, ⟨blankLeft, blankGap⟩, parted, letters, rooted⟩ := written
    have whole : Written r.keyText method pattern := by
      refine .intro (r.method.toList ++ ' ' :: left) gap (by simp [toList_keyText, text])
        ⟨?_, blankGap⟩ parted letters rooted
      exact List.forall_mem_append.mpr
        ⟨List.all_eq_true.mp blank, List.forall_mem_cons.mpr ⟨rfl, blankLeft⟩⟩
    rw [key?, Key.ofText?_of_written whole, ← first, named]
  | @toPattern method pattern written =>
    obtain ⟨left, gap, text, blanks, parted, letters, rooted⟩ := written
    have whole : Written r.keyText method (pattern ++ ' ' :: r.path.toList) := by
      refine .intro left gap (by simp [toList_keyText, text]) blanks parted letters ?_
      rw [List.head?_append, rooted, Option.some_or]
    rw [key?, Key.ofText?_of_written whole]
    simp [Text.trim, String.toList_append]

/-- The space between the fields falls behind the start of the pattern, in the gap before it,
or in the blanks before the method. -/
theorem proper_or_strays (h : r.key? = some k) : r.Proper ∨ r.Strays k := by
  obtain ⟨method, pattern, written⟩ := Key.exists_written h
  have named : k = ofParts (String.ofList method) (String.ofList (Text.trimBoth pattern)) := by
    simpa [key?, Key.ofText?_of_written written] using h.symm
  obtain ⟨left, gap, text, ⟨blankLeft, blankGap⟩, parted, letters, rooted⟩ := written
  rw [toList_keyText] at text
  rcases append_eq_append_cons text.symm with ⟨mid, inMethod, rfl⟩ | ⟨mid, before, inPath⟩
  · have starts : mid.head? = some '/' := by
      cases mid with
      | nil => simp at rooted
      | cons c mid => simpa using rooted
    have own : Written r.method method mid :=
      .intro left gap inMethod ⟨blankLeft, blankGap⟩ parted letters starts
    have joined : String.ofList (Text.trimBoth (mid ++ ' ' :: r.path.toList)) =
        Text.trim (String.ofList mid ++ " " ++ r.path) := by
      simp [Text.trim, String.toList_append]
    rw [named, joined]
    exact .inr (.toPattern own)
  rcases append_eq_append_cons before with ⟨mid', inMethod, rfl⟩ | ⟨mid', ahead, rfl⟩
  · obtain ⟨blankBack, blankFront⟩ := List.forall_mem_append.mp blankGap
    obtain ⟨-, blankFront⟩ := List.forall_mem_cons.mp blankFront
    have visible : ∀ c ∈ method, Text.isBlank c = false := fun c mem =>
      Text.not_isBlank_of_isLetter ((Key.isAlpha_iff c).mp (letters.2 c mem))
    have trimmed : (Text.trim r.method).toList = method := by
      rw [Text.toList_trim, inMethod, Text.trimBoth_append blankLeft blankBack,
        Text.trimBoth_visible visible]
    have path : (Text.trim r.path).toList = Text.trimBoth pattern := by
      rw [Text.toList_trim, inPath, Text.trimBoth_append_left blankFront]
    exact .inl ⟨trimmed ▸ letters, path ▸ Key.rooted_trimBoth rooted⟩
  rcases append_eq_append_cons ahead with ⟨mid, -, rfl⟩ | ⟨left', rfl, rfl⟩
  · have space : ' '.isAlpha := letters.2 ' ' (by simp)
    cases space
  · obtain ⟨blankMethod, blankBack⟩ := List.forall_mem_append.mp blankLeft
    obtain ⟨-, blankBack⟩ := List.forall_mem_cons.mp blankBack
    have own : Written r.path method pattern :=
      .intro left' gap inPath ⟨blankBack, blankGap⟩ parted letters rooted
    exact .inr (.toMethod (List.all_eq_true.mpr blankMethod) (named ▸ Key.ofText?_of_written own))

theorem Strays.not_keeps (h : r.Strays k) : ¬r.Keeps k := by
  rintro ⟨method, -⟩
  have capitals := (Key.normal_of_ofText? h.key?_eq).capitals
  cases h with
  | toMethod blank _ =>
    have empty : Text.trim r.method = "" := by
      rw [Text.trim, Text.trimBoth_eq_nil_iff.mpr blank, String.ofList_nil]
    exact capitals.1 (by rw [method, empty]; rfl)
  | toPattern written =>
    obtain ⟨left, gap, text, -, -, -, rooted⟩ := written
    obtain ⟨front, back, around, blankFront, blankBack⟩ := Text.exists_trimBoth r.method.toList
    have visible : ¬Text.isBlank '/' := by decide
    have slash : '/' ∈ Text.trimBoth r.method.toList := by
      have mem : '/' ∈ r.method.toList := by
        rw [text]
        exact List.mem_append_right _ (List.mem_of_mem_head? rooted)
      rw [around, List.mem_append, List.mem_append] at mem
      rcases mem with (inFront | inside) | inBack
      · exact absurd (blankFront _ inFront) visible
      · exact inside
      · exact absurd (blankBack _ inBack) visible
    have upper : '/'.isUpper := by
      refine capitals.2 '/' ?_
      rw [method]
      simp only [Text.upperCase, String.toList_ofList, Text.toList_trim, List.mem_map]
      exact ⟨'/', slash, rfl⟩
    cases upper

/-- The key of a route keeps its fields exactly if each of them is what it is called; of any
other route a key is read exactly if text of one field is taken for the other. -/
theorem key_of_fields (r : Config.Route) :
    (r.Proper → ∃ k, r.key? = some k ∧ r.Keeps k) ∧
      (¬r.Proper → ∀ k, r.key? = some k ↔ r.Strays k) ∧
      ∀ k, r.Strays k → ¬r.Keeps k := by
  refine ⟨fun proper => ⟨_, proper.key?_eq, proper.keeps⟩, fun improper k => ⟨fun named => ?_, ?_⟩,
    fun k => Strays.not_keeps⟩
  · exact (proper_or_strays named).resolve_left improper
  · exact Strays.key?_eq

theorem key_of_fields_padded :
    (∃ k, key? ⟨" get", "/x "⟩ = some k ∧ Keeps ⟨" get", "/x "⟩ k) ∧
      key? ⟨" ", "GET /x"⟩ = some ⟨"GET /x"⟩ ∧ ¬Keeps ⟨" ", "GET /x"⟩ ⟨"GET /x"⟩ := by
  have trimmed : Text.trim " get" = "get" := by decide +kernel
  have proper : Proper ⟨" get", "/x "⟩ := ⟨by simp [trimmed], by decide +kernel⟩
  have improper : ¬Proper ⟨" ", "GET /x"⟩ := fun h => h.letters.1 (by decide +kernel)
  have strays : Strays ⟨" ", "GET /x"⟩ ⟨"GET /x"⟩ := .toMethod rfl (by decide +kernel)
  obtain ⟨-, named, never⟩ := key_of_fields ⟨" ", "GET /x"⟩
  exact ⟨(key_of_fields _).1 proper, (named improper _).mpr strays, never _ strays⟩

/-- A valid configuration with a route of which neither field is what it is called. It mounts
`/a b`, which nobody wrote. -/
theorem path_moved_into_method :
    Config.isValid { Config.default with routes := [⟨"GET /a", "b"⟩] } ∧
      key? ⟨"GET /a", "b"⟩ = some ⟨"GET /a b"⟩ ∧ ¬Proper ⟨"GET /a", "b"⟩ ∧
      ¬Keeps ⟨"GET /a", "b"⟩ ⟨"GET /a b"⟩ := by
  refine ⟨by decide +kernel, by decide +kernel, fun proper => ?_, fun keeps => ?_⟩
  · exact absurd proper.rooted (by decide +kernel)
  · exact absurd keeps.1 (by decide +kernel)

end Route

end Config

end Tollgate
