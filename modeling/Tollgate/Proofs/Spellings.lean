import Mathlib
import Tollgate.Proofs.Keys

/-!
# The normal form of keys

A text is read as a key if it is a method of letters, blanks, and a pattern that starts with
a slash, up to blanks around it. What is read is a normal form: its own text is read as
itself, and two texts give one key exactly if their methods are the same up to case and their
patterns are the same up to blanks around them.
-/

namespace Tollgate.Route.Key

/-- A text has a method and a pattern. Blanks may stand in front of the method, and the
pattern, which is all of the rest, may end in some. -/
inductive Written (s : String) (method pattern : List Char) : Prop
  | intro (left gap : List Char) (text : s.toList = left ++ method ++ gap ++ pattern)
      (blanks : Text.Blanks left ∧ Text.Blanks gap) (parted : gap ≠ [])
      (letters : method ≠ [] ∧ ∀ c ∈ method, c.isAlpha) (rooted : pattern.head? = some '/')

variable {s t : String} {k : Key} {method pattern method' pattern' : List Char}

theorem isAlpha_iff (c : Char) : c.isAlpha ↔ Text.isLetter c := by
  simp [Char.isAlpha, Char.isUpper, Char.isLower, Text.isLetter, Char.le_def, or_comm]

theorem isMethod_iff : isMethod method ↔ method ≠ [] ∧ ∀ c ∈ method, c.isAlpha := by
  simp [isMethod, isAlpha_iff]

theorem isPattern_iff : isPattern pattern ↔ pattern.head? = some '/' := by
  cases pattern with
  | nil => simp [isPattern]
  | cons c rest =>
    unfold isPattern
    split <;> simp_all

-- ---------------------------------------------------------------------------
-- Reading

theorem rooted_trimBoth (rooted : pattern.head? = some '/') :
    (Text.trimBoth pattern).head? = some '/' := by
  obtain ⟨left, right, around, blankLeft, blankRight⟩ := Text.exists_trimBoth pattern
  rw [around] at rooted
  have visible : ¬Text.isBlank '/' := by decide
  cases left with
  | cons c rest =>
    obtain rfl : c = '/' := by simpa using rooted
    exact absurd (blankLeft _ List.mem_cons_self) visible
  | nil =>
    cases trimmed : Text.trimBoth pattern with
    | cons c rest => simpa [trimmed] using rooted
    | nil =>
      have last : right.head? = some '/' := by simpa [trimmed] using rooted
      exact absurd (blankRight _ (List.mem_of_mem_head? last)) visible

theorem ofText?_of_written (h : Written s method pattern) :
    ofText? s = some (ofParts (String.ofList method) (String.ofList (Text.trimBoth pattern))) := by
  obtain ⟨left, gap, text, ⟨blankLeft, blankGap⟩, parted, letters, rooted⟩ := h
  obtain ⟨before, after, around, blankBefore, blankAfter⟩ := Text.exists_trimBoth pattern
  refine ofText?_of_spells (.intro left method (gap ++ before) (Text.trimBoth pattern) after ?_
    (isMethod_iff.mpr letters) (isPattern_iff.mpr (rooted_trimBoth rooted))
    (fun _ => Text.not_isBlank_getLast_trimBoth) (by simp [parted]) ?_)
  · rw [text]
    nth_rewrite 1 [around]
    simp
  · have blankMiddle : Text.Blanks (gap ++ before) :=
      List.forall_mem_append.mpr ⟨blankGap, blankBefore⟩
    simp [blankLeft, blankMiddle, blankAfter]

theorem exists_written (h : ofText? s = some k) : ∃ method pattern, Written s method pattern := by
  obtain ⟨left, method, gap, pattern, right, text, letters, slash, -, parted, blanks⟩ :=
    spells_of_ofText? h
  obtain ⟨blankLeft, blankGap, -⟩ : Text.Blanks left ∧ Text.Blanks gap ∧ Text.Blanks right := by
    simpa using blanks
  refine ⟨method, pattern ++ right, .intro left gap (by simp [text]) ⟨blankLeft, blankGap⟩ parted
    (isMethod_iff.mp letters) ?_⟩
  rw [List.head?_append, isPattern_iff.mp slash, Option.some_or]

-- ---------------------------------------------------------------------------
-- What is read

/-- A key is its method in capitals, one space, and its pattern without blanks around it,
and reading or making it again changes nothing. -/
structure Normal (k : Key) : Prop where
  text : k.text = k.method ++ " " ++ k.pattern
  capitals : k.method ≠ "" ∧ ∀ c ∈ k.method.toList, c.isUpper
  rooted : k.pattern.toList.head? = some '/'
  trimmed : ∀ c, k.pattern.toList.getLast? = some c → ¬Text.isBlank c
  reread : ofText? k.text = some k
  rebuilt : k = ofParts k.method k.pattern

theorem parts_of_written (h : Written s method pattern) (named : ofText? s = some k) :
    k.method = Text.upperCase (String.ofList method) ∧
      k.pattern = String.ofList (Text.trimBoth pattern) := by
  rw [ofText?_of_written h, Option.some_inj] at named
  obtain ⟨-, -, -, -, -, letters, -⟩ := h
  exact named ▸ parts_ofParts (by simpa using isMethod_iff.mpr letters) _

theorem upperCase_upperCase (s : String) :
    Text.upperCase (Text.upperCase s) = Text.upperCase s := by
  simp [Text.upperCase, Function.comp_def]

theorem normal_of_ofText? (h : ofText? s = some k) : k.Normal := by
  obtain ⟨method, pattern, written⟩ := exists_written h
  obtain ⟨named, ended⟩ := parts_of_written written h
  obtain ⟨-, -, -, -, -, ⟨some, letters⟩, rooted⟩ := written
  have text : k.text = k.method ++ " " ++ k.pattern := by
    rw [← String.toList_inj, (hasParts_of_ofText? h).toList_text]
    simp [String.toList_append]
  have rebuilt : k = ofParts k.method k.pattern := by
    rw [ofParts, named, upperCase_upperCase, ← named, ← text]
  have chars : k.method.toList = method.map Char.toUpper := by simp [named, Text.upperCase]
  have path : k.pattern.toList = Text.trimBoth pattern := by simp [ended]
  have capitals : ∀ c ∈ k.method.toList, c.isUpper := by
    rw [chars]
    intro c mem
    obtain ⟨d, own, rfl⟩ := List.mem_map.mp mem
    simpa using letters d own
  refine ⟨text, ⟨fun none => ?_, capitals⟩, path ▸ rooted_trimBoth rooted, fun c last => ?_, ?_,
    rebuilt⟩
  · rw [none] at chars
    exact some (by simpa using chars.symm)
  · rw [path] at last
    simp [Text.not_isBlank_getLast_trimBoth last]
  · have again : Written k.text k.method.toList k.pattern.toList := by
      refine .intro [] [' '] (by simp [text, String.toList_append]) ⟨?_, ?_⟩ (by simp) ⟨?_, ?_⟩
        (path ▸ rooted_trimBoth rooted)
      · exact Text.blanks_nil
      · simp [Text.Blanks, Text.isBlank]
      · simpa [chars] using some
      · intro c mem
        simp [Char.isAlpha, capitals c mem]
    rw [ofText?_of_written again, path, Text.trimBoth_trimBoth, ← path]
    simp [← rebuilt]

theorem map_toUpper_eq_iff {cs ds : List Char} :
    cs.map Char.toUpper = ds.map Char.toUpper ↔ cs.map Char.toLower = ds.map Char.toLower := by
  constructor
  · intro same
    simpa [Function.comp_def] using congrArg (List.map Char.toLower) same
  · intro same
    simpa [Function.comp_def] using congrArg (List.map Char.toUpper) same

theorem ofText?_eq_iff (hs : Written s method pattern) (ht : Written t method' pattern') :
    ofText? s = ofText? t ↔ method.map Char.toLower = method'.map Char.toLower ∧
      Text.trimBoth pattern = Text.trimBoth pattern' := by
  have namedS := ofText?_of_written hs
  have namedT := ofText?_of_written ht
  obtain ⟨methodS, patternS⟩ := parts_of_written hs namedS
  obtain ⟨methodT, patternT⟩ := parts_of_written ht namedT
  rw [namedS, namedT, Option.some_inj, ← map_toUpper_eq_iff]
  constructor
  · intro same
    rw [same] at methodS patternS
    have methods := methodS.symm.trans methodT
    have patterns := patternS.symm.trans patternT
    exact ⟨String.ofList_injective (by simpa [Text.upperCase] using methods),
      String.ofList_injective patterns⟩
  · rintro ⟨methods, patterns⟩
    simp [ofParts, Text.upperCase, methods, patterns]

/-- The texts that are read as a key, what the keys are like that are read, and when two
texts give one key. -/
theorem normal_form :
    (∀ s, (∃ k, ofText? s = some k) ↔ ∃ method pattern, Written s method pattern) ∧
      (∀ s k, ofText? s = some k → k.Normal) ∧
      ∀ s t method pattern method' pattern', Written s method pattern →
        Written t method' pattern' →
        (ofText? s = ofText? t ↔ method.map Char.toLower = method'.map Char.toLower ∧
          Text.trimBoth pattern = Text.trimBoth pattern') := by
  refine ⟨fun s => ⟨?_, ?_⟩, fun s k => normal_of_ofText?, fun _ _ _ _ _ _ => ofText?_eq_iff⟩
  · rintro ⟨k, named⟩
    exact exists_written named
  · rintro ⟨method, pattern, written⟩
    exact ⟨_, ofText?_of_written written⟩

/-- One key in two spellings, with blanks of several kinds, one of them inside its pattern. -/
theorem normal_form_spaced :
    Normal ⟨"GET /a b"⟩ ∧ ofText? "get \t/a b\n" = ofText? "\u3000Get\u00a0/a b" := by
  have first : Written "get \t/a b\n" "get".toList "/a b\n".toList :=
    .intro [] [' ', '\t'] (by decide) (by simp [Text.Blanks, Text.isBlank]) (by simp)
      (by simp) (by decide)
  have second : Written "\u3000Get\u00a0/a b" "Get".toList "/a b".toList :=
    .intro ['\u3000'] ['\u00a0'] (by decide) (by simp [Text.Blanks, Text.isBlank]) (by simp)
      (by simp) (by decide)
  obtain ⟨-, normal, same⟩ := normal_form
  exact ⟨normal "get \t/a b\n" _ (by decide +kernel),
    (same _ _ _ _ _ _ first second).mpr (by decide +kernel)⟩

end Tollgate.Route.Key
