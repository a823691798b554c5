import Mathlib.Data.List.DropRight
import Tollgate.Text.Ascii
import Tollgate.Text.Pieces

/-!
# Laws of cutting and trimming

A text is cut at its first separator or at all of them. Trimming takes the blanks around a
text away and nothing else, so a second time it changes nothing.
-/

namespace Tollgate.Text

-- ---------------------------------------------------------------------------
-- Cutting

theorem cutAtFirst_eq_some {p : Char → Bool} {cs front back : List Char}
    (h : cutAtFirst p cs = some (front, back)) : ∃ c, p c ∧ cs = front ++ c :: back := by
  induction cs generalizing front with
  | nil => simp [cutAtFirst] at h
  | cons d rest ih =>
    simp only [cutAtFirst] at h
    split at h
    next separates =>
      cases h
      exact ⟨d, separates, rfl⟩
    next _ =>
      obtain ⟨⟨front, back⟩, cut, same⟩ := Option.map_eq_some_iff.mp h
      cases same
      obtain ⟨c, separates, rfl⟩ := ih cut
      exact ⟨c, separates, rfl⟩

theorem cutAtFirst_of_mem {p : Char → Bool} {cs : List Char} {c : Char} (mem : c ∈ cs)
    (separates : p c) : ∃ front back, cutAtFirst p cs = some (front, back) := by
  induction cs with
  | nil => cases mem
  | cons d rest ih =>
    by_cases first : p d
    · exact ⟨[], rest, by simp only [cutAtFirst, first, if_true]⟩
    · have later : c ∈ rest := by
        rcases List.mem_cons.mp mem with rfl | later
        · exact absurd separates first
        · exact later
      obtain ⟨front, back, cut⟩ := ih later
      exact ⟨d :: front, back, by simp only [cutAtFirst, first, cut]; rfl⟩

theorem cutAtFirst_append {p : Char → Bool} {front back : List Char} {c : Char}
    (free : ∀ d ∈ front, ¬p d) (separates : p c) :
    cutAtFirst p (front ++ c :: back) = some (front, back) := by
  induction front with
  | nil => simp only [List.nil_append, cutAtFirst, separates, if_true]
  | cons d rest ih =>
    have later := ih fun e mem => free e (List.mem_cons_of_mem _ mem)
    simp only [List.cons_append, cutAtFirst, free d List.mem_cons_self, later]
    rfl

theorem pieces_eq_splitOnP (isSeparator : Char → Bool) (cs : List Char) :
    pieces isSeparator cs = cs.splitOnP isSeparator := by
  induction cs with
  | nil => simp [pieces]
  | cons c rest ih =>
    obtain ⟨first, more, cut⟩ :=
      List.exists_cons_of_ne_nil (List.splitOnP_ne_nil isSeparator rest)
    simp only [List.splitOnP_cons_eq_if_modifyHead, pieces, ih, cut, List.modifyHead_cons]

theorem head?_pieces (isSeparator : Char → Bool) (cs : List Char) :
    (pieces isSeparator cs).head? = some (cs.takeWhile fun c => !isSeparator c) := by
  induction cs with
  | nil => rfl
  | cons c rest ih =>
    obtain ⟨first, more, cut⟩ := List.exists_cons_of_ne_nil (pieces_ne_nil isSeparator rest)
    have first_eq : first = rest.takeWhile fun c => !isSeparator c := by
      rw [cut] at ih
      exact Option.some.inj ih
    simp only [pieces, cut]
    by_cases separates : isSeparator c
    · simp [separates]
    · simp [separates, first_eq]

-- ---------------------------------------------------------------------------
-- Trimming

def Blanks (cs : List Char) : Prop :=
  ∀ c ∈ cs, isBlank c

theorem trimLeft_append {blanks : List Char} (h : Blanks blanks) (cs : List Char) :
    trimLeft (blanks ++ cs) = trimLeft cs :=
  List.dropWhile_append_of_pos h

theorem trimRight_append {blanks : List Char} (h : Blanks blanks) (cs : List Char) :
    trimRight (cs ++ blanks) = trimRight cs := by
  rw [trimRight, List.reverse_append,
    List.dropWhile_append_of_pos fun c mem => h c (List.mem_reverse.mp mem), trimRight]

/-- It does not matter for trimming what blanks are put around a text. -/
theorem trimBoth_append {left right : List Char} (blankLeft : Blanks left)
    (blankRight : Blanks right) (cs : List Char) :
    trimBoth (left ++ cs ++ right) = trimBoth cs := by
  rw [trimBoth, List.append_assoc, trimLeft_append blankLeft, trimBoth, trimLeft,
    List.dropWhile_append]
  split
  next nothing =>
    have noneRight : right.dropWhile isBlank = [] := List.dropWhile_eq_nil_iff.mpr blankRight
    have noneLeft : trimLeft cs = [] := List.isEmpty_iff.mp nothing
    rw [noneRight, noneLeft]
  next _ => exact trimRight_append blankRight _

theorem blanks_nil : Blanks [] :=
  fun _ mem => nomatch mem

theorem trimBoth_append_right {blanks : List Char} (h : Blanks blanks) (cs : List Char) :
    trimBoth (cs ++ blanks) = trimBoth cs :=
  trimBoth_append blanks_nil h cs

theorem trimBoth_append_left {blanks : List Char} (h : Blanks blanks) (cs : List Char) :
    trimBoth (blanks ++ cs) = trimBoth cs := by
  simpa using trimBoth_append h blanks_nil cs

theorem trimBoth_between {left right cs : List Char} (blankLeft : Blanks left)
    (blankRight : Blanks right) {first last : Char} (head : cs.head? = some first)
    (visibleFirst : isBlank first = false) (getLast : cs.getLast? = some last)
    (visibleLast : isBlank last = false) : trimBoth (left ++ cs ++ right) = cs := by
  obtain ⟨rest, named⟩ := List.head?_eq_some_iff.mp head
  obtain ⟨front, ended⟩ := List.getLast?_eq_some_iff.mp getLast
  have onLeft : trimLeft cs = cs := by simp [named, trimLeft_cons, visibleFirst]
  have onRight : trimRight cs = cs := by simp [ended, trimRight_concat, visibleLast]
  rw [trimBoth_append blankLeft blankRight, trimBoth, onLeft, onRight]

theorem trimBoth_visible {cs : List Char} (h : ∀ c ∈ cs, isBlank c = false) : trimBoth cs = cs := by
  have dropped : ∀ ds : List Char, (∀ c ∈ ds, isBlank c = false) → ds.dropWhile isBlank = ds := by
    intro ds h
    cases ds with
    | nil => rfl
    | cons c ds => simp [h c List.mem_cons_self]
  have backwards : ∀ c ∈ cs.reverse, isBlank c = false := by simpa using h
  simp [trimBoth, trimLeft, trimRight, dropped cs h, dropped _ backwards]

theorem exists_trimBoth (cs : List Char) :
    ∃ left right, cs = left ++ trimBoth cs ++ right ∧ Blanks left ∧ Blanks right := by
  have onLeft : cs.takeWhile isBlank ++ trimLeft cs = cs := List.takeWhile_append_dropWhile
  have onRight : trimBoth cs ++ (trimLeft cs).rtakeWhile isBlank = trimLeft cs :=
    List.rdropWhile_append_rtakeWhile
  refine ⟨cs.takeWhile isBlank, (trimLeft cs).rtakeWhile isBlank, ?_,
    fun c mem => List.mem_takeWhile_imp mem, fun c mem => List.mem_rtakeWhile_imp mem⟩
  rw [List.append_assoc, onRight, onLeft]

theorem not_isBlank_getLast_trimBoth {cs : List Char} {c : Char}
    (last : (trimBoth cs).getLast? = some c) : isBlank c = false := by
  have nonempty : trimBoth cs ≠ [] := by
    rintro empty
    simp [empty] at last
  have visible : ¬isBlank ((trimBoth cs).getLast nonempty) := List.rdropWhile_last_not _ _ _
  rw [(List.getLast_eq_iff_getLast?_eq_some nonempty).mpr last] at visible
  exact Bool.eq_false_iff.mpr visible

theorem trimBoth_trimBoth (cs : List Char) : trimBoth (trimBoth cs) = trimBoth cs := by
  have onRight : trimRight (trimBoth cs) = trimBoth cs := List.rdropWhile_idempotent _ _
  have onLeft : trimLeft (trimBoth cs) = trimBoth cs := by
    rw [trimLeft, List.dropWhile_eq_self_iff]
    intro nonempty
    -- The first character is the one that trimming on the left stopped at.
    have front : trimBoth cs <+: trimLeft cs := List.rdropWhile_prefix _ _
    have inLeft : 0 < (trimLeft cs).length := nonempty.trans_le front.length_le
    rw [front.getElem nonempty]
    exact List.dropWhile_get_zero_not _ cs inLeft
  rw [trimBoth, onLeft, onRight]

theorem trim_trim (s : String) : trim (trim s) = trim s := by
  rw [trim, toList_trim, trimBoth_trimBoth, trim]

theorem all_isBlank_trimBoth (cs : List Char) :
    (trimBoth cs).all isBlank = cs.all isBlank := by
  obtain ⟨left, right, around, blankLeft, blankRight⟩ := exists_trimBoth cs
  have onLeft : left.all isBlank = true := List.all_eq_true.mpr blankLeft
  have onRight : right.all isBlank = true := List.all_eq_true.mpr blankRight
  conv_rhs => rw [around]
  simp [onLeft, onRight]

theorem trimBoth_eq_nil_iff {cs : List Char} : trimBoth cs = [] ↔ cs.all isBlank := by
  constructor
  · intro empty
    simp [← all_isBlank_trimBoth, empty]
  · intro blank
    have onLeft : trimLeft cs = [] := List.dropWhile_eq_nil_iff.mpr (List.all_eq_true.mp blank)
    simp [trimBoth, onLeft]

-- ---------------------------------------------------------------------------
-- Letters

theorem toNat_of_isLetter {c : Char} (h : isLetter c) :
    (97 ≤ c.toNat ∧ c.toNat ≤ 122) ∨ (65 ≤ c.toNat ∧ c.toNat ≤ 90) := by
  simpa [isLetter, Char.le_def, UInt32.le_iff_toNat_le] using h

theorem not_isBlank_of_isLetter {c : Char} (h : isLetter c) : isBlank c = false := by
  have letter := toNat_of_isLetter h
  simp only [isBlank, Bool.or_eq_false_iff, Bool.and_eq_false_iff, decide_eq_false_iff_not,
    beq_eq_false_iff_ne]
  omega

theorem toNat_toUpper (c : Char) :
    c.toUpper.toNat = if 97 ≤ c.toNat ∧ c.toNat ≤ 122 then c.toNat - 32 else c.toNat := by
  unfold Char.toUpper
  split
  next small =>
    have range : 97 ≤ c.toNat ∧ c.toNat ≤ 122 := small
    have offset : ('A'.val - 'a'.val).toNat = 2 ^ 32 - 32 := rfl
    have code := UInt32.toNat_add c.val ('A'.val - 'a'.val)
    rw [offset] at code
    rw [if_pos range]
    refine code.trans ?_
    change (c.toNat + (2 ^ 32 - 32)) % 2 ^ 32 = c.toNat - 32
    omega
  next other => exact (if_neg other).symm

theorem toUpper_ne_space {c : Char} (letter : isLetter c) : c.toUpper ≠ ' ' := by
  have range := toNat_of_isLetter letter
  have space : ' '.toNat = 32 := rfl
  rw [ne_eq, ← Char.toNat_inj, toNat_toUpper, space]
  split <;> omega

end Tollgate.Text
