import Tollgate.Proofs.Texts
import Tollgate.Route.Key

/-!
# Laws of route keys

A key that was read from a text consists of its method, a space and its pattern, and
the two tell the key. The texts that spell a key have its method in any case, with any
blanks around and between the two parts.
-/

namespace Tollgate.Route.Key

def HasParts (k : Key) : Prop :=
  ' ' ∈ k.text.toList

theorem hasParts_of_ofText? {s : String} {k : Key} (h : ofText? s = some k) : k.HasParts := by
  simp only [ofText?] at h
  split at h
  next _ => cases h
  next method rest _ =>
    split at h
    next _ =>
      cases h
      simp [HasParts, ofParts]
    next _ => cases h

theorem HasParts.toList_text {k : Key} (h : k.HasParts) :
    k.text.toList = k.method.toList ++ ' ' :: k.pattern.toList := by
  obtain ⟨front, back, cut⟩ := Text.cutAtFirst_of_mem (p := (· == ' ')) h rfl
  obtain ⟨c, space, text⟩ := Text.cutAtFirst_eq_some cut
  have method : k.method.toList = front := by
    simp only [method, parts, cut, String.toList_ofList]
  have pattern : k.pattern.toList = back := by
    simp only [pattern, parts, cut, String.toList_ofList]
  rw [text, method, pattern, beq_iff_eq.mp space]

theorem HasParts.eq {k l : Key} (hk : k.HasParts) (hl : l.HasParts) (method : k.method = l.method)
    (pattern : k.pattern = l.pattern) : k = l := by
  have text : k.text.toList = l.text.toList := by
    rw [hk.toList_text, hl.toList_text, method, pattern]
  cases k
  cases l
  exact congrArg Key.mk (String.toList_inj.mp text)

theorem parts_ofParts {method : String} (letters : isMethod method.toList) (pattern : String) :
    (ofParts method pattern).method = Text.upperCase method ∧
      (ofParts method pattern).pattern = pattern := by
  obtain ⟨-, letters⟩ := Bool.and_eq_true_iff.mp letters
  have text : (ofParts method pattern).text.toList =
      method.toList.map Char.toUpper ++ ' ' :: pattern.toList := by
    simp [ofParts, Text.upperCase, String.toList_append]
  have free : ∀ c ∈ method.toList.map Char.toUpper, ¬(c == ' ') := by
    intro c mem
    obtain ⟨d, own, rfl⟩ := List.mem_map.mp mem
    simpa using Text.toUpper_ne_space (List.all_eq_true.mp letters d own)
  have cut : Text.cutAtFirst (· == ' ') (method.toList.map Char.toUpper ++ ' ' :: pattern.toList) =
      some (method.toList.map Char.toUpper, pattern.toList) :=
    Text.cutAtFirst_append free (beq_self_eq_true ' ')
  unfold Key.method Key.pattern parts
  rw [text, cut]
  simp [Text.upperCase]

-- ---------------------------------------------------------------------------
-- Spellings

/-- A text spells a key: a method of letters in any case, blanks, and a pattern, with any
blanks around them. -/
inductive Spells : String → Key → Prop
  | intro {s : String} (left method gap pattern right : List Char)
      (text : s.toList = left ++ method ++ gap ++ pattern ++ right)
      (isMethod : isMethod method) (isPattern : isPattern pattern)
      (ends : ∀ c, pattern.getLast? = some c → Text.isBlank c = false)
      (parted : gap ≠ []) (blanks : ∀ part ∈ [left, gap, right], Text.Blanks part) :
      Spells s (ofParts (String.ofList method) (String.ofList pattern))

theorem spells_of_ofText? {s : String} {k : Key} (h : ofText? s = some k) : Spells s k := by
  simp only [ofText?] at h
  split at h
  next _ => cases h
  next method rest cut =>
    split at h
    next accepted =>
      cases h
      obtain ⟨isMethod, isPattern⟩ := Bool.and_eq_true_iff.mp accepted
      obtain ⟨c, blank, text⟩ := Text.cutAtFirst_eq_some cut
      obtain ⟨left, right, around, blankLeft, blankRight⟩ := Text.exists_trimBoth s.toList
      obtain ⟨left', right', around', blankLeft', blankRight'⟩ := Text.exists_trimBoth rest
      refine .intro left method (c :: left') (Text.trimBoth rest) (right' ++ right) ?_ isMethod
        isPattern (fun _ => Text.not_isBlank_getLast_trimBoth) (List.cons_ne_nil _ _) ?_
      · rw [around, text]
        nth_rewrite 1 [around']
        simp
      · have blankGap : Text.Blanks (c :: left') := List.forall_mem_cons.mpr ⟨blank, blankLeft'⟩
        have blankEnd : Text.Blanks (right' ++ right) :=
          List.forall_mem_append.mpr ⟨blankRight', blankRight⟩
        simp [blankLeft, blankGap, blankEnd]
    next _ => cases h

theorem ofText?_of_spells {s : String} {k : Key} (h : Spells s k) : ofText? s = some k := by
  obtain ⟨left, method, gap, pattern, right, text, isMethod, isPattern, ends, parted, blanks⟩ := h
  obtain ⟨c, gap, rfl⟩ := List.exists_cons_of_ne_nil parted
  obtain ⟨blankLeft, blankGap, blankRight⟩ : Text.Blanks left ∧ Text.Blanks (c :: gap) ∧
      Text.Blanks right := by simpa using blanks
  obtain ⟨blank, blankGap⟩ := List.forall_mem_cons.mp blankGap
  obtain ⟨nonempty, allLetters⟩ := Bool.and_eq_true_iff.mp isMethod
  have visible : ∀ d ∈ method, Text.isBlank d = false := fun d mem =>
    Text.not_isBlank_of_isLetter (List.all_eq_true.mp allLetters d mem)
  have someLetter : method ≠ [] := by simpa using nonempty
  obtain ⟨first, letters, rfl⟩ := List.exists_cons_of_ne_nil someLetter
  obtain ⟨path, slash⟩ : ∃ path, pattern = '/' :: path := by
    unfold Key.isPattern at isPattern
    split at isPattern
    next path => exact ⟨path, rfl⟩
    next _ => cases isPattern
  obtain ⟨last, ended⟩ : ∃ last, pattern.getLast? = some last :=
    ⟨_, List.getLast?_eq_some_getLast (by simp [slash])⟩
  have whole : Text.trimBoth s.toList = (first :: letters) ++ c :: (gap ++ pattern) := by
    have around : s.toList = left ++ ((first :: letters) ++ c :: (gap ++ pattern)) ++ right := by
      simp [text]
    have ended' : ((first :: letters) ++ c :: (gap ++ pattern)).getLast? = some last := by
      rw [← List.cons_append, ← List.append_assoc, List.getLast?_append, ended]
      rfl
    rw [around]
    exact Text.trimBoth_between blankLeft blankRight rfl (visible first List.mem_cons_self) ended'
      (ends last ended)
  have inner : Text.trimBoth (gap ++ pattern) = pattern := by
    have starts : pattern.head? = some '/' := by rw [slash, List.head?_cons]
    have found := Text.trimBoth_between blankGap (List.forall_mem_nil _) starts (by decide) ended
      (ends last ended)
    rwa [List.append_nil] at found
  have cut : Text.cutAtFirst Text.isBlank ((first :: letters) ++ c :: (gap ++ pattern)) =
      some (first :: letters, gap ++ pattern) :=
    Text.cutAtFirst_append (fun d mem => Bool.eq_false_iff.mp (visible d mem)) blank
  simp only [ofText?, whole, cut, inner, isMethod, isPattern, Bool.and_self, if_true]

theorem ofText?_eq_some_iff {s : String} {k : Key} : ofText? s = some k ↔ Spells s k :=
  ⟨spells_of_ofText?, ofText?_of_spells⟩

theorem spells_iff_eq {s : String} {k : Key} (h : ofText? s = some k) (l : Key) :
    Spells s l ↔ l = k := by
  rw [← ofText?_eq_some_iff, h, Option.some_inj, eq_comm]

end Tollgate.Route.Key
