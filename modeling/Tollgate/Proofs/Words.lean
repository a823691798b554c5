import Mathlib.Data.List.TakeWhile
import Tollgate.Json.Token

/-!
# Tokens and what follows them

A token that is known whole does not depend on the characters after it: numbers are whole
once a character follows that is no part of them, all other tokens as soon as they are cut.
So the tokens of a text begin with those of its front, as far as these are whole.
-/

namespace Tollgate.Json

open Document (Number Fault Cut)

def Lexed.before (l : Lexed) (more : List Char) : Lexed :=
  ⟨l.token, l.rest ++ more⟩

def Token.isBroken : Token → Bool
  | .broken _ => true
  | _ => false

def Token.isNumber : Token → Bool
  | .number _ => true
  | .spoiledNumber => true
  | _ => false

@[simp] theorem isBroken_stopAt (c : Cut) : (stopAt c).token.isBroken = true := rfl

@[simp] theorem isBroken_fail (p : Partial) (f : Fault) : (p.fail f).token.isBroken = true := rfl

-- ---------------------------------------------------------------------------
-- Texts

theorem lexText_escape {e c : Char} (h : escaped? e = some c) (p : Partial) (rest : List Char) :
    lexText p ('\\' :: e :: rest) = lexText (p.push c) rest := by
  have notUnit : e ≠ 'u' := by
    rintro rfl
    simp [escaped?] at h
  simp [lexText, h, notUnit]

theorem lexText_plain {c : Char} (unquoted : c ≠ '"') (unescaped : c ≠ '\\')
    (printable : ¬c.toNat < 0x20) (p : Partial) (rest : List Char) :
    lexText p (c :: rest) = lexText (p.push c) rest := by
  simp only [lexText, unescaped, printable, if_false, false_implies, implies_true]

theorem lexText_append {p : Partial} {cs : List Char}
    (unbroken : (lexText p cs).token.isBroken = false) (more : List Char) :
    lexText p (cs ++ more) = (lexText p cs).before more := by
  fun_induction lexText p cs with
  | case2 p rest =>
    simp only [List.cons_append, lexText]
    rfl
  | case3 p rest a b c d n digits ih =>
    simp only [List.cons_append, lexText, digits]
    exact ih unbroken
  | case7 p e rest _ _ c escaped ih =>
    rw [List.cons_append, List.cons_append, lexText_escape escaped]
    exact ih unbroken
  | case10 p c rest unquoted _ _ alone followed printable ih =>
    have unescaped : c ≠ '\\' := by
      rintro rfl
      cases rest with
      | nil => exact alone rfl rfl
      | cons e rest => exact followed e rest rfl rfl
    rw [List.cons_append, lexText_plain unquoted unescaped printable]
    exact ih unbroken
  | _ => simp at unbroken

-- ---------------------------------------------------------------------------
-- Numbers and words

theorem lexWord_append {token : Token} {word cs : List Char}
    (unbroken : (lexWord token word cs).token.isBroken = false) (more : List Char) :
    lexWord token word (cs ++ more) = (lexWord token word cs).before more := by
  induction word generalizing cs with
  | nil => rfl
  | cons w word ih =>
    cases cs with
    | nil => simp [lexWord] at unbroken
    | cons c rest =>
      simp only [List.cons_append, lexWord] at unbroken ⊢
      split
      next same =>
        rw [if_pos same] at unbroken
        exact ih unbroken
      next other =>
        rw [if_neg other] at unbroken
        cases unbroken

theorem span_append {p : Char → Bool} {cs : List Char} (ends : cs.dropWhile p ≠ [])
    (more : List Char) :
    (cs ++ more).takeWhile p = cs.takeWhile p ∧
      (cs ++ more).dropWhile p = cs.dropWhile p ++ more := by
  induction cs with
  | nil => simp at ends
  | cons c rest ih =>
    rw [List.dropWhile_cons] at ends
    rw [List.cons_append, List.takeWhile_cons, List.dropWhile_cons, List.takeWhile_cons,
      List.dropWhile_cons]
    by_cases passes : p c
    · rw [if_pos passes] at ends
      obtain ⟨taken, dropped⟩ := ih ends
      simp [passes, taken, dropped]
    · simp [passes]

def signOf : List Char → Bool × List Char
  | '+' :: r => (false, r)
  | '-' :: r => (true, r)
  | r => (false, r)

theorem lexExponent_cons (negative : Bool) (whole : List Char) (fraction : Option (List Char))
    (c : Char) (r : List Char) :
    lexExponent negative whole fraction (c :: r) =
      if c == 'e' || c == 'E' then
        match (signOf r).2.takeWhile Text.isDigit with
        | [] => lackingDigit (signOf r).2
        | ds => ⟨Spelling.token ⟨negative, whole, fraction, some ((signOf r).1, ds)⟩,
            (signOf r).2.dropWhile Text.isDigit⟩
      else ⟨Spelling.token ⟨negative, whole, fraction, none⟩, c :: r⟩ := by
  rfl

theorem signOf_append {r : List Char} (nonempty : r ≠ []) (more : List Char) :
    signOf (r ++ more) = ((signOf r).1, (signOf r).2 ++ more) := by
  cases r with
  | nil => exact absurd rfl nonempty
  | cons c r =>
    rw [List.cons_append]
    unfold signOf
    split <;> simp_all

theorem lexExponent_append {negative : Bool} {whole : List Char} {fraction : Option (List Char)}
    {cs : List Char} (ends : (lexExponent negative whole fraction cs).rest ≠ [])
    (more : List Char) :
    lexExponent negative whole fraction (cs ++ more) =
      (lexExponent negative whole fraction cs).before more := by
  cases cs with
  | nil => simp [lexExponent] at ends
  | cons c r =>
    rw [lexExponent_cons] at ends ⊢
    rw [List.cons_append, lexExponent_cons]
    split
    next marked =>
      rw [if_pos marked] at ends
      have nonempty : r ≠ [] := by
        rintro rfl
        exact ends rfl
      rw [signOf_append nonempty]
      dsimp only
      cases digits : (signOf r).2.takeWhile Text.isDigit with
      | nil =>
        rw [digits] at ends
        exact absurd rfl ends
      | cons d ds =>
        rw [digits] at ends
        obtain ⟨taken, dropped⟩ := span_append ends more
        rw [taken, dropped, digits]
        rfl
    next _ => rfl

theorem lexFraction_unpointed {c : Char} (unpointed : c ≠ '.') (negative : Bool)
    (whole r : List Char) :
    lexFraction negative whole (c :: r) = lexExponent negative whole none (c :: r) := by
  simp [lexFraction, unpointed]

theorem lexFraction_append {negative : Bool} {whole cs : List Char}
    (ends : (lexFraction negative whole cs).rest ≠ []) (more : List Char) :
    lexFraction negative whole (cs ++ more) = (lexFraction negative whole cs).before more := by
  cases cs with
  | nil => exact absurd rfl ends
  | cons c r =>
    by_cases pointed : c = '.'
    · subst pointed
      simp only [List.cons_append, lexFraction] at ends ⊢
      cases digits : r.takeWhile Text.isDigit with
      | nil =>
        rw [digits] at ends
        exact absurd rfl ends
      | cons d ds =>
        rw [digits] at ends
        have goesOn : r.dropWhile Text.isDigit ≠ [] := by
          intro none
          rw [none] at ends
          exact ends rfl
        obtain ⟨taken, dropped⟩ := span_append goesOn more
        rw [taken, dropped, digits]
        exact lexExponent_append ends more
    · rw [lexFraction_unpointed pointed] at ends ⊢
      rw [List.cons_append, lexFraction_unpointed pointed, ← List.cons_append]
      exact lexExponent_append ends more

theorem lexNumber_append {negative : Bool} {cs : List Char}
    (ends : (lexNumber negative cs).rest ≠ []) (more : List Char) :
    lexNumber negative (cs ++ more) = (lexNumber negative cs).before more := by
  have goesOn : cs.dropWhile Text.isDigit ≠ [] := by
    intro none
    simp only [lexNumber] at ends
    split at ends
    next _ => exact ends rfl
    next _ _ _ => exact ends rfl
    next _ _ =>
      rw [none] at ends
      exact ends rfl
  obtain ⟨taken, dropped⟩ := span_append goesOn more
  simp only [lexNumber, taken, dropped] at ends ⊢
  split
  next digits =>
    rw [digits] at ends
    exact absurd rfl ends
  next digits =>
    rw [digits] at ends
    exact absurd rfl ends
  next nonempty single =>
    split at ends
    next digits => exact absurd digits nonempty
    next digits => exact absurd digits (single _ _)
    next _ _ => exact lexFraction_append ends more

theorem isNumber_token (s : Spelling) : s.token.isNumber = true := by
  rw [Spelling.token]
  split <;> rfl

/-- Cutting a number gives one, or nothing gets past. -/
theorem lexNumber_kind (negative : Bool) (cs : List Char) :
    (lexNumber negative cs).token.isNumber = true ∨
      (lexNumber negative cs).token.isBroken = true := by
  have exponent : ∀ whole fraction cs,
      (lexExponent negative whole fraction cs).token.isNumber = true ∨
        (lexExponent negative whole fraction cs).token.isBroken = true := by
    intro whole fraction cs
    cases cs with
    | nil => exact .inl (isNumber_token _)
    | cons c r =>
      rw [lexExponent_cons]
      split
      next _ =>
        split
        next _ => exact .inr rfl
        next _ _ => exact .inl (isNumber_token _)
      next _ => exact .inl (isNumber_token _)
  have fraction : ∀ whole cs,
      (lexFraction negative whole cs).token.isNumber = true ∨
        (lexFraction negative whole cs).token.isBroken = true := by
    intro whole cs
    unfold lexFraction
    split
    next r =>
      split
      next _ => exact .inr rfl
      next _ _ => exact exponent _ _ _
    next _ => exact exponent _ _ _
  rw [lexNumber]
  split
  next _ => exact .inr rfl
  next _ _ _ => exact .inr rfl
  next _ _ => exact fraction _ _

-- ---------------------------------------------------------------------------
-- Tokens

theorem lexOne_digit {c : Char} (digit : Text.isDigit c) (rest : List Char) :
    lexOne c rest = lexNumber false (c :: rest) := by
  rw [lexOne]
  · rw [if_pos digit]
  all_goals
    rintro rfl
    exact absurd digit (by decide)

/-- A token that is known whole is cut the same, whatever follows it: a number once something
follows, any other token at once. -/
theorem lexOne_append {c : Char} {rest : List Char}
    (unbroken : (lexOne c rest).token.isBroken = false)
    (ends : (lexOne c rest).token.isNumber = false ∨ (lexOne c rest).rest ≠ []) (more : List Char) :
    lexOne c (rest ++ more) = (lexOne c rest).before more := by
  have number : ∀ {negative : Bool} {cs : List Char},
      (lexNumber negative cs).token.isBroken = false →
      ((lexNumber negative cs).token.isNumber = false ∨ (lexNumber negative cs).rest ≠ []) →
        lexNumber negative (cs ++ more) = (lexNumber negative cs).before more := by
    intro negative cs unbroken ends
    refine lexNumber_append (ends.resolve_left fun other => ?_) more
    rcases lexNumber_kind negative cs with is | is
    · rw [is] at other
      cases other
    · rw [is] at unbroken
      cases unbroken
  by_cases digit : Text.isDigit c
  · rw [lexOne_digit digit] at unbroken ends ⊢
    rw [lexOne_digit digit, ← List.cons_append]
    exact number unbroken ends
  · unfold lexOne at unbroken ends ⊢
    split at unbroken
    case h_7 => exact lexText_append unbroken more
    case h_8 | h_9 | h_10 => exact lexWord_append unbroken more
    case h_11 => exact number unbroken ends
    case h_12 =>
      rw [if_neg digit] at unbroken
      cases unbroken
    all_goals rfl

-- ---------------------------------------------------------------------------
-- What is left

theorem length_rest_lexText (p : Partial) (cs : List Char) :
    (lexText p cs).rest.length ≤ cs.length := by
  fun_induction lexText p cs <;> simp only [List.length_cons, Partial.fail, stopAt, List.length_nil]
  all_goals omega

theorem length_rest_lexWord (token : Token) (word cs : List Char) :
    (lexWord token word cs).rest.length ≤ cs.length := by
  fun_induction lexWord token word cs <;> simp only [List.length_cons, stopAt, List.length_nil]
  all_goals omega

theorem length_rest_lexExponent (negative : Bool) (whole : List Char)
    (fraction : Option (List Char)) (cs : List Char) :
    (lexExponent negative whole fraction cs).rest.length ≤ cs.length := by
  cases cs with
  | nil => exact Nat.le_refl _
  | cons c r =>
    have signed : (signOf r).2.length ≤ r.length := by
      unfold signOf
      split <;> simp
    rw [lexExponent_cons]
    split
    next _ =>
      split
      next _ => exact Nat.zero_le _
      next _ _ =>
        have digits := List.length_dropWhile_le Text.isDigit (signOf r).2
        simp only [List.length_cons]
        omega
    next _ => exact Nat.le_refl _

theorem length_rest_lexFraction (negative : Bool) (whole cs : List Char) :
    (lexFraction negative whole cs).rest.length ≤ cs.length := by
  unfold lexFraction
  split
  next r =>
    split
    next _ => exact Nat.zero_le _
    next _ _ =>
      have exponent := length_rest_lexExponent negative whole (some (r.takeWhile Text.isDigit))
        (r.dropWhile Text.isDigit)
      have digits := List.length_dropWhile_le Text.isDigit r
      simp only [List.length_cons]
      omega
  next _ => exact length_rest_lexExponent negative whole none _

theorem length_rest_lexNumber (negative : Bool) (cs : List Char) :
    (lexNumber negative cs).rest.length ≤ (cs.dropWhile Text.isDigit).length := by
  unfold lexNumber
  split
  next _ => exact Nat.zero_le _
  next _ _ _ => exact Nat.zero_le _
  next _ _ => exact length_rest_lexFraction negative _ _

theorem length_rest_lexOne (c : Char) (rest : List Char) :
    (lexOne c rest).rest.length ≤ rest.length := by
  by_cases digit : Text.isDigit c
  · rw [lexOne_digit digit]
    have number := length_rest_lexNumber false (c :: rest)
    rw [List.dropWhile_cons_of_pos digit] at number
    exact Nat.le_trans number (List.length_dropWhile_le _ _)
  · unfold lexOne
    split
    case h_7 => exact length_rest_lexText _ _
    case h_8 | h_9 | h_10 => exact length_rest_lexWord _ _ _
    case h_11 => exact Nat.le_trans (length_rest_lexNumber true rest) (List.length_dropWhile_le _ _)
    case h_12 =>
      rw [if_neg digit]
      exact Nat.zero_le _
    all_goals exact Nat.le_refl _

/-- The characters give these tokens first, and then `left` is still to be cut. -/
inductive Lexes : List Char → List Token → List Char → Prop
  | nil (cs : List Char) : Lexes cs [] cs
  | cons {cs : List Char} {c : Char} {rest left : List Char} {ts : List Token}
      (starts : cs.dropWhile isSpace = c :: rest) (later : Lexes (lexOne c rest).rest ts left) :
      Lexes cs ((lexOne c rest).token :: ts) left

theorem exists_lexes {n : Nat} {cs : List Char} {ts more : List Token} (enough : cs.length ≤ n)
    (h : lexAll n cs = ts ++ more) :
    ∃ left m, Lexes cs ts left ∧ left.length ≤ m ∧ more = lexAll m left := by
  induction ts generalizing n cs with
  | nil => exact ⟨cs, n, .nil cs, enough, h.symm⟩
  | cons t ts ih =>
    cases n with
    | zero => cases h
    | succ n =>
      rw [lexAll] at h
      cases starts : cs.dropWhile isSpace with
      | nil =>
        rw [starts] at h
        cases h
      | cons c rest =>
        rw [List.cons_append] at h
        simp only [starts] at h
        obtain ⟨rfl, later⟩ := List.cons_eq_cons.mp h
        have spaces := List.length_dropWhile_le isSpace cs
        have one := length_rest_lexOne c rest
        rw [starts, List.length_cons] at spaces
        obtain ⟨left, m, lexes, enough, rfl⟩ := ih (by omega) later
        exact ⟨left, m, .cons starts lexes, enough, rfl⟩

theorem Lexes.lexAll_eq {cs left : List Char} {ts : List Token} (h : Lexes cs ts left) {n : Nat}
    (enough : cs.length ≤ n) : ∃ m, left.length ≤ m ∧ lexAll n cs = ts ++ lexAll m left := by
  induction h generalizing n with
  | nil cs => exact ⟨n, enough, rfl⟩
  | @cons cs c rest left ts starts later ih =>
    have spaces := List.length_dropWhile_le isSpace cs
    have one := length_rest_lexOne c rest
    rw [starts, List.length_cons] at spaces
    cases n with
    | zero => omega
    | succ n =>
      obtain ⟨m, enough, all⟩ := ih (n := n) (by omega)
      exact ⟨m, enough, by rw [lexAll, starts, List.cons_append, ← all]⟩

theorem Lexes.append {cs left : List Char} {ts : List Token} (h : Lexes cs ts left)
    (unbroken : ∀ t ∈ ts, t.isBroken = false) (ends : ∀ t ∈ ts.getLast?, t.isNumber = false)
    (more : List Char) : Lexes (cs ++ more) ts (left ++ more) := by
  induction h with
  | nil cs => exact .nil _
  | @cons cs c rest left ts starts later ih =>
    obtain ⟨first, others⟩ := List.forall_mem_cons.mp unbroken
    have whole : (lexOne c rest).token.isNumber = false ∨ (lexOne c rest).rest ≠ [] := by
      cases later with
      | nil _ => exact .inl (ends _ rfl)
      | cons starts _ =>
        refine .inr fun none => ?_
        rw [none] at starts
        cases starts
    have starts' : (cs ++ more).dropWhile isSpace = c :: (rest ++ more) := by
      have nonempty : cs.dropWhile isSpace ≠ [] := by simp [starts]
      rw [(span_append nonempty more).2, starts, List.cons_append]
    have one := lexOne_append first whole more
    have token : (lexOne c rest).token = (lexOne c (rest ++ more)).token := by rw [one]; rfl
    have left' : (lexOne c rest).rest ++ more = (lexOne c (rest ++ more)).rest := by rw [one]; rfl
    have endsLater : ∀ t ∈ ts.getLast?, t.isNumber = false := by
      intro t last
      refine ends t ?_
      rw [List.getLast?_cons, Option.mem_def.mp last]
      rfl
    rw [token]
    exact .cons starts' (left' ▸ ih others endsLater)

theorem lexAll_eq_nil_iff {n : Nat} {cs : List Char} (enough : cs.length ≤ n) :
    lexAll n cs = [] ↔ ∀ c ∈ cs, isSpace c := by
  rw [← List.dropWhile_eq_nil_iff]
  cases n with
  | zero =>
    obtain rfl := List.eq_nil_of_length_eq_zero (Nat.le_zero.mp enough)
    exact iff_of_true rfl rfl
  | succ n =>
    rw [lexAll]
    cases cs.dropWhile isSpace with
    | nil => exact iff_of_true rfl rfl
    | cons c rest => exact iff_of_false (by simp) (by simp)

end Tollgate.Json
