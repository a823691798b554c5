import Mathlib.Tactic.SplitIfs
import Tollgate.Json.Value
import Tollgate.Proofs.Trees

/-!
# Written values are read back

The tokens of a value may be laid out with any spaces between them. A text in which they
are laid out is cut into these tokens again, and they deliver the tree of the value. Numbers
are left out: their spelling is not the only one.
-/

namespace Tollgate.Json

open Document (Node Elements Members Label Number Fault)

-- ---------------------------------------------------------------------------
-- Texts

/-- What a text is so far that has these characters, last first. -/
def Partial.ofChars (chars : List Char) : Partial :=
  ⟨chars, none, false⟩

theorem hexadecimal?_control : ∀ n < 0x20,
    Text.hexadecimal? ['0', '0', Nat.digitChar (n / 16), Nat.digitChar (n % 16)] = some n := by
  decide

theorem lexText_control {c : Char} (control : c.toNat < 0x20) (chars rest : List Char) :
    lexText (.ofChars chars)
        ('\\' :: 'u' :: '0' :: '0' :: Nat.digitChar (c.toNat / 16) ::
          Nat.digitChar (c.toNat % 16) :: rest) = lexText (.ofChars (c :: chars)) rest := by
  have unit : (Partial.ofChars chars).pushUnit c.toNat = .ofChars (c :: chars) := by
    have high : isHighSurrogate c.toNat = false := by
      simp only [isHighSurrogate, Bool.and_eq_false_iff, decide_eq_false_iff_not]
      omega
    have low : isLowSurrogate c.toNat = false := by
      simp only [isLowSurrogate, Bool.and_eq_false_iff, decide_eq_false_iff_not]
      omega
    simp [Partial.pushUnit, Partial.ofChars, high, low]
  simp only [lexText, hexadecimal?_control c.toNat control, unit]

theorem lexText_spellChar (c : Char) (chars rest : List Char) :
    lexText (.ofChars chars) (Value.spellChar c ++ rest) =
      lexText (.ofChars (c :: chars)) rest := by
  have escape : ∀ {e d : Char}, c = d → escaped? e = some d →
      lexText (.ofChars chars) ('\\' :: e :: rest) = lexText (.ofChars (c :: chars)) rest := by
    rintro e d rfl escaped
    exact lexText_escape escaped _ _
  unfold Value.spellChar
  split_ifs with quote backslash backspace feed line back tab control
  · exact escape quote rfl
  · exact escape backslash rfl
  · exact escape backspace rfl
  · exact escape feed rfl
  · exact escape line rfl
  · exact escape back rfl
  · exact escape tab rfl
  · exact lexText_control control chars rest
  · exact lexText_plain quote backslash control _ _

theorem lexText_spellChars (cs chars rest : List Char) :
    lexText (.ofChars chars) (cs.flatMap Value.spellChar ++ '"' :: rest) =
      ⟨.text (String.ofList (chars.reverse ++ cs)), rest⟩ := by
  induction cs generalizing chars with
  | nil =>
    rw [List.flatMap_nil, List.nil_append, List.append_nil]
    rfl
  | cons c cs ih =>
    rw [List.flatMap_cons, List.append_assoc, lexText_spellChar, ih]
    simp

-- ---------------------------------------------------------------------------
-- Tokens

/-- Tokens that have one spelling, whatever follows it. -/
def Token.isExact : Token → Bool
  | .number _ => false
  | .spoiledNumber => false
  | .spoiledText => false
  | .broken _ => false
  | _ => true

theorem lexWord_spelled (token : Token) (word rest : List Char) :
    lexWord token word (word ++ rest) = ⟨token, rest⟩ := by
  induction word with
  | nil => rfl
  | cons w word ih => simp [lexWord, ih]

theorem lexOne_spell {t : Token} (exact : t.isExact) (rest : List Char) :
    ∃ c more,
      Value.spell t ++ rest = c :: more ∧ isSpace c = false ∧ lexOne c more = ⟨t, rest⟩ := by
  cases t with
  | number _ | spoiledNumber | spoiledText | broken _ => cases exact
  | text s =>
    refine ⟨'"', s.toList.flatMap Value.spellChar ++ '"' :: rest, by simp [Value.spell], rfl, ?_⟩
    have read := lexText_spellChars s.toList [] rest
    rw [List.reverse_nil, List.nil_append, String.ofList_toList] at read
    exact read
  | null => exact ⟨'n', _, rfl, rfl, lexWord_spelled .null ['u', 'l', 'l'] rest⟩
  | boolean b =>
    cases b with
    | true => exact ⟨'t', _, rfl, rfl, lexWord_spelled (.boolean true) ['r', 'u', 'e'] rest⟩
    | false => exact ⟨'f', _, rfl, rfl, lexWord_spelled (.boolean false) ['a', 'l', 's', 'e'] rest⟩
  | _ => exact ⟨_, rest, rfl, rfl, rfl⟩

/-- Tokens that are laid out: spelled one after another, with spaces around and between them. -/
inductive Laid : List Token → List Char → Prop
  | nil {spaces : List Char} (blank : ∀ c ∈ spaces, isSpace c) : Laid [] spaces
  | cons {spaces cs : List Char} {ts : List Token} (t : Token) (blank : ∀ c ∈ spaces, isSpace c)
      (later : Laid ts cs) : Laid (t :: ts) (spaces ++ Value.spell t ++ cs)

theorem Laid.lexes {ts : List Token} {cs : List Char} (h : Laid ts cs)
    (exact : ∀ t ∈ ts, t.isExact) : ∃ left, Lexes cs ts left ∧ ∀ c ∈ left, isSpace c := by
  induction h with
  | @nil spaces blank => exact ⟨spaces, .nil spaces, blank⟩
  | @cons spaces cs ts t blank later ih =>
    obtain ⟨first, others⟩ := List.forall_mem_cons.mp exact
    obtain ⟨left, lexes, blank'⟩ := ih others
    obtain ⟨c, more, spelled, visible, one⟩ := lexOne_spell first cs
    have starts : (spaces ++ Value.spell t ++ cs).dropWhile isSpace = c :: more := by
      rw [List.append_assoc, List.dropWhile_append_of_pos blank, spelled,
        List.dropWhile_cons_of_neg (by simp [visible])]
    have later : Lexes (lexOne c more).rest ts left := by
      rw [one]
      exact lexes
    have all := Lexes.cons starts later
    rw [one] at all
    exact ⟨left, all, blank'⟩

theorem Laid.tokens_eq {ts : List Token} {cs : List Char} (h : Laid ts cs)
    (exact : ∀ t ∈ ts, t.isExact) : tokens cs = ts := by
  obtain ⟨left, lexes, blank⟩ := h.lexes exact
  obtain ⟨m, enough, all⟩ := lexes.lexAll_eq (Nat.le_refl _)
  rw [tokens, all, (lexAll_eq_nil_iff enough).mpr blank, List.append_nil]

theorem laid_flatMap_spell (ts : List Token) : Laid ts (ts.flatMap Value.spell) := by
  induction ts with
  | nil => exact .nil (by simp)
  | cons t ts ih =>
    have laid : Laid (t :: ts) ([] ++ Value.spell t ++ ts.flatMap Value.spell) :=
      .cons t (List.forall_mem_nil _) ih
    exact laid

-- ---------------------------------------------------------------------------
-- Trees

def Step.run (s : Step) (ts : List Token) : Reading :=
  match s with
  | .next m => m.run ts
  | .complete n => ⟨n, !ts.isEmpty⟩
  | .stopped n => ⟨n, false⟩

theorem Machine.run_cons (m : Machine) (t : Token) (ts : List Token) :
    m.run (t :: ts) = (m.step t).run ts := by
  rw [Machine.run]
  cases m.step t <;> rfl

def Await.ForValue (a : Await) : Prop :=
  a = .value ∨ a = .firstItem

mutual
theorem Value.run_tokens (v : Value) (stack : List Frame) {await : Await} (h : await.ForValue)
    (more : List Token) :
    Machine.run ⟨stack, await⟩ (v.tokens ++ more) = (deliver v.toNode stack).run more := by
  cases v with
  | null => rcases h with rfl | rfl <;> exact Machine.run_cons _ _ _
  | boolean b => rcases h with rfl | rfl <;> exact Machine.run_cons _ _ _
  | number n => rcases h with rfl | rfl <;> exact Machine.run_cons _ _ _
  | text s => rcases h with rfl | rfl <;> exact Machine.run_cons _ _ _
  | list items =>
    have opened : Machine.step ⟨stack, await⟩ .openList =
        .next ⟨.list [] :: stack, .firstItem⟩ := by
      rcases h with rfl | rfl <;> rfl
    cases items with
    | nil =>
      simp only [Value.tokens, List.cons_append, List.nil_append]
      rw [Machine.run_cons, opened, Step.run, Machine.run_cons]
      rfl
    | cons v vs =>
      simp only [Value.tokens, List.cons_append, List.append_assoc, List.nil_append]
      rw [Machine.run_cons, opened, Step.run, Value.run_tokens v _ (.inr rfl)]
      exact Value.run_itemTokens vs [v.toNode] stack more
  | table members =>
    have opened : Machine.step ⟨stack, await⟩ .openTable =
        .next ⟨.table [] (.plain "") :: stack, .firstLabel⟩ := by
      rcases h with rfl | rfl <;> rfl
    cases members with
    | nil =>
      simp only [Value.tokens, List.cons_append, List.nil_append]
      rw [Machine.run_cons, opened, Step.run, Machine.run_cons]
      rfl
    | cons m ms =>
      obtain ⟨name, v⟩ := m
      simp only [Value.tokens, List.cons_append, List.append_assoc, List.nil_append]
      have labelled : Machine.step ⟨.table [] (.plain "") :: stack, .firstLabel⟩ (.text name) =
        .next ⟨.table [] (.plain name) :: stack, .colon⟩ := rfl
      have parted : Machine.step ⟨.table [] (.plain name) :: stack, .colon⟩ .colon =
        .next ⟨.table [] (.plain name) :: stack, .value⟩ := rfl
      rw [Machine.run_cons, opened, Step.run, Machine.run_cons, labelled, Step.run,
        Machine.run_cons, parted, Step.run, Value.run_tokens v _ (.inl rfl)]
      exact Value.run_memberTokens ms [(.plain name, v.toNode)] (.plain name) stack more

theorem Value.run_itemTokens (vs : List Value) (done : List Node) (stack : List Frame)
    (more : List Token) :
    Machine.run ⟨.list done :: stack, .afterItem⟩ (Value.itemTokens vs ++ .closeList :: more) =
      (deliver (.list (elementsOf (Value.toElements vs) done)) stack).run more := by
  cases vs with
  | nil => exact Machine.run_cons _ _ _
  | cons v vs =>
    simp only [Value.itemTokens, List.cons_append, List.append_assoc]
    have comma : Machine.step ⟨.list done :: stack, .afterItem⟩ .comma =
      .next ⟨.list done :: stack, .value⟩ := rfl
    rw [Machine.run_cons, comma, Step.run, Value.run_tokens v _ (.inl rfl)]
    exact Value.run_itemTokens vs (v.toNode :: done) stack more

theorem Value.run_memberTokens (ms : List (String × Value)) (done : List (Label × Node))
    (label : Label) (stack : List Frame) (more : List Token) :
    Machine.run ⟨.table done label :: stack, .afterMember⟩
        (Value.memberTokens ms ++ .closeTable :: more) =
      (deliver (.table (membersOf (Value.toMembers ms) done)) stack).run more := by
  cases ms with
  | nil => exact Machine.run_cons _ _ _
  | cons m ms =>
    obtain ⟨name, v⟩ := m
    simp only [Value.memberTokens, List.cons_append, List.append_assoc]
    have comma : Machine.step ⟨.table done label :: stack, .afterMember⟩ .comma =
      .next ⟨.table done label :: stack, .label⟩ := rfl
    have labelled : Machine.step ⟨.table done label :: stack, .label⟩ (.text name) =
      .next ⟨.table done (.plain name) :: stack, .colon⟩ := rfl
    have parted : Machine.step ⟨.table done (.plain name) :: stack, .colon⟩ .colon =
      .next ⟨.table done (.plain name) :: stack, .value⟩ := rfl
    rw [Machine.run_cons, comma, Step.run, Machine.run_cons, labelled, Step.run, Machine.run_cons,
      parted, Step.run, Value.run_tokens v _ (.inl rfl)]
    exact Value.run_memberTokens ms ((.plain name, v.toNode) :: done) (.plain name) stack more
end

/-- A text in which the tokens of a value are laid out is read as its tree. -/
theorem Reading.ofText_of_laid {v : Value} {s : String} (laid : Laid v.tokens s.toList)
    (exact : ∀ t ∈ v.tokens, t.isExact) : Reading.ofText s = ⟨v.toNode, false⟩ := by
  have read := Value.run_tokens v [] (.inl rfl) []
  rw [List.append_nil] at read
  rw [ofText, laid.tokens_eq exact]
  exact read

end Tollgate.Json
