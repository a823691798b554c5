import Tollgate.Policy.Gate

/-!
# Rules of gates

A gate enforces a rule: a ceiling, and the pace of its limiter. The descriptor that a
policy keeps is faithful to the limiter that stands under it, through rows, resets and
tokens taken. Applying a row to a faithful policy therefore puts the rule of the row in
force, also where the old limiter is kept.
-/

-- ---------------------------------------------------------------------------
-- Descriptors

namespace Tollgate.Text

theorem toList_ofInt (i : Int) :
    (ofInt i).toList = (if i < 0 then ['-'] else []) ++ Nat.toDigits 10 i.natAbs := by
  simp only [ofInt]
  split <;> simp

theorem isDigit_of_mem_digits {n : Nat} {c : Char} (h : c ∈ Nat.toDigits 10 n) : c.isDigit :=
  Nat.isDigit_of_mem_toDigits (by decide) (by decide) h

theorem append_separator_inj {c : Char} {front front' back back' : List Char}
    (free : c ∉ front) (free' : c ∉ front') (h : front ++ c :: back = front' ++ c :: back') :
    front = front' ∧ back = back' := by
  rcases List.append_eq_append_iff.mp h with ⟨more, rfl, rest⟩ | ⟨more, rfl, rest⟩
  · cases more with
    | nil => simpa using rest
    | cons d more =>
      obtain ⟨rfl, -⟩ := List.cons_eq_cons.mp rest
      simp at free'
  · cases more with
    | nil => simpa [eq_comm] using rest
    | cons d more =>
      obtain ⟨rfl, -⟩ := List.cons_eq_cons.mp rest
      simp at free

theorem slash_notMem_ofInt (i : Int) : '/' ∉ (ofInt i).toList := by
  intro h
  rw [toList_ofInt, List.mem_append] at h
  rcases h with sign | digit
  · split at sign <;> simp at sign
  · exact absurd (isDigit_of_mem_digits digit) (by decide)

theorem digits_injective {m n : Nat} (h : Nat.toDigits 10 m = Nat.toDigits 10 n) : m = n := by
  calc
    m = Nat.ofDigitChars 10 (Nat.toDigits 10 m) 0 := Nat.ofDigitChars_ten_toDigits.symm
    _ = Nat.ofDigitChars 10 (Nat.toDigits 10 n) 0 := by rw [h]
    _ = n := Nat.ofDigitChars_ten_toDigits

theorem minus_notMem_digits (n : Nat) : '-' ∉ Nat.toDigits 10 n := by
  intro h
  exact absurd (isDigit_of_mem_digits h) (by decide)

theorem ofInt_injective {i j : Int} (h : ofInt i = ofInt j) : i = j := by
  have chars := congrArg String.toList h
  rw [toList_ofInt, toList_ofInt] at chars
  -- The sign is the only character that is no digit, so it is there in both or in neither.
  have sign : i < 0 ↔ j < 0 := by
    have signed : '-' ∈ (if i < 0 then ['-'] else []) ++ Nat.toDigits 10 i.natAbs ↔
        '-' ∈ (if j < 0 then ['-'] else []) ++ Nat.toDigits 10 j.natAbs := by rw [chars]
    simpa [minus_notMem_digits] using signed
  simp only [sign, List.append_cancel_left_eq] at chars
  have abs := digits_injective chars
  omega

end Tollgate.Text

namespace Tollgate.Policy.GateSpec

theorem toList_descriptor (s : GateSpec) :
    s.descriptor.toList = (Text.ofInt s.rate).toList ++ '/' :: s.interval.toList := by
  simp [descriptor]

theorem descriptor_injective {s t : GateSpec} (h : s.descriptor = t.descriptor) :
    s.rate = t.rate ∧ s.interval = t.interval := by
  have chars := congrArg String.toList h
  rw [toList_descriptor, toList_descriptor] at chars
  obtain ⟨rate, interval⟩ := Text.append_separator_inj (Text.slash_notMem_ofInt _)
    (Text.slash_notMem_ofInt _) chars
  exact ⟨Text.ofInt_injective (String.toList_inj.mp rate), String.toList_inj.mp interval⟩

theorem descriptor_ne_empty (s : GateSpec) : s.descriptor ≠ "" := by
  intro h
  have chars := congrArg String.toList h
  rw [toList_descriptor] at chars
  simp at chars

end Tollgate.Policy.GateSpec

-- ---------------------------------------------------------------------------
-- Paces

namespace Tollgate.Rate

/-- What a limiter enforces, apart from the tokens that were taken. -/
structure Pace where
  emission : Nat
  tolerance : Nat
  deriving DecidableEq, Repr

def Bucket.pace (b : Bucket) : Pace :=
  ⟨b.emission, b.tolerance⟩

namespace Limiter

def pace? : Limiter → Option Pace
  | .unlimited => none
  | .bucket _ b => some b.pace

theorem pace?_eq_none (l : Limiter) : l.pace? = none ↔ l.isUnlimited := by
  cases l <;> simp [pace?, isUnlimited]

@[simp] theorem pace?_take (l : Limiter) (now : Nat) : (l.take now).2.pace? = l.pace? := by
  cases l <;> rfl

theorem pace?_ofSpec (now : Nat) (rate : Int) (interval : String) :
    (ofSpec now rate interval).pace? = (bucketOf? rate interval).map Bucket.pace := by
  simp only [ofSpec]
  split
  next h => simp [h, pace?]
  next h => simp [h, pace?]

end Limiter

end Tollgate.Rate

-- ---------------------------------------------------------------------------
-- Rules

namespace Tollgate.Policy

open Rate (Bucket Limiter Pace)

/-- What a gate enforces: neither the requests in flight nor the tokens taken. -/
structure GateRule where
  /-- The most requests in flight; zero stands for no ceiling. -/
  ceiling : Nat
  /-- The pace of the limiter, none without a limit. -/
  pace? : Option Pace
  deriving DecidableEq, Repr

def GateRule.free : GateRule :=
  ⟨0, none⟩

def GateSpec.rule (s : GateSpec) : GateRule :=
  ⟨s.max, (Limiter.bucketOf? s.rate s.interval).map Bucket.pace⟩

/-- The rule that a batch asks for: routes without a row are free. -/
def GateRule.ofSpec? : Option GateSpec → GateRule
  | some spec => spec.rule
  | none => .free

namespace GatePolicy

def rule (p : GatePolicy) : GateRule :=
  ⟨p.ceiling, p.limiter.pace?⟩

/-- The descriptor tells which limiter stands under it: none before any row, and that
of a row afterwards. -/
inductive Faithful (p : GatePolicy) : Prop
  | initial (descriptor : p.descriptor = "") (pace : p.limiter.pace? = none)
  | ofSpec (spec : GateSpec) (descriptor : p.descriptor = spec.descriptor)
      (pace : p.limiter.pace? = spec.rule.pace?)

theorem faithful_ungoverned (generation : Nat) : (ungoverned generation).Faithful :=
  .initial rfl rfl

theorem Faithful.of_pace {p q : GatePolicy} (h : p.Faithful)
    (descriptor : q.descriptor = p.descriptor) (pace : q.limiter.pace? = p.limiter.pace?) :
    q.Faithful := by
  cases h with
  | initial empty none => exact .initial (descriptor.trans empty) (pace.trans none)
  | ofSpec spec named paced => exact .ofSpec spec (descriptor.trans named) (pace.trans paced)

theorem Faithful.pace_eq {p : GatePolicy} {spec : GateSpec} (h : p.Faithful)
    (same : p.descriptor = spec.descriptor) : p.limiter.pace? = spec.rule.pace? := by
  cases h with
  | initial empty _ => exact absurd (same.symm.trans empty) spec.descriptor_ne_empty
  | ofSpec old named paced =>
    obtain ⟨rate, interval⟩ := GateSpec.descriptor_injective (named.symm.trans same)
    rw [paced, GateSpec.rule, GateSpec.rule, rate, interval]

/-- A row puts its rule in force, also where the old limiter is kept. -/
theorem rule_update {p : GatePolicy} (h : p.Faithful) (now : Nat) (spec : GateSpec) :
    (p.update now spec).rule = spec.rule := by
  simp only [update]
  split
  next same => rw [rule, h.pace_eq same]; rfl
  next _ => rw [rule, Limiter.pace?_ofSpec]; rfl

theorem descriptor_update (p : GatePolicy) (now : Nat) (spec : GateSpec) :
    (p.update now spec).descriptor = spec.descriptor := by
  simp only [update]
  split
  next same => exact same
  next _ => rfl

theorem Faithful.update {p : GatePolicy} (h : p.Faithful) (now : Nat) (spec : GateSpec) :
    (p.update now spec).Faithful := by
  have pace : (p.update now spec).limiter.pace? = spec.rule.pace? :=
    congrArg GateRule.pace? (rule_update h now spec)
  exact .ofSpec spec (p.descriptor_update now spec) pace

/-- A reset frees the route, also where it leaves the policy as it is. -/
theorem rule_reset (p : GatePolicy) : p.reset.rule = .free := by
  simp only [reset]
  split
  next idle => rw [rule, idle.1, (p.limiter.pace?_eq_none).mpr idle.2]; rfl
  next _ => rfl

theorem Faithful.reset {p : GatePolicy} (h : p.Faithful) : p.reset.Faithful := by
  simp only [GatePolicy.reset]
  split
  next _ => exact h
  next _ => exact faithful_ungoverned _

theorem rule_apply {p : GatePolicy} (h : p.Faithful) (now : Nat) (spec? : Option GateSpec) :
    (p.apply now spec?).rule = .ofSpec? spec? := by
  cases spec? with
  | none => exact rule_reset p
  | some spec => exact rule_update h now spec

theorem Faithful.apply {p : GatePolicy} (h : p.Faithful) (now : Nat) (spec? : Option GateSpec) :
    (p.apply now spec?).Faithful := by
  cases spec? with
  | none => exact h.reset
  | some spec => exact h.update now spec

end GatePolicy

end Tollgate.Policy
