import Tollgate.Proofs.Display

/-!
# Limiters that are kept

The descriptor of a gate says whose limiter stands under it. It tells rate and interval
apart, whatever their texts, and no row has the descriptor of a gate before any row. So an
update keeps the limiter of a gate, with the tokens that were taken from it, exactly if an
update with the same rate and interval made it; every other update makes a new one. This
holds after whatever was done to the gate before, also where a reset has left the descriptor
of a row standing.
-/

namespace Tollgate

namespace Rate.Limiter

def drained (l : Limiter) (readings : List Nat) : Limiter :=
  readings.foldl (fun l now => (l.take now).2) l

theorem drained_concat (l : Limiter) (readings : List Nat) (now : Nat) :
    l.drained (readings ++ [now]) = ((l.drained readings).take now).2 := by
  rw [drained, List.foldl_append]
  rfl

end Rate.Limiter

namespace Policy

open Rate (Limiter)

/-- Two rows ask for the same rate in the same interval, letter by letter. -/
def GateSpec.SameRate (s t : GateSpec) : Prop :=
  s.rate = t.rate ∧ s.interval = t.interval

theorem GateSpec.descriptor_eq_iff {s t : GateSpec} :
    s.descriptor = t.descriptor ↔ s.SameRate t := by
  refine ⟨descriptor_injective, fun ⟨rate, interval⟩ => ?_⟩
  rw [descriptor, rate, interval, descriptor]

namespace Gate

-- ---------------------------------------------------------------------------
-- What is done to a gate

inductive Act where
  | update (now : Nat) (spec : GateSpec)
  | reset
  | countIn
  /-- Answers a request that was told `current`, which may take a token. -/
  | answer (current now : Nat)
  | countOut
  deriving DecidableEq, Repr

def act (g : Gate) : Act → Gate
  | .update now spec => { g with policy := g.policy.update now spec }
  | .reset => { g with policy := g.policy.reset }
  | .countIn => g.increment.2
  | .answer current now => (g.answer current now).2
  | .countOut => g.decrement

def acts (g : Gate) (as : List Act) : Gate :=
  as.foldl act g

structure Maker where
  now : Nat
  spec : GateSpec
  deriving DecidableEq, Repr

def Maker.limiter (m : Maker) : Limiter :=
  .ofSpec m.now m.spec.rate m.spec.interval

def Act.maker? : Act → Option Maker
  | .update now spec => some ⟨now, spec⟩
  | _ => none

/-- The update that made the limiter that stands after all acts, none if no update did.
Limiters are told apart by their numbers. -/
def maker? (g : Gate) (standing : Option Maker) : List Act → Option Maker
  | [] => standing
  | a :: rest =>
    (g.act a).maker?
      (if (g.act a).policy.generation = g.policy.generation then standing else a.maker?) rest

def lastRow? : List Act → Option GateSpec
  | [] => none
  | a :: rest => (lastRow? rest).or (a.maker?.map Maker.spec)

end Gate

-- ---------------------------------------------------------------------------
-- One act

namespace GatePolicy

open Gate (Maker)

variable {p : GatePolicy} {spec : GateSpec}

theorem update_of_same (same : p.descriptor = spec.descriptor) (now : Nat) :
    p.update now spec = { p with ceiling := spec.max } :=
  if_pos same

theorem update_of_other (other : p.descriptor ≠ spec.descriptor) (now : Nat) :
    p.update now spec =
      ⟨spec.max, spec.descriptor, (Maker.mk now spec).limiter, p.generation + 1⟩ :=
  if_neg other

theorem generation_update_iff (p : GatePolicy) (spec : GateSpec) (now : Nat) :
    (p.update now spec).generation = p.generation ↔ p.descriptor = spec.descriptor := by
  by_cases same : p.descriptor = spec.descriptor
  · simp [update_of_same same, same]
  · simp [update_of_other same, same]

/-- The limiter that stands was made by the given update, and since then at most tokens were
taken from it; without an update there is no limit. -/
inductive Stands (p : GatePolicy) : Option Maker → Prop
  | bare (descriptor : p.descriptor = "") (limiter : p.limiter = .unlimited) : p.Stands none
  | made (m : Maker) (readings : List Nat) (descriptor : p.descriptor = m.spec.descriptor)
      (limiter : p.limiter = m.limiter.drained readings) : p.Stands (some m)

theorem Stands.congr {q : GatePolicy} {standing : Option Maker} (h : p.Stands standing)
    (descriptor : q.descriptor = p.descriptor) (limiter : q.limiter = p.limiter) :
    q.Stands standing := by
  cases h with
  | bare empty none => exact .bare (descriptor.trans empty) (limiter.trans none)
  | made m readings named drained =>
    exact .made m readings (descriptor.trans named) (limiter.trans drained)

theorem Stands.taken {q : GatePolicy} {standing : Option Maker} (h : p.Stands standing) {now : Nat}
    (descriptor : q.descriptor = p.descriptor) (limiter : q.limiter = (p.limiter.take now).2) :
    q.Stands standing := by
  cases h with
  | bare empty none => exact .bare (descriptor.trans empty) (by rw [limiter, none]; rfl)
  | made m readings named drained =>
    refine .made m (readings ++ [now]) (descriptor.trans named) ?_
    rw [limiter, drained, Limiter.drained_concat]

/-- A row keeps what stands exactly if what stands was made for its rate. -/
theorem Stands.descriptor_eq_iff {standing : Option Maker} (h : p.Stands standing) :
    p.descriptor = spec.descriptor ↔ ∃ m, standing = some m ∧ m.spec.SameRate spec := by
  cases h with
  | bare empty _ => simp [empty, spec.descriptor_ne_empty.symm]
  | made m _ named _ => simp [named, GateSpec.descriptor_eq_iff]

theorem Follows.descriptor_cases {last : Option GateSpec} (h : p.Follows last) :
    p.descriptor = "" ∨ ∃ old, last = some old ∧ p.descriptor = old.descriptor := by
  have shown : ∀ {row? : Option GateSpec}, p.Shows row? →
      p.descriptor = "" ∨ ∃ old, row? = some old ∧ p.descriptor = old.descriptor := by
    intro row? shows
    cases row? with
    | none => exact .inl shows.rate
    | some old => exact .inr ⟨old, rfl, shows.rate⟩
  cases h with
  | stands shows => exact shown shows
  | reset shows =>
    refine (shown shows).imp_right fun ⟨old, kept, named⟩ => ⟨old, ?_, named⟩
    exact (Option.filter_eq_some_iff.mp kept).1

end GatePolicy

namespace Gate

variable {g : Gate} {standing : Option Maker} {last : Option GateSpec}

theorem generation_answer (g : Gate) (current now : Nat) :
    (g.answer current now).2.policy.generation = g.policy.generation := by
  rw [answer]
  split <;> rfl

theorem generation_act (g : Gate) (a : Act) :
    (g.act a).policy.generation = g.policy.generation ∨
      (g.act a).policy.generation = g.policy.generation + 1 := by
  cases a with
  | update now spec =>
    by_cases same : g.policy.descriptor = spec.descriptor
    · exact .inl ((g.policy.generation_update_iff spec now).mpr same)
    · exact .inr (congrArg GatePolicy.generation (GatePolicy.update_of_other same now))
  | reset =>
    simp only [act, GatePolicy.reset]
    split
    next _ => exact .inl rfl
    next _ => exact .inr rfl
  | answer current now => exact .inl (g.generation_answer current now)
  | countIn => exact .inl rfl
  | countOut => exact .inl rfl

theorem stands_act (h : g.policy.Stands standing) (a : Act) :
    (g.act a).policy.Stands
      (if (g.act a).policy.generation = g.policy.generation then standing else a.maker?) := by
  cases a with
  | update now spec =>
    have kept := g.policy.generation_update_iff spec now
    by_cases same : g.policy.descriptor = spec.descriptor
    · rw [act, if_pos (kept.mpr same), GatePolicy.update_of_same same]
      exact h.congr rfl rfl
    · rw [act, if_neg (mt kept.mp same), GatePolicy.update_of_other same]
      exact .made ⟨now, spec⟩ [] rfl rfl
  | reset =>
    by_cases free : g.policy.ceiling = 0 ∧ g.policy.limiter.isUnlimited
    · have kept : g.policy.reset = g.policy := if_pos free
      simp only [act, kept, if_true]
      exact h
    · have ungoverned : g.policy.reset = .ungoverned (g.policy.generation + 1) := if_neg free
      have next : (g.act .reset).policy.generation ≠ g.policy.generation := by
        rw [act, ungoverned]
        exact Nat.succ_ne_self _
      rw [if_neg next, act, ungoverned]
      exact .bare rfl rfl
  | answer current now =>
    rw [act, if_pos (g.generation_answer current now)]
    by_cases exceeds : Policy.Admission.isOverLimit ⟨current, g.policy.ceiling⟩
    · rw [answer_of_overLimit now exceeds]
      exact h
    · have limiter : (g.answer current now).2.policy.limiter = (g.policy.limiter.take now).2 := by
        rw [answer, if_neg exceeds]
      exact h.taken (g.descriptor_answer current now) limiter
  | countIn =>
    simp only [act, increment, if_true]
    exact h
  | countOut =>
    simp only [act, decrement, if_true]
    exact h

theorem follows_act (h : g.policy.Follows last) (a : Act) :
    (g.act a).policy.Follows ((a.maker?.map Maker.spec).or last) := by
  cases a with
  | update now spec => exact .stands (h.shows_update now spec)
  | reset => exact .reset h.shows_reset
  | answer current now => exact h.answer current now
  | countIn => exact h
  | countOut => exact h

-- ---------------------------------------------------------------------------
-- Runs

theorem generation_le_acts (g : Gate) (as : List Act) :
    g.policy.generation ≤ (g.acts as).policy.generation := by
  induction as generalizing g with
  | nil => exact Nat.le_refl _
  | cons a rest ih =>
    have first : g.policy.generation ≤ (g.act a).policy.generation := by
      rcases g.generation_act a with same | next <;> omega
    exact Nat.le_trans first (ih (g.act a))

theorem stands_acts (h : g.policy.Stands standing) (as : List Act) :
    (g.acts as).policy.Stands (g.maker? standing as) := by
  induction as generalizing g standing with
  | nil => exact h
  | cons a rest ih => exact ih (stands_act h a)

theorem follows_acts (h : g.policy.Follows last) (as : List Act) :
    (g.acts as).policy.Follows ((lastRow? as).or last) := by
  induction as generalizing g last with
  | nil => exact h
  | cons a rest ih =>
    rw [lastRow?, Option.or_assoc]
    exact ih (follows_act h a)

/-- What an update does to the limiter of a gate, where `made?` made the one that stands and
`last?` is the row that was applied last. -/
structure Renewed (made? : Option Maker) (last? : Option GateSpec) (now : Nat) (spec : GateSpec)
    (before after : GatePolicy) : Prop where
  /-- It stays exactly if it was made for the same rate and interval. -/
  kept : after.generation = before.generation ↔ ∃ m, made? = some m ∧ m.spec.SameRate spec
  /-- Then all tokens that were taken from it stay taken. -/
  tokens : after.generation = before.generation → after.limiter = before.limiter
  fresh : after.generation ≠ before.generation →
    after.generation = before.generation + 1 ∧ after.limiter = (Maker.mk now spec).limiter
  changed : (∀ old, last? = some old → ¬old.SameRate spec) →
    after.generation ≠ before.generation

theorem renewed_update {p : GatePolicy} {made? : Option Maker} {last? : Option GateSpec}
    (stands : p.Stands made?) (follows : p.Follows last?) (now : Nat) (spec : GateSpec) :
    Renewed made? last? now spec p (p.update now spec) := by
  have kept := p.generation_update_iff spec now
  refine ⟨kept.trans stands.descriptor_eq_iff, fun same => ?_, fun differs => ?_,
    fun changed same => ?_⟩
  · rw [GatePolicy.update_of_same (kept.mp same)]
  · rw [GatePolicy.update_of_other (mt kept.mpr differs)]
    exact ⟨rfl, rfl⟩
  · rcases follows.descriptor_cases with empty | ⟨old, applied, named⟩
    · exact spec.descriptor_ne_empty ((kept.mp same).symm.trans empty)
    · exact changed old applied (GateSpec.descriptor_eq_iff.mp (named.symm.trans (kept.mp same)))

/-- Descriptors are equal exactly if rate and interval are, and no row has the one that a gate
starts with. So after whatever was done to a gate from its start, an update keeps the limiter
that stands exactly if an update with the same rate and interval made it, and otherwise makes
a new one, as it does whenever rate or interval are not those applied last. The limiter that
stands is what the taking of tokens has made of the one that was made, and no number of a
limiter is used again. -/
theorem limiters_kept (as : List Act) :
    (∀ s t : GateSpec, s.descriptor = t.descriptor ↔ s.SameRate t) ∧
      (∀ s : GateSpec, s.descriptor ≠ idle.policy.descriptor) ∧
      (idle.acts as).policy.Stands (idle.maker? none as) ∧
      (∀ now spec, Renewed (idle.maker? none as) (lastRow? as) now spec (idle.acts as).policy
        ((idle.acts as).act (.update now spec)).policy) ∧
      ∀ more, (idle.acts as).policy.generation ≤ ((idle.acts as).acts more).policy.generation := by
  have stands : (idle.acts as).policy.Stands (idle.maker? none as) :=
    stands_acts (.bare rfl rfl) as
  have follows : (idle.acts as).policy.Follows (lastRow? as) := by
    have run := follows_acts (g := idle) (.stands (GatePolicy.shows_ungoverned 0)) as
    rwa [Option.or_none] at run
  refine ⟨fun s t => GateSpec.descriptor_eq_iff, fun s => s.descriptor_ne_empty, stands,
    fun now spec => renewed_update stands follows now spec, fun more => generation_le_acts _ more⟩

end Gate

end Policy

end Tollgate
