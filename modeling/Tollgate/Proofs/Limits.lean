import Tollgate.Policy.RequestLimits
import Tollgate.Proofs.Tables

/-!
# Laws of request limits

Acquiring and releasing permits leave the table of limits. A new table leaves the
counts: those that it drops are zero. Counts are kept in the order of their names, each
name once.
-/

namespace Tollgate.Policy.RequestLimits

theorem limits_acquire (l : RequestLimits) (name : String) :
    (l.acquire name).2.limits = l.limits := by
  simp only [acquire]
  split
  next _ => rfl
  next _ => rfl
  next max _ _ => split <;> rfl

theorem limits_release (l : RequestLimits) (p : Permit) : (l.release p).limits = l.limits := by
  simp only [release]
  split <;> rfl

theorem count_setCount (l : RequestLimits) (name : String) (n : Nat) (other : String) :
    (l.setCount name n).count other = if other = name then n else l.count other := by
  simp only [count, setCount, lookup_putSorted]
  split <;> rfl

-- ---------------------------------------------------------------------------
-- The order of counts

def Sorted (l : RequestLimits) : Prop :=
  KeysUp (fun a b : String => a < b) l.inFlight

theorem sorted_empty : empty.Sorted :=
  .nil

theorem Sorted.setCount {l : RequestLimits} (h : l.Sorted) (name : String) (n : Nat) :
    (l.setCount name n).Sorted :=
  KeysUp.putName h name n

theorem Sorted.replace {l : RequestLimits} (h : l.Sorted) (limits : List RequestLimit) :
    (l.replace limits).Sorted :=
  List.Pairwise.filter _ h

theorem Sorted.acquire {l : RequestLimits} (h : l.Sorted) (name : String) :
    (l.acquire name).2.Sorted := by
  simp only [RequestLimits.acquire]
  split
  next _ => exact h
  next _ => exact h
  next max _ _ => split <;> exact h.setCount _ _

theorem Sorted.release {l : RequestLimits} (h : l.Sorted) (p : Permit) : (l.release p).Sorted := by
  simp only [RequestLimits.release]
  split
  next _ => exact h
  next name _ => exact h.setCount _ _

theorem Sorted.count_replace {l : RequestLimits} (h : l.Sorted) (limits : List RequestLimit)
    (name : String) : (l.replace limits).count name = l.count name := by
  have kept := KeysUp.lookup_filter h (by simp)
    (fun entry => governs (l.replace limits).limits entry.1 || decide (0 < entry.2)) name
  rw [count, count]
  refine (congrArg (Option.getD · 0) kept).trans ?_
  cases l.inFlight.lookup name with
  | none => rfl
  | some n =>
    rw [Option.filter_some]
    dsimp only
    -- A count of zero reads like a missing one, so it may go or stay.
    rcases Nat.eq_zero_or_pos n with rfl | positive
    · split <;> rfl
    · have stays : (governs (l.replace limits).limits name || decide (0 < n)) = true := by
        rw [decide_eq_true positive, Bool.or_true]
      rw [if_pos stays]

-- ---------------------------------------------------------------------------
-- Limits that answer alike

/-- Two states of the limits that tell the same: they have one table and the same counts,
where a count of zero may be missing. -/
structure Alike (l m : RequestLimits) : Prop where
  limits : m.limits = l.limits
  count : ∀ name, m.count name = l.count name

namespace Alike

variable {l m : RequestLimits}

theorem refl (l : RequestLimits) : l.Alike l :=
  ⟨rfl, fun _ => rfl⟩

theorem setCount (h : l.Alike m) (name : String) (n : Nat) :
    (l.setCount name n).Alike (m.setCount name n) := by
  refine ⟨h.limits, fun other => ?_⟩
  rw [count_setCount, count_setCount, h.count]

theorem acquire (h : l.Alike m) (name : String) :
    (m.acquire name).1 = (l.acquire name).1 ∧ (l.acquire name).2.Alike (m.acquire name).2 := by
  simp only [RequestLimits.acquire, limit?, h.limits, h.count]
  split
  next _ => exact ⟨rfl, h⟩
  next _ => exact ⟨rfl, h⟩
  next max _ _ =>
    split
    next _ => exact ⟨rfl, h.setCount _ _⟩
    next _ => exact ⟨rfl, h.setCount _ _⟩

theorem release (h : l.Alike m) (p : Permit) : (l.release p).Alike (m.release p) := by
  simp only [RequestLimits.release, h.count]
  split
  next _ => exact h
  next name _ => exact h.setCount _ _

theorem status (h : l.Alike m) : m.status = l.status := by
  simp only [RequestLimits.status, snapshot, h.limits, h.count]

theorem replace (h : l.Alike m) (sorted : m.Sorted) {limits : List RequestLimit}
    (same : (m.replace limits).limits = m.limits) : l.Alike (m.replace limits) := by
  refine ⟨same.trans h.limits, fun name => ?_⟩
  rw [sorted.count_replace, h.count]

end Alike

end Tollgate.Policy.RequestLimits
