import Mathlib.Data.List.DropRight
import Tollgate.Proofs.Accounting

/-!
# The history of alarms

An alarm center makes room for an alarm only if its history is exactly full; a history that
was ever longer than that would grow without end. It never is. At each point of a run the
history holds the alarms that were raised last, in the order in which they were raised: all
of them until it is full, and from then on as many as there is room for, which is at least
one. So what a control plane shows of its alarms is the end of what was sent to their
recipients.
-/

namespace Tollgate.Control

namespace AlarmCenter

variable {c : AlarmCenter} {raised : List Alarm}

-- ---------------------------------------------------------------------------
-- One alarm

@[simp] theorem capacity_raise (c : AlarmCenter) (a : Alarm) :
    (c.raise a).capacity = c.capacity := rfl

theorem recent_raise_of_full (full : c.recent.length = c.capacity) (a : Alarm) :
    (c.raise a).recent = c.recent.tail ++ [a] := by
  rw [raise, if_pos full]

theorem recent_raise_of_room (room : c.recent.length ≠ c.capacity) (a : Alarm) :
    (c.raise a).recent = c.recent ++ [a] := by
  rw [raise, if_neg room]

/-- A center that keeps the last of the alarms raised so far: all of them, or as many as it
has room for. -/
structure Keeps (c : AlarmCenter) (raised : List Alarm) : Prop where
  last : c.recent <:+ raised
  length : c.recent.length = min raised.length c.capacity

theorem Keeps.recent_eq (h : c.Keeps raised) :
    c.recent = raised.rtake (min raised.length c.capacity) := by
  rw [← h.length]
  exact List.suffix_iff_eq_drop.mp h.last

theorem keeps_ofCapacity (group : String) (capacity : Nat) : (ofCapacity group capacity).Keeps [] :=
  ⟨List.suffix_rfl, (Nat.zero_min _).symm⟩

theorem Keeps.raise (h : c.Keeps raised) (some : 0 < c.capacity) (a : Alarm) :
    (c.raise a).Keeps (raised ++ [a]) := by
  have length := h.length
  by_cases full : c.recent.length = c.capacity
  · have recent := recent_raise_of_full full a
    refine ⟨?_, ?_⟩
    · rw [recent]
      exact List.suffix_concat_iff.mpr (.inr ⟨_, rfl, (List.tail_suffix _).trans h.last⟩)
    · rw [recent, capacity_raise]
      simp only [List.length_append, List.length_tail, List.length_singleton]
      omega
  · -- There is room, so that nothing is gone yet.
    have recent := recent_raise_of_room full a
    refine ⟨?_, ?_⟩
    · rw [recent]
      exact List.suffix_concat_iff.mpr (.inr ⟨_, rfl, h.last⟩)
    · rw [recent, capacity_raise]
      simp only [List.length_append, List.length_singleton]
      omega

-- ---------------------------------------------------------------------------
-- Runs

@[simp] theorem capacity_foldl_raise (c : AlarmCenter) (alarms : List Alarm) :
    (alarms.foldl raise c).capacity = c.capacity := by
  induction alarms generalizing c with
  | nil => rfl
  | cons a rest ih => rw [List.foldl_cons, ih, capacity_raise]

theorem Keeps.foldl (h : c.Keeps raised) (some : 0 < c.capacity) (alarms : List Alarm) :
    (alarms.foldl AlarmCenter.raise c).Keeps (raised ++ alarms) := by
  induction alarms generalizing c raised with
  | nil => rwa [List.append_nil]
  | cons a rest ih =>
    have later := ih (h.raise some a) some
    rwa [List.append_assoc] at later

/-- From a new center on, an alarm always finds room for one. -/
theorem recent_foldl_raise (group : String) (capacity : Nat) (alarms : List Alarm) :
    (alarms.foldl raise (ofCapacity group capacity)).recent =
      alarms.rtake (min alarms.length (max capacity 1)) := by
  have some : 0 < max capacity 1 := Nat.le_max_right capacity 1
  have kept := (keeps_ofCapacity group capacity).foldl some alarms
  have recent := kept.recent_eq
  rwa [capacity_foldl_raise] at recent

example (a b : Alarm) : ([a, b].foldl raise (ofCapacity "alarm" 0)).recent = [b] := rfl

end AlarmCenter

theorem Tallied.center_eq {attempts : List Attempt} {c d : Control} (h : Tallied attempts c d)
    (silent : c.notices = []) :
    d.center = (d.notices.map Notice.alarm).foldl AlarmCenter.raise c.center := by
  rw [h.history, h.notices, silent, List.map_nil, List.nil_append]

/-- Whatever its capacity, none included, a center shows the last of the alarms that were
raised so far, in their order, as many as it has room for but at least one. So it does in
every run of calls, cycles and direct changes of a control plane, where the alarms are those
that were sent to their recipients. -/
theorem history_is_tail (group : String) (capacity : Nat) :
    (∀ alarms : List Alarm,
      (alarms.foldl AlarmCenter.raise (.ofCapacity group capacity)).recent =
        alarms.rtake (min alarms.length (max capacity 1))) ∧
    ∀ (plane : Plane) (steps : List Step),
      let d := (ofPlane plane (.ofCapacity group capacity)).run steps
      d.center.recent =
        (d.notices.map Notice.alarm).rtake (min d.notices.length (max capacity 1)) := by
  refine ⟨AlarmCenter.recent_foldl_raise group capacity, fun plane steps => ?_⟩
  intro d
  have told : Tallied _ _ d := tallied_run (ofPlane plane (.ofCapacity group capacity)) steps
  have center : d.center = (d.notices.map Notice.alarm).foldl AlarmCenter.raise _ :=
    told.center_eq rfl
  rw [center, ofPlane, AlarmCenter.recent_foldl_raise, List.length_map]

end Tollgate.Control
