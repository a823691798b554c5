import Tollgate.Proofs.Calls
import Tollgate.Proofs.Readers

/-!
# Published mocks

Mocks get into a control plane from rows only, by a refresh or directly. A row whose status
no response can have is rejected. So every mock that is in force, after whatever run, has a
status that responses accept.
-/

namespace Tollgate

namespace Policy

theorem Mock.isStatus_of_ofData {data : String} {m : Mock} (h : ofData data = .ok m) :
    isStatus m.status := by
  obtain ⟨⟨router, status, contentType, response, delaySeconds, url, ⟨⟩⟩, -, h⟩ := ok_of_bind h
  dsimp only at h
  split at h
  next key _ =>
    obtain ⟨route, -, h⟩ := ok_of_bind h
    split at h
    next _ =>
      obtain ⟨_, thrown, -⟩ := ok_of_bind h
      cases thrown
    next accepted =>
      cases h
      simpa using accepted
  next _ =>
    obtain ⟨_, thrown, -⟩ := ok_of_bind h
    cases thrown

namespace Mocks

def Published (mocks : Mocks) : Prop :=
  ∃ rows, mocks = (ofRows rows).1

theorem published_nil : Published [] :=
  ⟨[], rfl⟩

theorem Published.isStatus {mocks : Mocks} (h : mocks.Published) {route : Route.Key} {m : Mock}
    (found : mocks.lookup route = some m) : Mock.isStatus m.status := by
  obtain ⟨rows, rfl⟩ := h
  rw [ofRows, Table.lookup_ofEntries, List.lookup_eq_some_iff] at found
  obtain ⟨front, back, all, -⟩ := found
  have mem : (route, m) ∈ (accepted (rows.map Mock.ofData)).map fun m => (m.route, m) := by
    rw [all]
    simp
  obtain ⟨m', read, pair⟩ := List.mem_map.mp mem
  obtain ⟨-, rfl⟩ := Prod.mk.inj pair
  obtain ⟨data, _, read⟩ := List.mem_map.mp (mem_accepted.mp read)
  exact Mock.isStatus_of_ofData read

end Mocks

end Policy

namespace Control

open Policy

def Step.Proper : Step → Prop
  | .change p => p.mocks.Published
  | _ => True

theorem Called.mocks {p q : Plane} (called : Called p q) : q.mocks = p.mocks := by
  cases called <;> rfl

theorem published_step {c : Control} (h : c.plane.mocks.Published) {s : Step} (proper : s.Proper) :
    (c.step s).plane.mocks.Published := by
  cases s with
  | call now call =>
    rw [step, (call_called c now call).mocks]
    exact h
  | beginCycle =>
    rw [step, beginCycle_plane]
    exact h
  | endCycle now fetched =>
    rw [step]
    split
    next _ =>
      rw [endCycle_plane]
      cases fetched with
      | error _ => exact h
      | ok rows => exact ⟨_, by simp only [Plane.publish_plane]; rfl⟩
    next _ => exact h
  | cancelCycle => exact h
  | change p => exact proper
  | limit limits => exact h

theorem published_run {c : Control} (h : c.plane.mocks.Published) {steps : List Step}
    (proper : ∀ s ∈ steps, s.Proper) : (c.run steps).plane.mocks.Published := by
  induction steps generalizing c with
  | nil => exact h
  | cons s rest ih =>
    exact ih (published_step h (proper s List.mem_cons_self)) fun later mem =>
      proper later (List.mem_cons_of_mem _ mem)

end Control

end Tollgate
