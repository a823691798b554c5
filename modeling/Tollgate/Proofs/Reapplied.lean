import Tollgate.Proofs.Calls

/-!
# The same policy again

A refresh that fetches the rows which are in force already is not noticed. It keeps the
gates with their counts and tokens, and all other registries; of the counts of permits
it drops some that are zero. So a run replies to its calls as it does without such
refreshes, wherever they begin and end. Only what is reported, alarmed and counted
differs.
-/

namespace Tollgate

open Control (Plane)
open Store (StoreError)

-- ---------------------------------------------------------------------------
-- Gates that are settled

namespace Policy

def GatePolicy.Settled (p : GatePolicy) : Option GateSpec → Prop
  | some spec => p.descriptor = spec.descriptor ∧ p.ceiling = spec.max
  | none => p.ceiling = 0 ∧ p.limiter.isUnlimited

theorem GatePolicy.settled_apply (p : GatePolicy) (now : Nat) (spec? : Option GateSpec) :
    (p.apply now spec?).Settled spec? := by
  cases spec? with
  | none =>
    simp only [apply, reset]
    split
    next idle => exact idle
    next _ => exact ⟨rfl, rfl⟩
  | some spec =>
    simp only [apply, update]
    split
    next same => exact ⟨same, rfl⟩
    next _ => exact ⟨rfl, rfl⟩

theorem GatePolicy.Settled.apply_eq {p : GatePolicy} {spec? : Option GateSpec}
    (h : p.Settled spec?) (now : Nat) : p.apply now spec? = p := by
  cases spec? with
  | none => exact if_pos h
  | some spec =>
    obtain ⟨same, ceiling⟩ := h
    rw [apply, update, if_pos same, ← ceiling]

theorem Gate.settled_answer {g : Gate} {spec? : Option GateSpec} (h : g.policy.Settled spec?)
    (current now : Nat) : (g.answer current now).2.policy.Settled spec? := by
  have rule := g.rule_answer current now
  have ceiling := congrArg GateRule.ceiling rule
  cases spec? with
  | none =>
    obtain ⟨zero, unlimited⟩ := h
    have pace := congrArg GateRule.pace? rule
    refine ⟨ceiling.trans zero, (Rate.Limiter.pace?_eq_none _).mp (pace.trans ?_)⟩
    exact (Rate.Limiter.pace?_eq_none _).mpr unlimited
  | some spec =>
    obtain ⟨same, max⟩ := h
    exact ⟨(g.descriptor_answer current now).trans same, ceiling.trans max⟩

namespace Gates

def Settled (batch : Table Route.Key GateSpec) : Gates → Prop :=
  All fun key p => p.Settled (batch.lookup key)

theorem settled_apply (gates : Gates) (now : Nat) (batch : Table Route.Key GateSpec) :
    (gates.apply now batch).Settled batch := by
  intro entry mem
  obtain ⟨⟨key, g⟩, -, rfl⟩ := List.mem_map.mp mem
  exact g.policy.settled_apply now (batch.lookup key)

namespace Settled

variable {gates : Gates} {batch : Table Route.Key GateSpec} (h : gates.Settled batch)

include h

theorem apply_eq (now : Nat) : gates.apply now batch = gates := by
  calc
    gates.apply now batch = gates.map id := by
      refine List.map_congr_left ?_
      rintro ⟨key, g⟩ mem
      have settled : g.policy.Settled (batch.lookup key) := h _ mem
      simp only [settled.apply_eq now, id]
    _ = gates := List.map_id gates

theorem countIn (route : Route.Key) : (gates.countIn route).2.Settled batch :=
  All.countIn route h

theorem release (route : Route.Key) : (gates.release route).Settled batch :=
  All.release route h

theorem answer (route : Route.Key) (current now : Nat) :
    (gates.answer route current now).2.Settled batch :=
  All.answer route current now h fun _ _ current now settled =>
    Gate.settled_answer settled current now

theorem enter (route : Route.Key) (now : Nat) : (gates.enter route now).2.Settled batch :=
  All.enter route now h fun _ _ current now settled => Gate.settled_answer settled current now

end Settled

end Gates

end Policy

-- ---------------------------------------------------------------------------
-- Planes that are settled

namespace Control

open Policy

def limitsOf (fetched : List Row) : List RequestLimit :=
  (Plane.readRows RequestLimit.ofData (batchOf fetched).requestConcurrency).1

namespace Plane

def others (p : Plane) : Plane :=
  { p with gates := [], limits := .empty, refreshedAt := none }

/-- The rows of a fetch are in force: publishing them again changes no policy. -/
structure Settled (fetched : List Row) (p : Plane) : Prop where
  gates : p.gates.Settled (specsOf fetched)
  others : ∀ now, (p.publish now fetched).plane.others = p.others
  table : (p.limits.replace (limitsOf fetched)).limits = p.limits.limits
  sorted : p.limits.Sorted
  refreshed : p.refreshedAt.isSome

variable {p q : Plane} {fetched : List Row}

theorem publish_limits (p : Plane) (now : Nat) (fetched : List Row) :
    (p.publish now fetched).plane.limits = p.limits.replace (limitsOf fetched) := by
  rw [publish_plane]
  rfl

theorem apply_apply (s : SigningKeys) (keys : Option (List String)) :
    (s.apply keys).apply keys = s.apply keys := by
  match keys with
  | none => rfl
  | some [] => rfl
  | some (_ :: _) => rfl

theorem others_publish (same : q.others = p.others) (now : Nat) :
    (q.publish now fetched).plane.others = (p.publish now fetched).plane.others := by
  have keys : q.signingKeys = p.signingKeys := by
    have keys := congrArg Plane.signingKeys same
    exact keys
  rw [publish_plane, publish_plane, keys]
  rfl

theorem settled_publish (h : p.limits.Sorted) (now : Nat) (fetched : List Row) :
    (p.publish now fetched).plane.Settled fetched where
  gates := by
    rw [publish_gates]
    exact p.gates.settled_apply now (specsOf fetched)
  others now' := by
    rw [publish_plane _ now', publish_plane p now]
    simp only [Plane.others, apply_apply]
  table := by
    rw [publish_limits]
    rfl
  sorted := by
    rw [publish_limits]
    exact h.replace (limitsOf fetched)
  refreshed := rfl

namespace Settled

variable (h : p.Settled fetched)

include h

/-- Published again, the rows change at most the counts of permits and the moment of the
last refresh. -/
theorem publish_eq (now : Nat) :
    (p.publish now fetched).plane =
      { p with
        limits := p.limits.replace (limitsOf fetched)
        refreshedAt := some now } := by
  calc
    (p.publish now fetched).plane =
        { (p.publish now fetched).plane.others with
          gates := (p.publish now fetched).plane.gates
          limits := (p.publish now fetched).plane.limits
          refreshedAt := some now } := rfl
    _ = { p.others with
          gates := p.gates
          limits := p.limits.replace (limitsOf fetched)
          refreshedAt := some now } := by
      rw [h.others now, publish_gates, h.gates.apply_eq now, publish_limits]

theorem others_eq (same : q.others = p.others) (now : Nat) :
    (q.publish now fetched).plane.others = q.others := by
  rw [others_publish same now, h.others now, same]

theorem withGates {gates : Gates} (settled : gates.Settled (specsOf fetched)) :
    (p.withGates gates).Settled fetched :=
  ⟨settled, h.others_eq rfl, h.table, h.sorted, h.refreshed⟩

theorem withLimits {limits : RequestLimits} (same : limits.limits = p.limits.limits)
    (sorted : limits.Sorted) : (p.withLimits limits).Settled fetched :=
  ⟨h.gates, h.others_eq rfl, h.table.trans same.symm, sorted, h.refreshed⟩

theorem called (called : Called p q) : q.Settled fetched := by
  cases called with
  | aside => exact h
  | countedIn route => exact h.withGates (h.gates.countIn route)
  | answered route current now => exact h.withGates (h.gates.answer route current now)
  | left route => exact h.withGates (h.gates.release route)
  | entered route now => exact h.withGates (h.gates.enter route now)
  | turnedAway route now => exact h.withGates ((h.gates.enter route now).release route)
  | acquired name => exact h.withLimits (p.limits.limits_acquire name) (h.sorted.acquire name)
  | gaveBack permit => exact h.withLimits (p.limits.limits_release permit) (h.sorted.release permit)

end Settled

theorem Alike.publish (h : p.Alike q) (settled : q.Settled fetched) (now : Nat) :
    p.Alike (q.publish now fetched).plane := by
  have rest := congrArg (fun plane : Plane =>
    { plane with
      limits := q.limits.replace (limitsOf fetched)
      refreshedAt := some now }) h.rest
  rw [settled.publish_eq now]
  exact ⟨rest, h.limits.replace settled.sorted settled.table,
    (settled.refreshed.symm.trans h.refreshed)⟩

end Plane

-- ---------------------------------------------------------------------------
-- Refreshes that change nothing

/-- A step of refreshes that fetch the given rows. They may also fail or be cancelled. -/
def Step.repeats (rows : List Row) : Step → Bool
  | .beginCycle => true
  | .endCycle _ (.ok fetched) => fetched = rows
  | .endCycle _ (.error _) => true
  | .cancelCycle => true
  | _ => false

/-- A control plane that was refreshed from rows again and again, and one that was not. -/
structure Repeated (rows : List Row) (again once : Control) : Prop where
  alike : once.plane.Alike again.plane
  settled : again.plane.Settled rows

namespace Repeated

variable {rows : List Row} {again once : Control} (h : Repeated rows again once)

include h

theorem of_same {c : Control} (same : c.plane = again.plane) : Repeated rows c once :=
  ⟨same ▸ h.alike, same ▸ h.settled⟩

theorem call (now : Nat) (call : Call) :
    (again.call now call).1 = (once.call now call).1 ∧
      Repeated rows (again.call now call).2 (once.call now call).2 := by
  obtain ⟨reply, alike⟩ := call_alike h.alike now call
  exact ⟨reply, alike, h.settled.called (again.call_called now call)⟩

theorem publish (now : Nat) : Repeated rows (again.endCycle now (.ok rows)).2 once := by
  have plane : (again.endCycle now (.ok rows)).2.plane = (again.plane.publish now rows).plane :=
    again.endCycle_plane now (.ok rows)
  refine ⟨?_, ?_⟩
  · rw [plane]
    exact h.alike.publish h.settled now
  · rw [plane]
    exact Plane.settled_publish h.settled.sorted now rows

theorem step {s : Step} (repeats : s.repeats rows) : Repeated rows (again.step s) once := by
  cases s with
  | beginCycle => exact h.of_same again.beginCycle_plane
  | cancelCycle => exact h.of_same rfl
  | endCycle now fetched =>
    simp only [Control.step]
    split
    next _ =>
      cases fetched with
      | error e => exact h.of_same (again.endCycle_plane now (.error e))
      | ok fetched =>
        obtain rfl : fetched = rows := of_decide_eq_true repeats
        exact h.publish now
    next _ => exact h
  | _ => simp [Step.repeats] at repeats

/-- One run makes its calls among refreshes that change nothing, the other one makes the
calls only. -/
theorem run {steps : List Step} (only : ∀ s ∈ steps, s.isCall || s.repeats rows) :
    again.replies steps = once.replies (steps.filter Step.isCall) ∧
      Repeated rows (again.run steps) (once.run (steps.filter Step.isCall)) := by
  induction steps generalizing again once with
  | nil => exact ⟨rfl, h⟩
  | cons s rest ih =>
    have later : ∀ s ∈ rest, s.isCall || s.repeats rows := fun s mem =>
      only s (List.mem_cons_of_mem _ mem)
    have first := only s List.mem_cons_self
    -- A call is made in both runs, all else happens in the first one only.
    cases s with
    | call now call =>
      obtain ⟨reply, called⟩ := h.call now call
      obtain ⟨replies, after⟩ := ih called later
      exact ⟨List.cons_eq_cons.mpr ⟨reply, replies⟩, after⟩
    | _ => exact ih (h.step first) later

end Repeated

/-- After any run and a refresh from rows, a further run of calls at any clock readings
gets the replies that it gets without the refreshes in between, as long as these fetch
the same rows, and the planes are alike at its end. -/
theorem replies_refreshed_again (routes : List Route.Key) (defaults : List String)
    (center : AlarmCenter) (earlier : List Step) (now : Nat) (rows : List Row)
    (later : List Step) (only : ∀ s ∈ later, s.isCall || s.repeats rows) :
    let c := (((ofPlane (.ofRoutes routes defaults) center).run earlier).endCycle now (.ok rows)).2
    c.replies later = c.replies (later.filter Step.isCall) ∧
      (c.run (later.filter Step.isCall)).plane.Alike (c.run later).plane := by
  intro c
  have sorted : ((ofPlane (.ofRoutes routes defaults) center).run earlier).plane.limits.Sorted :=
    sorted_run RequestLimits.sorted_empty earlier
  have settled : c.plane.Settled rows := Plane.settled_publish sorted now rows
  have start : Repeated rows c c := ⟨.refl c.plane, settled⟩
  obtain ⟨replies, after⟩ := start.run only
  exact ⟨replies, after.alike⟩

def pacedRow : Row :=
  ⟨"one a second", .routerConcurrency, .enabled,
    "\x7b\"router\":\"GET /a\",\"max\":2,\"rate\":1,\"interval\":\"1s\"\x7d", ⟨0, 0⟩, ⟨9, 0⟩,
    ⟨0, 0⟩⟩

/-- Two requests at one token a second and a permit of a table that is gone, with a
refresh between them: the second request waits, and the permit is given back. -/
theorem replies_refreshed_again_paced :
    let earlier : List Step := [.limit [⟨"mail", 1⟩], .call 0 (.acquire "mail")]
    let later : List Step :=
      [.call 5 (.countIn ⟨"GET /a"⟩), .beginCycle, .call 5 (.answer ⟨"GET /a"⟩ 1),
       .call 6 (.giveBack ⟨some "mail"⟩), .endCycle 6 (.ok [pacedRow]),
       .call 7 (.countIn ⟨"GET /a"⟩), .call 7 (.answer ⟨"GET /a"⟩ 2),
       .call 7 (.look (.inFlight "mail"))]
    (((ofPlane (.ofRoutes [⟨"GET /a"⟩] []) (.ofCapacity "" 1)).run earlier).endCycle 0
        (.ok [pacedRow])).2.replies later =
      [.counted (some 1), .answered (some ⟨⟨1, 2⟩, 0⟩), .done, .counted (some 2),
       .answered (some ⟨⟨2, 2⟩, 999999998⟩), .seen (.count 0)] := by
  intro earlier later
  have same := (replies_refreshed_again [⟨"GET /a"⟩] [] (.ofCapacity "" 1) earlier 0 [pacedRow]
    later (by decide +kernel)).1
  exact same.trans (by decide +kernel)

end Control

end Tollgate
