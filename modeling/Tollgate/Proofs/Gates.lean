import Tollgate.Proofs.GateRules
import Tollgate.Proofs.Tables

/-!
# Laws of gates

Each operation on the gates has its effect on three things: the rules in force, the
counts of requests in flight, and the faithfulness of the policies. Counting in,
answering and counting out leave the rules; rows and batches leave the counts. A batch
decides the rules of all routes, whatever was in force before.
-/

namespace Tollgate.Policy

-- ---------------------------------------------------------------------------
-- One gate

namespace Gate

theorem increment_of_room {g : Gate} (room : g.current + 1 < countBound) :
    g.increment = (g.current + 1, { g with current := g.current + 1 }) := by
  rw [increment, Nat.mod_eq_of_lt room, Nat.min_eq_left (Nat.le_sub_one_of_lt room)]

@[simp] theorem admission_answer (g : Gate) (current now : Nat) :
    (g.answer current now).1.admission = ⟨current, g.policy.ceiling⟩ := by
  simp only [answer]
  split <;> rfl

@[simp] theorem current_answer (g : Gate) (current now : Nat) :
    (g.answer current now).2.current = g.current := by
  simp only [answer]
  split <;> rfl

@[simp] theorem descriptor_answer (g : Gate) (current now : Nat) :
    (g.answer current now).2.policy.descriptor = g.policy.descriptor := by
  simp only [answer]
  split <;> rfl

@[simp] theorem rule_answer (g : Gate) (current now : Nat) :
    (g.answer current now).2.policy.rule = g.policy.rule := by
  simp only [answer]
  split
  next _ => rfl
  next _ => simp [GatePolicy.rule]

theorem faithful_answer {g : Gate} (h : g.policy.Faithful) (current now : Nat) :
    (g.answer current now).2.policy.Faithful :=
  h.of_pace (descriptor_answer g current now) (congrArg GateRule.pace? (rule_answer g current now))

theorem answer_of_overLimit {g : Gate} {current : Nat} (now : Nat)
    (full : Admission.isOverLimit ⟨current, g.policy.ceiling⟩) :
    g.answer current now = (⟨⟨current, g.policy.ceiling⟩, 0⟩, g) := by
  simp only [answer, full, if_true]

end Gate

/-- Under a ceiling a request that found `others` before it is over the limit exactly if
they reach the ceiling. -/
theorem Admission.isOverLimit_iff {others ceiling : Nat} (h : 0 < ceiling) :
    Admission.isOverLimit ⟨others + 1, ceiling⟩ ↔ ceiling ≤ others := by
  simp only [isOverLimit, Bool.and_eq_true, decide_eq_true_eq]
  omega

theorem Admission.le_of_within {current ceiling : Nat} (h : 0 < ceiling)
    (within : Admission.isOverLimit ⟨current, ceiling⟩ = false) : current ≤ ceiling := by
  simp only [isOverLimit, Bool.and_eq_false_iff, decide_eq_false_iff_not] at within
  omega

-- ---------------------------------------------------------------------------
-- All gates

namespace Gates

def count? (gates : Gates) (route : Route.Key) : Option Nat :=
  (gates.lookup route).map Gate.current

def ceiling? (gates : Gates) (route : Route.Key) : Option Nat :=
  (gates.lookup route).map fun g => g.policy.ceiling

def routes (gates : Gates) : List Route.Key :=
  gates.map Prod.fst

def rules (gates : Gates) : List (Route.Key × GateRule) :=
  gates.map fun (key, g) => (key, g.policy.rule)

def Faithful (gates : Gates) : Prop :=
  ∀ entry ∈ gates, entry.2.policy.Faithful

def All (P : Route.Key → GatePolicy → Prop) (gates : Gates) : Prop :=
  ∀ entry ∈ gates, P entry.1 entry.2.policy

theorem map_fst_rules (gates : Gates) : gates.rules.map Prod.fst = gates.routes := by
  simp [rules, routes]

theorem mem_routes_iff {gates : Gates} {key : Route.Key} :
    key ∈ gates.routes ↔ ∃ g, gates.lookup key = some g := by
  rw [← Option.isSome_iff_exists, Table.isSome_lookup_iff, routes]

theorem modify_eq_map (gates : Gates) (route : Route.Key) (f : Gate → Gate) :
    gates.modify route f = gates.map fun (key, g) => (key, if key = route then f g else g) := by
  refine List.map_congr_left ?_
  rintro ⟨key, g⟩ -
  simp only
  split <;> rfl

theorem lookup_modify (gates : Gates) (route key : Route.Key) (f : Gate → Gate) :
    (gates.modify route f).lookup key =
      (gates.lookup key).map fun g => if key = route then f g else g := by
  rw [modify_eq_map, lookup_map_snd fun key g => if key = route then f g else g]

theorem modify_of_none {gates : Gates} {route : Route.Key} (h : gates.lookup route = none)
    (f : Gate → Gate) : gates.modify route f = gates := by
  rw [List.lookup_eq_none_iff] at h
  calc
    gates.modify route f = gates.map id := by
      refine List.map_congr_left ?_
      rintro ⟨key, g⟩ mem
      have other : key ≠ route := fun same => by simpa [same] using h _ mem
      simp [other]
    _ = gates := List.map_id gates

theorem rules_modify {f : Gate → Gate} (h : ∀ g, (f g).policy.rule = g.policy.rule)
    (gates : Gates) (route : Route.Key) : (gates.modify route f).rules = gates.rules := by
  rw [modify_eq_map, rules, rules, List.map_map]
  refine List.map_congr_left ?_
  rintro ⟨key, g⟩ -
  simp only [Function.comp_apply]
  split
  next _ => rw [h]
  next _ => rfl

theorem All.modify {P : Route.Key → GatePolicy → Prop} {gates : Gates} (h : gates.All P)
    {f : Gate → Gate} (keeps : ∀ key g, P key g.policy → P key (f g).policy) (route : Route.Key) :
    (gates.modify route f).All P := by
  rw [modify_eq_map]
  intro entry mem
  obtain ⟨⟨key, g⟩, old, rfl⟩ := List.mem_map.mp mem
  simp only
  split
  next _ => exact keeps key g (h _ old)
  next _ => exact h _ old

theorem count?_modify (gates : Gates) (route key : Route.Key) (f : Gate → Gate) :
    (gates.modify route f).count? key =
      (gates.lookup key).map fun g => if key = route then (f g).current else g.current := by
  rw [count?, lookup_modify, Option.map_map]
  refine congrArg (fun f => (gates.lookup key).map f) (funext fun g => ?_)
  simp only [Function.comp_apply]
  split <;> rfl

theorem count?_modify_of_current {f : Gate → Gate} (h : ∀ g, (f g).current = g.current)
    (gates : Gates) (route key : Route.Key) :
    (gates.modify route f).count? key = gates.count? key := by
  rw [count?_modify, count?]
  simp [h]

theorem routes_congr {gates gates' : Gates} (h : gates'.rules = gates.rules) :
    gates'.routes = gates.routes := by
  rw [← map_fst_rules, ← map_fst_rules, h]

-- ---------------------------------------------------------------------------
-- Counting in, answering, and counting out

section Passing

variable (gates : Gates) (route key : Route.Key) (current now : Nat)

@[simp] theorem rules_countIn : (gates.countIn route).2.rules = gates.rules :=
  rules_modify (f := fun g => g.increment.2) (fun _ => rfl) gates route

@[simp] theorem rules_answer : (gates.answer route current now).2.rules = gates.rules :=
  rules_modify (fun g => g.rule_answer current now) gates route

@[simp] theorem rules_release : (gates.release route).rules = gates.rules :=
  rules_modify (f := Gate.decrement) (fun _ => rfl) gates route

theorem enter_of_some {g : Gate} (h : gates.lookup route = some g) :
    gates.enter route now = (gates.countIn route).2.answer route g.increment.1 now := by
  simp only [enter, countIn, h, Option.map_some]

theorem countIn_of_none (h : gates.lookup route = none) : gates.countIn route = (none, gates) := by
  simp only [countIn, h, Option.map_none, modify_of_none h]

theorem enter_of_none (h : gates.lookup route = none) :
    gates.enter route now = (none, gates) := by
  simp only [enter, countIn_of_none gates route h]

@[simp] theorem rules_enter : (gates.enter route now).2.rules = gates.rules := by
  cases h : gates.lookup route with
  | none => rw [enter_of_none gates route now h]
  | some g => rw [enter_of_some gates route now h, rules_answer, rules_countIn]

@[simp] theorem count?_answer :
    (gates.answer route current now).2.count? key = gates.count? key :=
  count?_modify_of_current (fun g => g.current_answer current now) gates route key

theorem count?_release :
    (gates.release route).count? key =
      (gates.count? key).map fun n => if key = route then n - 1 else n := by
  rw [release, count?_modify, count?, Option.map_map]
  rfl

variable {gates}

section All

variable {P : Route.Key → GatePolicy → Prop} (h : gates.All P)

include h

theorem All.countIn : (gates.countIn route).2.All P :=
  h.modify (f := fun g => g.increment.2) (fun _ _ holds => holds) route

theorem All.release : (gates.release route).All P :=
  h.modify (f := Gate.decrement) (fun _ _ holds => holds) route

variable (keeps : ∀ key g current now, P key g.policy → P key (Gate.answer g current now).2.policy)

include keeps

theorem All.answer : (gates.answer route current now).2.All P :=
  h.modify (fun key g => keeps key g current now) route

theorem All.enter : (gates.enter route now).2.All P := by
  cases found : gates.lookup route with
  | none => rwa [enter_of_none gates route now found]
  | some g =>
    rw [enter_of_some gates route now found]
    exact All.answer route g.increment.1 now (h.countIn route) keeps

end All

theorem Faithful.countIn (h : gates.Faithful) : (gates.countIn route).2.Faithful :=
  All.countIn (P := fun _ p => p.Faithful) route h

theorem Faithful.answer (h : gates.Faithful) : (gates.answer route current now).2.Faithful :=
  All.answer (P := fun _ p => p.Faithful) route current now h fun _ _ current now faithful =>
    Gate.faithful_answer faithful current now

theorem Faithful.release (h : gates.Faithful) : (gates.release route).Faithful :=
  All.release (P := fun _ p => p.Faithful) route h

theorem Faithful.enter (h : gates.Faithful) : (gates.enter route now).2.Faithful :=
  All.enter (P := fun _ p => p.Faithful) route now h fun _ _ current now faithful =>
    Gate.faithful_answer faithful current now

end Passing

-- ---------------------------------------------------------------------------
-- Counts with room

section Room

variable {gates : Gates} {route : Route.Key}

def HasRoom (gates : Gates) (route : Route.Key) : Prop :=
  ∀ n, gates.count? route = some n → n + 1 < countBound

theorem HasRoom.increment (room : gates.HasRoom route) {g : Gate}
    (found : gates.lookup route = some g) :
    g.increment = (g.current + 1, { g with current := g.current + 1 }) := by
  refine Gate.increment_of_room (room g.current ?_)
  rw [count?, found]
  rfl

theorem count?_countIn (room : gates.HasRoom route) (key : Route.Key) :
    (gates.countIn route).2.count? key =
      (gates.count? key).map fun n => if key = route then n + 1 else n := by
  rw [countIn, count?_modify, count?, Option.map_map]
  by_cases same : key = route
  · subst same
    cases found : gates.lookup key with
    | none => rfl
    | some g => simp [room.increment found]
  · simp only [same, if_false]
    rfl

theorem countIn_fst (room : gates.HasRoom route) :
    (gates.countIn route).1 = (gates.count? route).map (· + 1) := by
  cases found : gates.lookup route with
  | none => simp [countIn, count?, found]
  | some g => simp [countIn, count?, found, room.increment found]

/-- What a request that enters is told, and the gate afterwards: the gate is as before
but for the count, and answers. -/
theorem lookup_enter (room : gates.HasRoom route) {g : Gate} (found : gates.lookup route = some g)
    (now : Nat) :
    let answered := Gate.answer { g with current := g.current + 1 } (g.current + 1) now
    (gates.enter route now).1 = some answered.1 ∧
      (gates.enter route now).2.lookup route = some answered.2 := by
  have counted : (gates.countIn route).2.lookup route =
      some { g with current := g.current + 1 } := by
    rw [countIn, lookup_modify, found, Option.map_some, if_pos rfl, room.increment found]
  rw [enter_of_some gates route now found, room.increment found]
  refine ⟨?_, ?_⟩
  · rw [answer, counted]
    rfl
  · rw [answer, lookup_modify, counted, Option.map_some, if_pos rfl]

theorem count?_enter (room : gates.HasRoom route) (now : Nat) (key : Route.Key) :
    (gates.enter route now).2.count? key =
      (gates.count? key).map fun n => if key = route then n + 1 else n := by
  cases found : gates.lookup route with
  | none =>
    rw [← count?_countIn room, enter_of_none gates route now found,
      countIn_of_none gates route found]
  | some g => rw [enter_of_some gates route now found, count?_answer, count?_countIn room]

theorem count?_enter_release (room : gates.HasRoom route) (now : Nat) (key : Route.Key) :
    ((gates.enter route now).2.release route).count? key = gates.count? key := by
  rw [count?_release, count?_enter room, Option.map_map]
  cases gates.count? key with
  | none => rfl
  | some n => by_cases same : key = route <;> simp [same]

end Room

def leave (gates : Gates) : Option Route.Key → Gates
  | none => gates
  | some route => gates.release route

@[simp] theorem rules_leave (gates : Gates) (route? : Option Route.Key) :
    (gates.leave route?).rules = gates.rules := by
  cases route? with
  | none => rfl
  | some route => exact rules_release gates route

theorem Faithful.leave {gates : Gates} (h : gates.Faithful) (route? : Option Route.Key) :
    (gates.leave route?).Faithful := by
  cases route? with
  | none => exact h
  | some route => exact h.release route

theorem count?_leave (gates : Gates) (route? : Option Route.Key) (key : Route.Key) :
    (gates.leave route?).count? key =
      (gates.count? key).map fun n => if route? = some key then n - 1 else n := by
  cases route? with
  | none => simp [leave]
  | some route => simpa [leave, eq_comm] using count?_release gates route key

-- ---------------------------------------------------------------------------
-- Fresh gates

theorem lookup_ofRoutes_foldl (routes : List Route.Key) (gates : Gates) (key : Route.Key) :
    (routes.foldl (fun gates route =>
        putSorted (fun a b : Route.Key => a.text < b.text) route Gate.idle gates) gates).lookup key =
      if key ∈ routes then some Gate.idle else gates.lookup key := by
  induction routes generalizing gates with
  | nil => simp
  | cons route rest ih =>
    rw [List.foldl_cons, ih, lookup_putSorted]
    by_cases later : key ∈ rest
    · simp [later]
    · simp [later]

theorem lookup_ofRoutes (routes : List Route.Key) (key : Route.Key) :
    (ofRoutes routes).lookup key = if key ∈ routes then some Gate.idle else none := by
  rw [ofRoutes, lookup_ofRoutes_foldl, List.lookup_nil]

theorem mem_routes_ofRoutes {routes : List Route.Key} {key : Route.Key} (h : key ∈ routes) :
    key ∈ (ofRoutes routes).routes := by
  have found : (ofRoutes routes).lookup key = some Gate.idle := by
    rw [lookup_ofRoutes, if_pos h]
  exact mem_routes_iff.mpr ⟨_, found⟩

theorem count?_ofRoutes (routes : List Route.Key) (key : Route.Key) :
    (ofRoutes routes).count? key = if key ∈ routes then some 0 else none := by
  rw [count?, lookup_ofRoutes]
  split <;> rfl

theorem idle_of_mem_foldl {routes : List Route.Key} {gates : Gates} {entry : Route.Key × Gate}
    (idle : ∀ entry ∈ gates, entry.2 = Gate.idle)
    (h : entry ∈ routes.foldl (fun gates route =>
      putSorted (fun a b : Route.Key => a.text < b.text) route Gate.idle gates) gates) :
    entry.2 = Gate.idle := by
  induction routes generalizing gates with
  | nil => exact idle entry h
  | cons route rest ih =>
    refine ih ?_ h
    intro entry mem
    rcases mem_putSorted _ mem with rfl | old
    · rfl
    · exact idle entry old

theorem faithful_ofRoutes (routes : List Route.Key) : (ofRoutes routes).Faithful := by
  intro entry mem
  have idle : entry.2 = Gate.idle := idle_of_mem_foldl (fun _ none => by simp at none) mem
  rw [idle]
  exact GatePolicy.faithful_ungoverned 0

-- ---------------------------------------------------------------------------
-- Rows and batches

section Rows

variable (gates : Gates) (route key : Route.Key) (now : Nat) (spec : GateSpec)
  (batch : Table Route.Key GateSpec)

@[simp] theorem count?_update : (gates.update route now spec).count? key = gates.count? key :=
  count?_modify_of_current (f := fun g => { g with policy := g.policy.update now spec })
    (fun _ => rfl) gates route key

@[simp] theorem count?_reset : (gates.reset route).count? key = gates.count? key :=
  count?_modify_of_current (f := fun g => { g with policy := g.policy.reset })
    (fun _ => rfl) gates route key

theorem lookup_apply :
    (gates.apply now batch).lookup key = (gates.lookup key).map fun g =>
      { g with policy := g.policy.apply now (batch.lookup key) } :=
  lookup_map_snd (fun key (g : Gate) =>
    ({ g with policy := g.policy.apply now (batch.lookup key) } : Gate)) key gates

@[simp] theorem count?_apply : (gates.apply now batch).count? key = gates.count? key := by
  rw [count?, lookup_apply, Option.map_map]
  rfl

theorem routes_apply : (gates.apply now batch).routes = gates.routes := by
  simp [Gates.apply, routes]

variable {gates}

theorem Faithful.apply (h : gates.Faithful) : (gates.apply now batch).Faithful := by
  intro entry mem
  obtain ⟨⟨key, g⟩, old, rfl⟩ := List.mem_map.mp mem
  exact (h _ old).apply now (batch.lookup key)

theorem Faithful.update (h : gates.Faithful) : (gates.update route now spec).Faithful :=
  All.modify (P := fun _ p => p.Faithful) h
    (f := fun g => { g with policy := g.policy.update now spec })
    (fun _ _ faithful => faithful.update now spec) route

theorem Faithful.reset (h : gates.Faithful) : (gates.reset route).Faithful :=
  All.modify (P := fun _ p => p.Faithful) h (f := fun g => { g with policy := g.policy.reset })
    (fun _ _ faithful => faithful.reset) route

theorem rules_apply (h : gates.Faithful) :
    (gates.apply now batch).rules =
      gates.routes.map fun key => (key, .ofSpec? (batch.lookup key)) := by
  rw [rules, routes, Gates.apply, List.map_map, List.map_map]
  refine List.map_congr_left ?_
  rintro ⟨key, g⟩ mem
  exact congrArg (Prod.mk key) (GatePolicy.rule_apply (h _ mem) now (batch.lookup key))

/-- Without a row every route is free, whatever stood at its gate. -/
theorem rules_apply_nil (gates : Gates) (now : Nat) :
    (gates.apply now []).rules = gates.routes.map fun key => (key, .free) := by
  rw [rules, routes, Gates.apply, List.map_map, List.map_map]
  exact List.map_congr_left fun entry _ =>
    congrArg (Prod.mk entry.1) (GatePolicy.rule_reset entry.2.policy)

end Rows

end Gates

end Tollgate.Policy
