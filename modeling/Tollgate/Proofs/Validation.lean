import Mathlib.Data.List.Nodup
import Tollgate.Proofs.Mounting
import Tollgate.Proofs.Shapes

/-!
# What validation accepts and reports

A configuration is valid exactly if it is sound: its schedule, keys and addresses keep the
rules, every route can be mounted, no key comes twice, and no two patterns differ in the
names of their captures alone. The order of the routes does not matter. What is wrong is
reported whatever else is: each broken rule once, each route that cannot be mounted once,
and a key once for each time that it is repeated.
-/

namespace Tollgate.Config

open Tollgate.Route (Key)
open Tollgate.Route.Pattern (Agree check shape shape_eq_iff)

-- ---------------------------------------------------------------------------
-- Rules

/-- The rules of a configuration that are not about single routes. -/
inductive Rule where
  | positiveInterval
  | someRoute
  | visibleSigningKey
  | visibleAdminKey
  | adminSocket
  | listenerSocket
  | metricsSocket
  deriving DecidableEq, Repr

def IsSocket (address : String) : Prop :=
  (Address.Socket.ofText? address).isSome

instance (address : String) : Decidable (IsSocket address) :=
  inferInstanceAs (Decidable (_ = true))

namespace Rule

def Holds (c : Config) : Rule → Prop
  | .positiveInterval => 0 < c.refresh.intervalSecs
  | .someRoute => c.routes ≠ []
  | .visibleSigningKey => ∃ key ∈ c.signing.defaultKeys, ¬Text.isBlankText key
  | .visibleAdminKey => c.admin.enabled → ¬Text.isBlankText c.admin.apiKey
  | .adminSocket => c.admin.enabled → IsSocket c.admin.bindAddress
  | .listenerSocket => IsSocket c.listener.bindAddress
  | .metricsSocket => c.observability.metricsEnabled → IsSocket c.observability.metricsAddress

instance (c : Config) : (rule : Rule) → Decidable (rule.Holds c)
  | .positiveInterval => inferInstanceAs (Decidable (_ < _))
  | .someRoute => inferInstanceAs (Decidable (_ ≠ _))
  | .visibleSigningKey => inferInstanceAs (Decidable (∃ key ∈ _, ¬_))
  | .visibleAdminKey => inferInstanceAs (Decidable (_ → _))
  | .adminSocket => inferInstanceAs (Decidable (_ → _))
  | .listenerSocket => inferInstanceAs (Decidable (IsSocket _))
  | .metricsSocket => inferInstanceAs (Decidable (_ → _))

def violation (c : Config) : Rule → Violation
  | .positiveInterval => .zeroRefreshInterval
  | .someRoute => .noRoutes
  | .visibleSigningKey => .noDefaultSigningKeys
  | .visibleAdminKey => .missingAdminKey
  | .adminSocket => .invalidAddress "admin.bind_address" c.admin.bindAddress
  | .listenerSocket => .invalidAddress "listener.bind_address" c.listener.bindAddress
  | .metricsSocket =>
    .invalidAddress "observability.metrics_address" c.observability.metricsAddress

def report (c : Config) (rule : Rule) : List Violation :=
  if rule.Holds c then [] else [rule.violation c]

theorem report_eq_ite {c : Config} (rule : Rule) {broken : Prop} [Decidable broken]
    (h : broken ↔ ¬rule.Holds c) :
    (if broken then [rule.violation c] else []) = rule.report c := by
  rw [report, if_congr h rfl rfl, ite_not]

theorem report_eq_nil {c : Config} {rule : Rule} : rule.report c = [] ↔ rule.Holds c := by
  simp [report]

theorem violation_injective {c : Config} {rule other : Rule}
    (h : rule.violation c = other.violation c) : rule = other := by
  cases rule <;> cases other <;> simp [violation] at h <;> rfl

theorem count_report (c : Config) (rule other : Rule) :
    (other.report c).count (rule.violation c) = if other = rule ∧ ¬rule.Holds c then 1 else 0 := by
  rw [report]
  by_cases same : other = rule
  · subst same
    split <;> simp [*]
  · have differ : other.violation c ≠ rule.violation c := fun h => same (violation_injective h)
    split <;> simp [same, differ]

end Rule

theorem checkAddress_eq {field value : String} :
    checkAddress field value =
      if ¬IsSocket value then [.invalidAddress field value] else [] := by
  rw [ite_not]
  rfl

theorem violations_eq (c : Config) :
    violations c =
      Rule.report c .positiveInterval ++ Rule.report c .someRoute ++
      checkRoutes 0 .none c.routes ++
      Rule.report c .visibleSigningKey ++
      (Rule.report c .visibleAdminKey ++ Rule.report c .adminSocket) ++
      Rule.report c .listenerSocket ++ Rule.report c .metricsSocket := by
  have interval : (if c.refresh.intervalSecs = 0 then [Violation.zeroRefreshInterval] else []) =
      Rule.report c .positiveInterval :=
    Rule.report_eq_ite .positiveInterval (by simp [Rule.Holds])
  have routes : (if c.routes.isEmpty then [Violation.noRoutes] else []) =
      Rule.report c .someRoute :=
    Rule.report_eq_ite .someRoute (by simp [Rule.Holds])
  have signing : (if c.signing.defaultKeys.all Text.isBlankText then
      [Violation.noDefaultSigningKeys] else []) = Rule.report c .visibleSigningKey :=
    Rule.report_eq_ite .visibleSigningKey (by simp [Rule.Holds])
  have admin : (if c.admin.enabled then
      (if Text.isBlankText c.admin.apiKey then [Violation.missingAdminKey] else []) ++
        checkAddress "admin.bind_address" c.admin.bindAddress else []) =
      Rule.report c .visibleAdminKey ++ Rule.report c .adminSocket := by
    cases enabled : c.admin.enabled with
    | false => simp [Rule.report, Rule.Holds, enabled]
    | true =>
      have key : (if Text.isBlankText c.admin.apiKey then [Violation.missingAdminKey] else []) =
          Rule.report c .visibleAdminKey :=
        Rule.report_eq_ite .visibleAdminKey (by simp [Rule.Holds, enabled])
      have socket : checkAddress "admin.bind_address" c.admin.bindAddress =
          Rule.report c .adminSocket :=
        checkAddress_eq.trans
          (Rule.report_eq_ite .adminSocket (by simp [Rule.Holds, enabled]))
      rw [if_pos rfl, key, socket]
  have metrics : (if c.observability.metricsEnabled then
      checkAddress "observability.metrics_address" c.observability.metricsAddress else []) =
      Rule.report c .metricsSocket := by
    cases enabled : c.observability.metricsEnabled with
    | false => simp [Rule.report, Rule.Holds, enabled]
    | true =>
      exact checkAddress_eq.trans
        (Rule.report_eq_ite .metricsSocket (by simp [Rule.Holds, enabled]))
  have listener : checkAddress "listener.bind_address" c.listener.bindAddress =
      Rule.report c .listenerSocket := rfl
  rw [violations, interval, routes, signing, admin, listener, metrics]

-- ---------------------------------------------------------------------------
-- Routes

inductive Route.Unmountable (r : Route) : RouteError → Prop
  | noKey (unparsed : r.key? = none) : r.Unmountable (.noKey r.keyText)
  | badPattern {key : Key} {e : Tollgate.Route.PatternError} (parsed : r.key? = some key)
      (rejected : check key.pattern = .error e) : r.Unmountable (.badPattern e)

theorem mountable_eq_error {r : Route} {e : RouteError} :
    r.mountable = .error e ↔ r.Unmountable e := by
  rw [Route.mountable]
  constructor
  · intro h
    split at h
    next unparsed =>
      cases h
      exact .noKey unparsed
    next key parsed =>
      split at h
      next _ rejected =>
        cases h
        exact .badPattern parsed rejected
      next _ => cases h
  · rintro (unparsed | ⟨parsed, rejected⟩)
    · simp only [unparsed]
    · simp only [parsed, rejected]

/-- What checking a route can report, and what it adds to what is taken. -/
inductive Checked (index : Nat) (r : Route) (taken : Taken) : List Violation × Taken → Prop
  | refused {e : RouteError} (refused : r.mountable = .error e) :
      Checked index r taken ([.invalidRoute index e], taken)
  | repeated {key : Key} (mountable : r.mountable = .ok key) (known : key ∈ taken.keys) :
      Checked index r taken ([.duplicateRoute key], taken)
  | added {key : Key} (mountable : r.mountable = .ok key) (fresh : key ∉ taken.keys)
      {conflicts : List Violation} {shapes : List (List (List Char) × String)}
      (conflicting : ∀ v ∈ conflicts, ∃ first, v = .conflictingRoute first key.pattern) :
      Checked index r taken (conflicts, ⟨key :: taken.keys, shapes⟩)

theorem checkRoute_checked (index : Nat) (r : Route) (taken : Taken) :
    Checked index r taken (checkRoute index r taken) := by
  cases mountable : r.mountable with
  | error e =>
    simp only [checkRoute, mountable]
    exact .refused mountable
  | ok key =>
    simp only [checkRoute, mountable]
    split
    next known => exact .repeated mountable (by simpa using known)
    next fresh =>
      split
      next first _ =>
        refine .added mountable (by simpa using fresh) fun v mem => ?_
        split at mem
        next _ => exact ⟨first, List.mem_singleton.mp mem⟩
        next _ => cases mem
      next _ => exact .added mountable (by simpa using fresh) fun v mem => (by cases mem)

theorem checkRoutes_cons (index : Nat) (taken : Taken) (r : Route) (rest : List Route) :
    ∃ found taken', Checked index r taken (found, taken') ∧
      checkRoutes index taken (r :: rest) = found ++ checkRoutes (index + 1) taken' rest :=
  ⟨_, _, checkRoute_checked index r taken, rfl⟩

section Found

variable {index : Nat} {r : Route} {taken taken' : Taken} {found : List Violation}

theorem Checked.violation_notMem (checked : Checked index r taken (found, taken')) (c : Config)
    (rule : Rule) : rule.violation c ∉ found := by
  intro mem
  cases checked with
  | refused _ => cases rule <;> simp [Rule.violation] at mem
  | repeated _ _ => cases rule <;> simp [Rule.violation] at mem
  | added _ _ conflicting =>
    obtain ⟨first, same⟩ := conflicting _ mem
    cases rule <;> cases same

theorem violation_notMem_checkRoutes (c : Config) (rule : Rule) (index : Nat) (taken : Taken)
    (routes : List Route) : rule.violation c ∉ checkRoutes index taken routes := by
  induction routes generalizing index taken with
  | nil => exact List.not_mem_nil
  | cons r rest ih =>
    obtain ⟨found, taken', checked, same⟩ := checkRoutes_cons index taken r rest
    rw [same, List.mem_append, not_or]
    exact ⟨checked.violation_notMem c rule, ih _ _⟩

theorem Checked.count_invalidRoute (checked : Checked index r taken (found, taken')) (i : Nat)
    (e : RouteError) :
    found.count (.invalidRoute i e) = if i = index ∧ r.mountable = .error e then 1 else 0 := by
  cases checked with
  | refused refused =>
    rw [refused, List.count_singleton]
    refine if_congr ?_ rfl rfl
    rw [beq_iff_eq, Violation.invalidRoute.injEq, Except.error.injEq]
    exact and_congr_left' eq_comm
  | repeated mountable _ => simp [mountable]
  | added mountable _ conflicting =>
    rw [if_neg (by simp [mountable])]
    refine List.count_eq_zero.mpr fun mem => ?_
    obtain ⟨first, same⟩ := conflicting _ mem
    cases same

theorem count_invalidRoute (routes : List Route) (index : Nat) (taken : Taken) (i : Nat)
    (e : RouteError) :
    (checkRoutes index taken routes).count (.invalidRoute i e) =
      if index ≤ i ∧ routes[i - index]?.map Route.mountable = some (.error e) then 1 else 0 := by
  induction routes generalizing index taken with
  | nil => simp [checkRoutes]
  | cons r rest ih =>
    obtain ⟨found, taken', checked, same⟩ := checkRoutes_cons index taken r rest
    rw [same, List.count_append, checked.count_invalidRoute, ih]
    by_cases here : i = index
    · subst here
      have behind : ¬i + 1 ≤ i := Nat.not_succ_le_self i
      simp [behind]
    · rw [if_neg fun h => here h.1, Nat.zero_add]
      refine if_congr ?_ rfl rfl
      rcases Nat.lt_or_gt_of_ne here with before | behind
      · simp [Nat.not_le.mpr before, Nat.not_le.mpr (Nat.lt_succ_of_lt before)]
      · have position : i - index = i - (index + 1) + 1 := by omega
        rw [position, List.getElem?_cons_succ]
        simp [Nat.succ_le_of_lt behind, Nat.le_of_lt behind]

def mountedKeys (routes : List Route) : List Key :=
  routes.filterMap fun r => r.mountable.toOption

theorem mountedKeys_cons {key : Key} (h : r.mountable = .ok key) (rest : List Route) :
    mountedKeys (r :: rest) = key :: mountedKeys rest := by
  simp [mountedKeys, h, Except.toOption]

theorem Checked.count_duplicateRoute (checked : Checked index r taken (found, taken')) (key : Key) :
    found.count (.duplicateRoute key) =
      if r.mountable = .ok key ∧ key ∈ taken.keys then 1 else 0 := by
  cases checked with
  | refused refused => simp [refused]
  | @repeated k mountable known =>
    by_cases own : k = key
    · subst own
      simp [mountable, known]
    · simp [mountable, own]
  | @added k mountable fresh _ _ conflicting =>
    rw [if_neg]
    · refine List.count_eq_zero.mpr fun mem => ?_
      obtain ⟨first, same⟩ := conflicting _ mem
      cases same
    · rintro ⟨own, known⟩
      rw [mountable] at own
      cases own
      exact fresh known

/-- A key is reported once for each route that has it, apart from the first. -/
theorem count_duplicateRoute (routes : List Route) (index : Nat) (taken : Taken) (key : Key) :
    (checkRoutes index taken routes).count (.duplicateRoute key) =
      if key ∈ taken.keys then (mountedKeys routes).count key
      else (mountedKeys routes).count key - 1 := by
  induction routes generalizing index taken with
  | nil => simp [checkRoutes, mountedKeys]
  | cons r rest ih =>
    obtain ⟨found, taken', checked, same⟩ := checkRoutes_cons index taken r rest
    rw [same, List.count_append, checked.count_duplicateRoute, ih]
    cases checked with
    | refused refused =>
      have keys : mountedKeys (r :: rest) = mountedKeys rest := by
        simp [mountedKeys, refused, Except.toOption]
      simp [keys, refused]
    | @repeated k mountable known =>
      rw [mountedKeys_cons mountable]
      by_cases own : k = key
      · subst own
        simp [mountable, known, Nat.add_comm]
      · simp [mountable, own]
    | @added k mountable fresh _ _ _ =>
      rw [mountedKeys_cons mountable]
      by_cases own : k = key
      · subst own
        simp [fresh]
      · simp [mountable, own, Ne.symm own]

end Found

-- ---------------------------------------------------------------------------
-- Routes that fit together

/-- Routes can be mounted, have different keys, and no two patterns differ in the names of
their captures alone. -/
structure Fit (routes : List Route) : Prop where
  mountable : ∀ r ∈ routes, ∃ key, r.key? = some key ∧ check key.pattern = .ok ()
  keys : (routes.map Route.key?).Nodup
  captures : ∀ r ∈ routes, ∀ s ∈ routes, ∀ k l, r.key? = some k → s.key? = some l →
    Agree k.pattern l.pattern → k.pattern = l.pattern

theorem Fit.perm {routes routes' : List Route} (h : Fit routes) (same : routes'.Perm routes) :
    Fit routes' where
  mountable r mem := h.mountable r (same.mem_iff.mp mem)
  keys := (same.map Route.key?).nodup_iff.mpr h.keys
  captures r memR s memS := h.captures r (same.mem_iff.mp memR) s (same.mem_iff.mp memS)

theorem mem_mountedKeys {routes : List Route} {key : Key} :
    key ∈ mountedKeys routes ↔ ∃ r ∈ routes, r.mountable = .ok key := by
  rw [mountedKeys, List.mem_filterMap]
  refine exists_congr fun r => and_congr_right fun _ => ?_
  cases r.mountable <;> simp [Except.toOption]

theorem map_key?_eq {routes : List Route} (mountable : ∀ r ∈ routes, ∃ key, r.mountable = .ok key) :
    routes.map Route.key? = (mountedKeys routes).map some := by
  induction routes with
  | nil => rfl
  | cons r rest ih =>
    obtain ⟨⟨key, first⟩, later⟩ := List.forall_mem_cons.mp mountable
    rw [mountedKeys_cons first, List.map_cons, List.map_cons, ih later, mountable_ok first]

theorem fit_iff_distinct {routes : List Route} :
    Fit routes ↔
      (∀ r ∈ routes, ∃ key, r.mountable = .ok key) ∧ Distinct (mountedKeys routes) := by
  -- Patterns that are accepted agree exactly if they have one shape.
  have shapes : ∀ {r s : Route} {k l : Key}, r.mountable = .ok k → s.mountable = .ok l →
      (shape k.pattern = shape l.pattern ↔ Agree k.pattern l.pattern) := by
    intro r s k l mountR mountS
    obtain ⟨parsedR, acceptedR⟩ := mountable_eq_ok.mp mountR
    obtain ⟨parsedS, acceptedS⟩ := mountable_eq_ok.mp mountS
    exact shape_eq_iff (Key.rooted_of_ofText? parsedR) (Key.rooted_of_ofText? parsedS)
      acceptedR acceptedS
  constructor
  · intro fit
    have mountable : ∀ r ∈ routes, ∃ key, r.mountable = .ok key := fun r mem =>
      (fit.mountable r mem).imp fun _ => mountable_eq_ok.mpr
    refine ⟨mountable, fun k mem => ?_, ?_, fun k memK l memL same => ?_⟩
    · obtain ⟨r, -, mount⟩ := mem_mountedKeys.mp mem
      exact Key.hasParts_of_ofText? (mountable_ok mount)
    · have keys := fit.keys
      rwa [map_key?_eq mountable, List.nodup_map_iff fun _ _ => Option.some.inj] at keys
    · obtain ⟨r, memR, mountR⟩ := mem_mountedKeys.mp memK
      obtain ⟨s, memS, mountS⟩ := mem_mountedKeys.mp memL
      exact fit.captures r memR s memS k l (mountable_ok mountR) (mountable_ok mountS)
        ((shapes mountR mountS).mp same)
  · rintro ⟨mountable, distinct⟩
    refine ⟨fun r mem => (mountable r mem).imp fun _ => mountable_eq_ok.mp, ?_,
      fun r memR s memS k l parsedR parsedS agree => ?_⟩
    · rw [map_key?_eq mountable, List.nodup_map_iff fun _ _ => Option.some.inj]
      exact distinct.nodup
    · obtain ⟨k', mountR⟩ := mountable r memR
      obtain ⟨l', mountS⟩ := mountable s memS
      obtain rfl := Option.some.inj (parsedR.symm.trans (mountable_ok mountR))
      obtain rfl := Option.some.inj (parsedS.symm.trans (mountable_ok mountS))
      exact distinct.shapes k (mem_mountedKeys.mpr ⟨r, memR, mountR⟩) l
        (mem_mountedKeys.mpr ⟨s, memS, mountS⟩) ((shapes mountR mountS).mpr agree)

-- ---------------------------------------------------------------------------
-- Routes without violations

theorem Distinct.of_append {keys others : List Key} (h : Distinct (keys ++ others)) :
    Distinct keys where
  parts k mem := h.parts k (List.mem_append_left _ mem)
  nodup := (List.nodup_append.mp h.nodup).1
  shapes k memK l memL :=
    h.shapes k (List.mem_append_left _ memK) l (List.mem_append_left _ memL)

def Taken.Comes (taken : Taken) (before : List Key) : Prop :=
  ∀ s first, taken.shapes.lookup s = some first →
    ∃ k ∈ before, shape k.pattern = s ∧ k.pattern = first

theorem checkRoute_of_distinct (index : Nat) {r : Route} {taken : Taken} {before : List Key}
    {key : Key} (holds : taken.Holds before) (comes : taken.Comes before)
    (mountable : r.mountable = .ok key) (distinct : Distinct (before ++ [key])) :
    (checkRoute index r taken).1 = [] ∧
      (checkRoute index r taken).2.Comes (before ++ [key]) := by
  have last : key ∈ before ++ [key] := List.mem_append_right _ List.mem_cons_self
  have fresh : key ∉ taken.keys := fun known =>
    (List.nodup_append.mp distinct.nodup).2.2 key ((holds.keys key).mp known) key
      List.mem_cons_self rfl
  have absent : ¬taken.keys.contains key := by simpa using fresh
  simp only [checkRoute, mountable, if_neg absent]
  cases found : taken.shapes.lookup (shape key.pattern) with
  | some first =>
    obtain ⟨k, old, same, rfl⟩ := comes _ _ found
    have pattern := distinct.shapes k (List.mem_append_left _ old) key last same
    refine ⟨by simp [pattern], fun s first kept => ?_⟩
    obtain ⟨k, old, same⟩ := comes s first kept
    exact ⟨k, List.mem_append_left _ old, same⟩
  | none =>
    refine ⟨rfl, fun s first kept => ?_⟩
    simp only [List.lookup_cons] at kept
    split at kept
    next same => exact ⟨key, last, (beq_iff_eq.mp same).symm, Option.some.inj kept⟩
    next _ =>
      obtain ⟨k, old, same⟩ := comes s first kept
      exact ⟨k, List.mem_append_left _ old, same⟩

theorem checkRoutes_of_distinct {routes : List Route} {before : List Key} {index : Nat}
    {taken : Taken} (holds : taken.Holds before) (comes : taken.Comes before)
    (mountable : ∀ r ∈ routes, ∃ key, r.mountable = .ok key)
    (distinct : Distinct (before ++ mountedKeys routes)) : checkRoutes index taken routes = [] := by
  induction routes generalizing before index taken with
  | nil => rfl
  | cons r rest ih =>
    obtain ⟨⟨key, first⟩, later⟩ := List.forall_mem_cons.mp mountable
    rw [mountedKeys_cons first, ← List.singleton_append, ← List.append_assoc] at distinct
    obtain ⟨none, comes⟩ := checkRoute_of_distinct index holds comes first distinct.of_append
    obtain ⟨key', named, -, holds⟩ := checkRoute_nil holds none
    obtain rfl : key' = key := Option.some.inj (named.symm.trans (mountable_ok first))
    have others : checkRoutes (index + 1) (checkRoute index r taken).2 rest = [] :=
      ih holds comes later distinct
    simp only [checkRoutes, none, others, List.nil_append]

theorem checkRoutes_eq_nil_iff (routes : List Route) :
    checkRoutes 0 .none routes = [] ↔ Fit routes := by
  have holds : Taken.none.Holds [] := ⟨fun _ => Iff.rfl, fun _ mem => by cases mem⟩
  have comes : Taken.none.Comes [] := fun _ _ found => by cases found
  rw [fit_iff_distinct]
  constructor
  · intro nothing
    have mountable : ∀ r ∈ routes, ∃ key, r.mountable = .ok key := by
      intro r mem
      cases mount : r.mountable with
      | ok key => exact ⟨key, rfl⟩
      | error e =>
        obtain ⟨i, bound, here⟩ := List.getElem_of_mem mem
        have reported := count_invalidRoute routes 0 .none i e
        simp [nothing, here, bound, mount] at reported
    obtain ⟨keys, named, distinct⟩ :=
      checkRoutes_nil holds (fun _ mem => by cases mem) List.nodup_nil nothing
    rw [map_key?_eq mountable, List.map_inj_right fun _ _ => Option.some.inj] at named
    exact ⟨mountable, named ▸ distinct⟩
  · rintro ⟨mountable, distinct⟩
    exact checkRoutes_of_distinct holds comes mountable distinct

-- ---------------------------------------------------------------------------
-- Configurations

structure Sound (c : Config) : Prop where
  rules : ∀ rule : Rule, rule.Holds c
  routes : Fit c.routes

theorem isValid_iff_sound (c : Config) : c.isValid ↔ Sound c := by
  rw [isValid, List.isEmpty_iff, violations_eq]
  simp only [List.append_eq_nil_iff, Rule.report_eq_nil, checkRoutes_eq_nil_iff]
  constructor
  · rintro ⟨⟨⟨⟨⟨⟨interval, nonempty⟩, routes⟩, signing⟩, key, admin⟩, listener⟩, metrics⟩
    refine ⟨fun rule => ?_, routes⟩
    cases rule <;> assumption
  · rintro ⟨rules, routes⟩
    exact ⟨⟨⟨⟨⟨⟨rules _, rules _⟩, routes⟩, rules _⟩, rules _, rules _⟩, rules _⟩, rules _⟩

theorem Sound.perm {c : Config} (h : Sound c) {routes : List Route}
    (same : routes.Perm c.routes) : Sound { c with routes := routes } where
  rules rule := by
    have kept := h.rules rule
    cases rule with
    | someRoute =>
      intro none
      have empty : routes = [] := none
      rw [empty] at same
      exact kept same.nil_eq.symm
    | _ => exact kept
  routes := h.routes.perm same

theorem count_violations {c : Config} {v : Violation} (apart : ∀ rule : Rule, rule.violation c ≠ v) :
    (violations c).count v = (checkRoutes 0 .none c.routes).count v := by
  have none : ∀ rule : Rule, (rule.report c).count v = 0 := by
    intro rule
    rw [Rule.report]
    split <;> simp [apart rule]
  simp only [violations_eq, List.count_append, none, Nat.zero_add, Nat.add_zero]

/-- The report on a configuration names each broken rule once, each route that cannot be
mounted once, under its position and with the cause, and a key once for each route that
repeats it. -/
structure Reported (c : Config) : Prop where
  broken : ∀ rule : Rule, ¬rule.Holds c → (violations c).count (rule.violation c) = 1
  kept : ∀ rule : Rule, rule.Holds c → rule.violation c ∉ violations c
  unmountable : ∀ i r e, c.routes[i]? = some r → r.Unmountable e →
    (violations c).count (.invalidRoute i e) = 1
  mountable : ∀ i e, .invalidRoute i e ∈ violations c →
    ∃ r, c.routes[i]? = some r ∧ r.Unmountable e
  repeated : ∀ key,
    (violations c).count (.duplicateRoute key) = (mountedKeys c.routes).count key - 1

theorem count_rule (c : Config) (rule : Rule) :
    (violations c).count (rule.violation c) = if rule.Holds c then 0 else 1 := by
  have routes : (checkRoutes 0 .none c.routes).count (rule.violation c) = 0 :=
    List.count_eq_zero.mpr (violation_notMem_checkRoutes c rule 0 .none c.routes)
  simp only [violations_eq, List.count_append, Rule.count_report, routes]
  cases rule <;> simp

theorem reported (c : Config) : Reported c := by
  have unmountable : ∀ i e, (violations c).count (.invalidRoute i e) =
      if c.routes[i]?.map Route.mountable = some (.error e) then 1 else 0 := by
    intro i e
    rw [count_violations (by intro rule; cases rule <;> simp [Rule.violation]),
      count_invalidRoute]
    simp
  refine ⟨fun rule broken => ?_, fun rule holds => ?_, fun i r e here cause => ?_,
    fun i e mem => ?_, fun key => ?_⟩
  · rw [count_rule, if_neg broken]
  · rw [← List.count_eq_zero, count_rule, if_pos holds]
  · rw [unmountable, here, Option.map_some, mountable_eq_error.mpr cause, if_pos rfl]
  · have counted := List.count_pos_iff.mpr mem
    rw [unmountable] at counted
    split at counted
    next found =>
      obtain ⟨r, here, mount⟩ := Option.map_eq_some_iff.mp found
      exact ⟨r, here, mountable_eq_error.mp mount⟩
    next _ => cases counted
  · rw [count_violations (by intro rule; cases rule <;> simp [Rule.violation]),
      count_duplicateRoute]
    rfl

/-- A configuration is valid exactly if it is sound, in whatever order its routes stand, and
all that is wrong with it is reported. -/
theorem validation_exact (c : Config) :
    (c.isValid ↔ Sound c) ∧
      (∀ routes, routes.Perm c.routes → isValid { c with routes := routes } = c.isValid) ∧
      Reported c := by
  refine ⟨isValid_iff_sound c, fun routes same => ?_, reported c⟩
  rw [Bool.eq_iff_iff, isValid_iff_sound, isValid_iff_sound]
  exact ⟨fun sound => sound.perm same.symm, fun sound => sound.perm same⟩

def tangled : Config :=
  { Config.default with
    refresh := ⟨0⟩
    routes := [⟨"GET", "/u/\x7bid\x7d"⟩, ⟨"GET", "no-slash"⟩, ⟨"DELETE", "/u/\x7bname\x7d"⟩,
      ⟨"get", "/u/\x7bid\x7d"⟩] }

theorem validation_exact_tangled :
    ¬Sound tangled ∧
      isValid { tangled with routes := tangled.routes.reverse } = false ∧
      (violations tangled).count .zeroRefreshInterval = 1 ∧
      (violations tangled).count (.invalidRoute 1 (.noKey "GET no-slash")) = 1 ∧
      (violations tangled).count (.duplicateRoute ⟨"GET /u/\x7bid\x7d"⟩) = 1 := by
  obtain ⟨sound, order, reported⟩ := validation_exact tangled
  have invalid : tangled.isValid = false := by decide +kernel
  refine ⟨fun h => ?_, ?_, ?_, ?_, ?_⟩
  · rw [sound.mpr h] at invalid
    cases invalid
  · rw [order _ (List.reverse_perm _), invalid]
  · exact reported.broken .positiveInterval (by decide)
  · exact reported.unmountable 1 ⟨"GET", "no-slash"⟩ _ rfl (.noKey (by decide +kernel))
  · rw [reported.repeated]
    decide +kernel

end Tollgate.Config
