import Mathlib.Data.List.Forall2
import Tollgate.Proofs.Keys
import Tollgate.Proofs.Readers
import Tollgate.Service.Actions

/-!
# Where requests go

The router of a configuration has one mounted route for each configured one, in their
order, each under the key that its method and path spell. A request goes only to a route
whose pattern matches its path and that admits its method.
-/

namespace Tollgate

-- ---------------------------------------------------------------------------
-- Patterns and paths

namespace Http

/-- A pattern matches the segments of a path. A capture stands for any segment but an empty
last one, a catch-all for all that is left unless it is empty. -/
inductive Matches : List Segment → List (List Char) → Prop
  | done : Matches [] []
  | literal (cs : List Char) {segments : List Segment} {rest : List (List Char)}
      (more : Matches segments rest) : Matches (.literal cs :: segments) (cs :: rest)
  | capture {segments : List Segment} {cs : List Char} {rest : List (List Char)}
      (something : ¬(cs = [] ∧ rest = [])) (more : Matches segments rest) :
      Matches (.capture :: segments) (cs :: rest)
  | catchAll (segments : List Segment) {cs : List Char} {rest : List (List Char)}
      (something : ¬(cs = [] ∧ rest = [])) : Matches (.catchAll :: segments) (cs :: rest)

/-- A mounted route is one for requests of this method to this path. A route for GET is also
one for HEAD. -/
def Mount.Serves (m : Mount) (method path : String) : Prop :=
  (∃ segments, Router.pathSegments? path = some segments ∧ Matches m.segments segments) ∧
    (m.method = method ∨ method = "HEAD" ∧ m.method = "GET")

namespace Router

theorem mem_advance {accepts : Segment → Bool} {candidates : List Candidate}
    {segments : List Segment} {pattern : String} :
    (segments, pattern) ∈ advance accepts candidates ↔
      ∃ s, accepts s ∧ (s :: segments, pattern) ∈ candidates := by
  unfold advance
  rw [List.mem_filterMap]
  constructor
  · rintro ⟨⟨whole, name⟩, mem, kept⟩
    cases whole with
    | nil => simp at kept
    | cons s rest =>
      obtain ⟨accepted, same⟩ := Option.ite_none_right_eq_some.mp kept
      cases same
      exact ⟨s, accepted, mem⟩
  · rintro ⟨s, accepted, mem⟩
    exact ⟨_, mem, by simp [accepted]⟩

theorem exists_of_best {candidates : List Candidate} {path : List (List Char)} {pattern : String}
    (h : best candidates path = some pattern) :
    ∃ segments, (segments, pattern) ∈ candidates ∧ Matches segments path := by
  induction path generalizing candidates with
  | nil =>
    obtain ⟨⟨segments, name⟩, found, rfl⟩ := Option.map_eq_some_iff.mp h
    have empty : segments = [] := by simpa using List.find?_some found
    exact ⟨segments, List.mem_of_find?_eq_some found, empty ▸ .done⟩
  | cons cs rest ih =>
    have something : ∀ {choice : Option String},
        (if cs.isEmpty && rest.isEmpty then none else choice) = some pattern →
        ¬(cs = [] ∧ rest = []) ∧ choice = some pattern := by
      intro choice chosen
      obtain ⟨some, chosen⟩ := Option.ite_none_left_eq_some.mp chosen
      exact ⟨by simpa using some, chosen⟩
    simp only [best, Option.orElse_eq_orElse, Option.orElse_eq_or, Option.or_eq_some_iff] at h
    rcases h with literals | ⟨-, captures | ⟨-, catchAlls⟩⟩
    · obtain ⟨segments, mem, more⟩ := ih literals
      obtain ⟨s, accepted, mem⟩ := mem_advance.mp mem
      obtain rfl : s = .literal cs := by simpa using accepted
      exact ⟨_, mem, .literal cs more⟩
    · obtain ⟨some, captures⟩ := something captures
      obtain ⟨segments, mem, more⟩ := ih captures
      obtain ⟨s, accepted, mem⟩ := mem_advance.mp mem
      obtain rfl : s = .capture := by simpa using accepted
      exact ⟨_, mem, .capture some more⟩
    · obtain ⟨some, catchAlls⟩ := something catchAlls
      obtain ⟨⟨segments, name⟩, first, rfl⟩ := Option.map_eq_some_iff.mp catchAlls
      obtain ⟨s, accepted, mem⟩ := mem_advance.mp (List.mem_of_head? first)
      obtain rfl : s = .catchAll := by simpa using accepted
      exact ⟨_, mem, .catchAll segments some⟩

theorem admits_of_admitting {mounts : List Mount} {method : String} {m : Mount}
    (h : admitting mounts method = some m) :
    m ∈ mounts ∧ (m.method = method ∨ method = "HEAD" ∧ m.method = "GET") := by
  simp only [admitting, Option.orElse_eq_orElse, Option.orElse_eq_or, Option.or_eq_some_iff] at h
  rcases h with own | ⟨-, get⟩
  · have same := List.find?_some own
    exact ⟨List.mem_of_find?_eq_some own, .inl (by simpa using same)⟩
  · obtain ⟨head, get⟩ := Option.ite_none_right_eq_some.mp get
    have same := List.find?_some get
    exact ⟨List.mem_of_find?_eq_some get, .inr ⟨head, by simpa using same⟩⟩

theorem serves_of_dispatch {router : Router} (made : ∀ m ∈ router.mounts, m = .ofKey m.key)
    {method path : String} {m : Mount} (h : router.dispatch method path = .found m) :
    m ∈ router.mounts ∧ m.Serves method path := by
  simp only [dispatch] at h
  split at h
  next _ => cases h
  next pattern chosen =>
    split at h
    next found admitted =>
      cases h
      obtain ⟨among, admits⟩ := admits_of_admitting admitted
      obtain ⟨mem, named⟩ := List.mem_filter.mp among
      obtain ⟨path, parts, best⟩ := Option.bind_eq_some_iff.mp chosen
      obtain ⟨segments, candidate, matching⟩ := exists_of_best best
      obtain ⟨other, memOther, same⟩ := List.mem_map.mp candidate
      obtain ⟨rfl, rfl⟩ := Prod.mk.inj same
      -- Mounted routes of one pattern have the same segments.
      have segments : m.segments = other.segments := by
        have pattern : m.key.pattern = other.key.pattern := by
          have named : m.pattern = other.pattern := by simpa using named
          rw [made m mem, made other memOther] at named
          exact named
        rw [made m mem, made other memOther]
        simp only [Mount.ofKey, pattern]
      exact ⟨mem, ⟨path, parts, segments ▸ matching⟩, admits⟩
    next _ => cases h

-- ---------------------------------------------------------------------------
-- Mounting

theorem mount_ok {router mounted : Router} {key : Route.Key} (h : router.mount key = .ok mounted) :
    mounted.mounts = router.mounts ++ [.ofKey key] := by
  simp only [mount] at h
  split at h
  next _ => cases h
  next _ =>
    split at h
    next _ => cases h
    next _ =>
      cases h
      rfl

theorem mounts_of_foldlM {keys : List Route.Key} {router mounted : Router}
    (h : keys.foldlM mount router = .ok mounted) :
    mounted.mounts = router.mounts ++ keys.map .ofKey := by
  induction keys generalizing router with
  | nil =>
    cases h
    simp
  | cons key rest ih =>
    rw [List.foldlM_cons] at h
    cases first : router.mount key with
    | error e =>
      rw [first] at h
      cases h
    | ok next =>
      rw [first] at h
      rw [ih h, mount_ok first]
      simp

end Router

end Http

-- ---------------------------------------------------------------------------
-- Configured routes

namespace Config

open Tollgate.Route (Key)

theorem key?_of_routeKeys {c : Config} {keys : List Key} (h : c.routeKeys = .ok keys) :
    c.routes.map Route.key? = keys.map some := by
  unfold routeKeys at h
  generalize c.routes = routes at h ⊢
  induction routes generalizing keys with
  | nil =>
    cases h
    rfl
  | cons r rest ih =>
    rw [List.mapM_cons] at h
    obtain ⟨key, first, h⟩ := ok_of_bind h
    obtain ⟨others, later, h⟩ := ok_of_bind h
    cases h
    rw [List.map_cons, ih later, List.map_cons]
    cases named : r.key? with
    | none =>
      rw [named] at first
      cases first
    | some _ =>
      rw [named] at first
      cases first
      rfl

structure Route.MountedAs (r : Route) (m : Http.Mount) : Prop where
  spelled : Key.Spells r.keyText m.key
  text : m.key.text = m.method ++ " " ++ m.pattern
  /-- If the fields are a method and a pattern without blanks around them, then the pattern
  is the configured one. -/
  written : Key.isMethod r.method.toList → Key.isPattern r.path.toList →
    (∀ c, r.path.toList.getLast? = some c → Text.isBlank c = false) →
    m.method = Text.upperCase r.method ∧ m.pattern = r.path

theorem Route.mountedAs_ofKey {r : Route} {key : Key} (named : r.key? = some key) :
    r.MountedAs (.ofKey key) := by
  refine ⟨Key.spells_of_ofText? named, ?_, fun isMethod isPattern ends => ?_⟩
  · have text := (Key.hasParts_of_ofText? named).toList_text
    rw [← String.toList_inj]
    simpa [Http.Mount.ofKey, String.toList_append] using text
  · have spells : Key.Spells r.keyText (.ofParts r.method r.path) := by
      have spells : Key.Spells r.keyText
          (.ofParts (String.ofList r.method.toList) (String.ofList r.path.toList)) := by
        refine .intro [] r.method.toList [' '] r.path.toList [] ?_ isMethod isPattern ends ?_ ?_
        · simp [keyText, String.toList_append]
        · simp
        · simp [Text.Blanks, Text.isBlank]
      simpa using spells
    obtain rfl := (Key.spells_iff_eq named _).mp spells
    simp only [Http.Mount.ofKey]
    exact Key.parts_ofParts isMethod r.path

end Config

namespace Service

open Http (Mount Router)

theorem mounts_of_routerOf {c : Config} {router : Router} (h : routerOf c = .ok router) :
    ∃ keys, c.routeKeys = .ok keys ∧ router.mounts = keys.map Mount.ofKey ∧
      List.Forall₂ Config.Route.MountedAs c.routes router.mounts := by
  unfold routerOf at h
  split at h
  next _ => cases h
  next keys named =>
    have mounts : router.mounts = keys.map Mount.ofKey := by
      cases made : Router.ofKeys keys with
      | error e =>
        rw [made] at h
        cases h
      | ok mounted =>
        rw [made] at h
        cases h
        exact Router.mounts_of_foldlM made
    refine ⟨keys, named, mounts, ?_⟩
    have keysOf := Config.key?_of_routeKeys named
    rw [mounts, List.forall₂_map_right_iff]
    refine List.forall₂_iff_get.mpr ⟨?_, fun i inRoutes inKeys => ?_⟩
    · simpa using congrArg List.length keysOf
    · refine Config.Route.mountedAs_ofKey ?_
      have entry := congrArg (·[i]?) keysOf
      simpa [inRoutes, inKeys] using entry

end Service

end Tollgate
