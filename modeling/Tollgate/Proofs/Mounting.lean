import Tollgate.Proofs.Keys
import Tollgate.Service.Actions

/-!
# Valid configurations at the router

Validation and the router check routes independently. Of a valid configuration every
route has a key, no key comes twice, and patterns of one shape are the same. Two things
validation lets pass and the router refuses: a method that is not supported, and a
capture in the place of a catch-all. A valid configuration mounts exactly if its routes
have neither.
-/

namespace Tollgate

-- ---------------------------------------------------------------------------
-- What validation establishes

namespace Config

open Tollgate.Route (Key Pattern.check Pattern.shape)

/-- What the router needs of the keys of all routes: each has its parts, none comes twice,
and patterns of one shape are the same. -/
structure Distinct (keys : List Key) : Prop where
  parts : ∀ k ∈ keys, k.HasParts
  nodup : keys.Nodup
  shapes : ∀ k ∈ keys, ∀ l ∈ keys, Pattern.shape k.pattern = Pattern.shape l.pattern →
    k.pattern = l.pattern

/-- What validation keeps of the keys before a route: the keys, and the pattern of each
under its shape. -/
structure Taken.Holds (taken : Taken) (before : List Key) : Prop where
  keys : ∀ k, k ∈ taken.keys ↔ k ∈ before
  shapes : ∀ k ∈ before, taken.shapes.lookup (Pattern.shape k.pattern) = some k.pattern

theorem mountable_eq_ok {r : Route} {key : Key} :
    r.mountable = .ok key ↔ r.key? = some key ∧ Pattern.check key.pattern = .ok () := by
  rw [Route.mountable]
  constructor
  · intro h
    split at h
    next _ => cases h
    next k parsed =>
      split at h
      next _ _ => cases h
      next accepted =>
        cases h
        exact ⟨parsed, accepted⟩
  · rintro ⟨parsed, accepted⟩
    simp only [parsed, accepted]

theorem mountable_ok {r : Route} {key : Key} (h : r.mountable = .ok key) : r.key? = some key :=
  (mountable_eq_ok.mp h).1

theorem Taken.Holds.keys_cons {taken : Taken} {before : List Key} (holds : taken.Holds before)
    (key k : Key) : k ∈ key :: taken.keys ↔ k ∈ before ++ [key] := by
  rw [List.mem_cons, holds.keys, List.mem_append, List.mem_singleton, or_comm]

theorem checkRoute_nil {index : Nat} {r : Route} {taken : Taken} {before : List Key}
    (holds : taken.Holds before) (h : (checkRoute index r taken).1 = []) :
    ∃ key, r.key? = some key ∧ key ∉ before ∧
      (checkRoute index r taken).2.Holds (before ++ [key]) := by
  cases mountable : r.mountable with
  | error e => simp [checkRoute, mountable] at h
  | ok key =>
    refine ⟨key, mountable_ok mountable, ?_⟩
    simp only [checkRoute, mountable] at h ⊢
    split at h
    next _ => cases h
    next fresh =>
      have new : key ∉ before := by
        rw [← holds.keys]
        simpa using fresh
      refine ⟨new, ?_⟩
      rw [if_neg fresh]
      cases found : taken.shapes.lookup (Pattern.shape key.pattern) with
      | some first =>
        -- The shape is known, so its pattern is this one.
        simp only [found] at h ⊢
        have same : first = key.pattern := by simpa using h
        refine ⟨holds.keys_cons key, fun k mem => ?_⟩
        rcases List.mem_append.mp mem with old | last
        · exact holds.shapes k old
        · rw [List.mem_singleton.mp last, ← same]
          exact same ▸ found
      | none =>
        simp only
        refine ⟨holds.keys_cons key, fun k mem => ?_⟩
        rcases List.mem_append.mp mem with old | last
        · have kept := holds.shapes k old
          have other : Pattern.shape k.pattern ≠ Pattern.shape key.pattern := by
            intro same
            rw [same, found] at kept
            cases kept
          rw [List.lookup_cons, beq_eq_false_iff_ne.mpr other]
          exact kept
        · rw [List.mem_singleton.mp last, List.lookup_cons_self]

theorem Taken.Holds.distinct {taken : Taken} {keys : List Key} (holds : taken.Holds keys)
    (parts : ∀ k ∈ keys, k.HasParts) (nodup : keys.Nodup) : Distinct keys := by
  refine ⟨parts, nodup, fun k memK l memL same => ?_⟩
  have first := holds.shapes k memK
  rw [same, holds.shapes l memL] at first
  exact (Option.some.inj first).symm

theorem checkRoutes_nil {index : Nat} {taken : Taken} {before : List Key} {routes : List Route}
    (holds : taken.Holds before) (parts : ∀ k ∈ before, k.HasParts) (nodup : before.Nodup)
    (h : checkRoutes index taken routes = []) :
    ∃ keys, routes.map Route.key? = keys.map some ∧ Distinct (before ++ keys) := by
  induction routes generalizing index taken before with
  | nil => exact ⟨[], rfl, by simpa using holds.distinct parts nodup⟩
  | cons r rest ih =>
    simp only [checkRoutes, List.append_eq_nil_iff] at h
    obtain ⟨found, later⟩ := h
    obtain ⟨key, named, new, holds⟩ := checkRoute_nil holds found
    have parts' : ∀ k ∈ before ++ [key], k.HasParts := by
      intro k mem
      rcases List.mem_append.mp mem with old | last
      · exact parts k old
      · rw [List.mem_singleton.mp last]
        exact Tollgate.Route.Key.hasParts_of_ofText? named
    have nodup' : (before ++ [key]).Nodup := by
      refine List.nodup_append.mpr ⟨nodup, by simp, ?_⟩
      rintro k old l last rfl
      exact new (List.mem_singleton.mp last ▸ old)
    obtain ⟨keys, named', distinct⟩ := ih holds parts' nodup' later
    refine ⟨key :: keys, ?_, ?_⟩
    · rw [List.map_cons, named, named', List.map_cons]
    · rwa [List.append_assoc, List.singleton_append] at distinct

theorem routeKeys_ok {c : Config} {keys : List Key} (h : c.routes.map Route.key? = keys.map some) :
    c.routeKeys = .ok keys := by
  unfold routeKeys
  generalize c.routes = routes at h
  induction routes generalizing keys with
  | nil =>
    obtain rfl := List.map_eq_nil_iff.mp h.symm
    rfl
  | cons r rest ih =>
    cases keys with
    | nil => cases h
    | cons key keys =>
      obtain ⟨named, later⟩ := List.cons_eq_cons.mp h
      rw [List.mapM_cons, ih later, named]
      rfl

theorem distinct_of_isValid {c : Config} (h : c.isValid) :
    ∃ keys, c.routeKeys = .ok keys ∧ Distinct keys := by
  have none : violations c = [] := List.isEmpty_iff.mp h
  simp only [violations, List.append_eq_nil_iff] at none
  obtain ⟨⟨⟨⟨⟨-, routes⟩, -⟩, -⟩, -⟩, -⟩ := none
  have empty : Taken.none.Holds [] := ⟨fun _ => Iff.rfl, fun _ mem => by cases mem⟩
  obtain ⟨keys, named, distinct⟩ :=
    checkRoutes_nil empty (fun _ mem => by cases mem) List.nodup_nil routes
  exact ⟨keys, routeKeys_ok named, distinct⟩

end Config

-- ---------------------------------------------------------------------------
-- What the router makes of it

namespace Http

open Tollgate.Config (Distinct)
open Tollgate.Route (Key)

/-- Whether the patterns of two keys have a capture and a catch-all in one place. -/
def Mount.clash (k l : Key) : Bool :=
  Segment.clash (ofKey k).segments (ofKey l).segments

theorem Segment.clash_self (segments : List Segment) : clash segments segments = false := by
  induction segments with
  | nil => rfl
  | cons s rest ih => cases s <;> simp [clash, ih]

/-- Distinct keys collide by a clash only. -/
theorem Mount.collides_eq {keys : List Key} (distinct : Distinct keys) {k l : Key}
    (memK : k ∈ keys) (memL : l ∈ keys) (other : k ≠ l) :
    (ofKey k).collidesWith (ofKey l) = clash k l := by
  by_cases pattern : k.pattern = l.pattern
  · have same : (ofKey k).pattern = (ofKey l).pattern := pattern
    have method : ((ofKey k).method == (ofKey l).method) = false := by
      refine beq_eq_false_iff_ne.mpr fun method : k.method = l.method => ?_
      exact other ((distinct.parts k memK).eq (distinct.parts l memL) method pattern)
    have segments : (ofKey k).segments = (ofKey l).segments := by simp only [ofKey, pattern]
    rw [collidesWith, if_pos same, method, clash, segments, Segment.clash_self]
  · have differ : ¬(ofKey k).pattern = (ofKey l).pattern := pattern
    have shapes : (Route.Pattern.shape (ofKey k).pattern ==
        Route.Pattern.shape (ofKey l).pattern) = false :=
      beq_eq_false_iff_ne.mpr fun shape => pattern (distinct.shapes k memK l memL shape)
    rw [collidesWith, if_neg differ, shapes, Bool.false_or, clash]

structure Mountable (keys : List Key) : Prop where
  methods : ∀ key ∈ keys, key.method ∈ Mount.supportedMethods
  apart : keys.Pairwise fun k l => Mount.clash k l = false

inductive Refused (before : List Key) (key : Key) : MountError → Prop
  | method (unsupported : key.method ∉ Mount.supportedMethods) :
      Refused before key (.unsupportedMethod key)
  | clash (supported : key.method ∈ Mount.supportedMethods) (k : Key) (mounted : k ∈ before)
      (clash : Mount.clash k key) : Refused before key (.collision key)

theorem Mountable.concat {keys : List Key} (h : Mountable keys) {key : Key}
    (supported : key.method ∈ Mount.supportedMethods)
    (apart : ∀ k ∈ keys, Mount.clash k key = false) : Mountable (keys ++ [key]) := by
  refine ⟨fun k mem => ?_, List.pairwise_append.mpr ⟨h.apart, List.pairwise_singleton _ _, ?_⟩⟩
  · rcases List.mem_append.mp mem with old | last
    · exact h.methods k old
    · rw [List.mem_singleton.mp last]
      exact supported
  · intro k old l last
    rw [List.mem_singleton.mp last]
    exact apart k old

theorem Refused.not_mountable {before after : List Key} {key : Key} {e : MountError}
    (h : Refused before key e) : ¬Mountable (before ++ key :: after) := by
  intro mountable
  cases h with
  | method unsupported =>
    exact unsupported (mountable.methods key (List.mem_append_right _ List.mem_cons_self))
  | clash _ k mounted clash =>
    have apart := (List.pairwise_append.mp mountable.apart).2.2 k mounted key List.mem_cons_self
    rw [clash] at apart
    cases apart

namespace Router

theorem mount_cases {before : List Key} {key : Key} {after : List Key}
    (distinct : Distinct (before ++ key :: after)) (mounted : Mountable before) :
    (Mountable (before ++ [key]) ∧
      mount ⟨before.map Mount.ofKey⟩ key = .ok ⟨(before ++ [key]).map Mount.ofKey⟩) ∨
    ∃ e, Refused before key e ∧ mount ⟨before.map Mount.ofKey⟩ key = .error e := by
  have method : (Mount.ofKey key).method = key.method := rfl
  have collides : ((before.map Mount.ofKey).any fun m => m.collidesWith (.ofKey key)) =
      before.any fun k => Mount.clash k key := by
    rw [List.any_map, Bool.eq_iff_iff, List.any_eq_true, List.any_eq_true]
    refine exists_congr fun k => and_congr_right fun old => ?_
    have other : k ≠ key := by
      rintro rfl
      exact (List.nodup_append.mp distinct.nodup).2.2 k old k List.mem_cons_self rfl
    rw [Function.comp_apply, Mount.collides_eq distinct (List.mem_append_left _ old)
      (List.mem_append_right _ List.mem_cons_self) other]
  by_cases supported : key.method ∈ Mount.supportedMethods
  · by_cases clash : ∃ k ∈ before, Mount.clash k key
    · obtain ⟨k, old, clashes⟩ := clash
      refine .inr ⟨_, .clash supported k old clashes, ?_⟩
      have found : (before.any fun k => Mount.clash k key) = true :=
        List.any_eq_true.mpr ⟨k, old, clashes⟩
      simp [mount, method, supported, collides, found]
    · have apart : ∀ k ∈ before, Mount.clash k key = false := by
        intro k old
        rw [Bool.eq_false_iff]
        exact fun clashes => clash ⟨k, old, clashes⟩
      refine .inl ⟨mounted.concat supported apart, ?_⟩
      have free : (before.any fun k => Mount.clash k key) = false := by
        rw [List.any_eq_false]
        intro k old
        simp [apart k old]
      simp [mount, method, supported, collides, free]
  · exact .inr ⟨_, .method supported, by simp [mount, method, supported]⟩

theorem foldlM_mount {before rest : List Key} (distinct : Distinct (before ++ rest))
    (mounted : Mountable before) :
    (Mountable (before ++ rest) ∧
      rest.foldlM mount ⟨before.map Mount.ofKey⟩ = .ok ⟨(before ++ rest).map Mount.ofKey⟩) ∨
    ∃ front key after e, before ++ rest = front ++ key :: after ∧ Mountable front ∧
      Refused front key e ∧ rest.foldlM mount ⟨before.map Mount.ofKey⟩ = .error e := by
  induction rest generalizing before with
  | nil =>
    refine .inl ⟨by simpa using mounted, ?_⟩
    rw [List.append_nil]
    rfl
  | cons key rest ih =>
    rw [List.foldlM_cons]
    rcases mount_cases distinct mounted with ⟨mountable, mounts⟩ | ⟨e, refused, fails⟩
    · rw [← List.singleton_append, ← List.append_assoc] at distinct ⊢
      rw [mounts]
      exact ih distinct mountable
    · refine .inr ⟨before, key, rest, e, rfl, mounted, refused, ?_⟩
      rw [fails]
      rfl

theorem ofKeys_cases {keys : List Key} (distinct : Distinct keys) :
    (Mountable keys ∧ ofKeys keys = .ok ⟨keys.map Mount.ofKey⟩) ∨
    ∃ front key after e, keys = front ++ key :: after ∧ Mountable front ∧
      Refused front key e ∧ ofKeys keys = .error e := by
  have nothing : Mountable [] := ⟨fun _ mem => (by cases mem), .nil⟩
  exact foldlM_mount (List.nil_append keys ▸ distinct) nothing

end Router

end Http

namespace Service

open Http (Mount Mountable Refused)

/-- The routes of a valid configuration have keys. They are mounted exactly if their methods
are supported and no two of them have a capture and a catch-all in one place. Otherwise the
first route that does not fit after those before it is refused; no route is ever refused
for its key, as a duplicate, or for the spelling of its captures. -/
theorem routerOf_of_isValid (c : Config) (h : c.isValid) :
    ∃ keys, c.routeKeys = .ok keys ∧
      ((∃ router, routerOf c = .ok router) ↔ Mountable keys) ∧
      (Mountable keys → routerOf c = .ok ⟨keys.map Mount.ofKey⟩) ∧
      (¬Mountable keys → ∃ front key after e, keys = front ++ key :: after ∧ Mountable front ∧
        Refused front key e ∧ routerOf c = .error (.unmountable e)) := by
  obtain ⟨keys, named, distinct⟩ := Config.distinct_of_isValid h
  refine ⟨keys, named, ?_⟩
  simp only [routerOf, named]
  rcases Http.Router.ofKeys_cases distinct with
    ⟨mountable, mounts⟩ | ⟨front, key, after, e, cut, before, refused, fails⟩
  · rw [mounts]
    exact ⟨⟨fun _ => mountable, fun _ => ⟨_, rfl⟩⟩, fun _ => rfl,
      fun unmountable => absurd mountable unmountable⟩
  · have unmountable : ¬Mountable keys := cut ▸ refused.not_mountable
    rw [fails]
    refine ⟨⟨?_, fun mountable => absurd mountable unmountable⟩,
      fun mountable => absurd mountable unmountable,
      fun _ => ⟨front, key, after, e, cut, before, refused, rfl⟩⟩
    rintro ⟨router, mounts⟩
    cases mounts

theorem routerOf_default :
    Config.default.isValid ∧ ∃ router, routerOf Config.default = .ok router := by
  have valid : Config.default.isValid := by decide +kernel
  obtain ⟨keys, named, mounts, -⟩ := routerOf_of_isValid Config.default valid
  have keysOf : Config.default.routeKeys = .ok [⟨"GET /"⟩, ⟨"GET /ping"⟩, ⟨"GET /users/me"⟩] :=
    Config.routeKeys_ok (by decide +kernel)
  obtain rfl := Except.ok.inj (named.symm.trans keysOf)
  exact ⟨valid, mounts.mpr ⟨by decide +kernel, by decide +kernel⟩⟩

def brewing : Config :=
  { Config.default with routes := [⟨"BREW", "/pot"⟩] }

theorem brewing_valid_unmountable :
    brewing.isValid ∧
      routerOf brewing = .error (.unmountable (.unsupportedMethod ⟨"BREW /pot"⟩)) := by
  have keysOf : brewing.routeKeys = .ok [⟨"BREW /pot"⟩] := Config.routeKeys_ok (by decide +kernel)
  refine ⟨by decide +kernel, ?_⟩
  simp only [routerOf, keysOf]
  rfl

def overlapping : Config :=
  { Config.default with routes := [⟨"GET", "/a/\x7b*rest\x7d"⟩, ⟨"GET", "/a/\x7bid\x7d"⟩] }

theorem overlapping_valid_unmountable :
    overlapping.isValid ∧
      routerOf overlapping = .error (.unmountable (.collision ⟨"GET /a/\x7bid\x7d"⟩)) := by
  have keysOf : overlapping.routeKeys =
      .ok [⟨"GET /a/\x7b*rest\x7d"⟩, ⟨"GET /a/\x7bid\x7d"⟩] :=
    Config.routeKeys_ok (by decide +kernel)
  refine ⟨by decide +kernel, ?_⟩
  simp only [routerOf, keysOf]
  rfl

end Service

end Tollgate
