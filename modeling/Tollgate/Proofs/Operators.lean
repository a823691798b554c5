import Tollgate.Proofs.Keys
import Tollgate.Proofs.Rejected
import Tollgate.Proofs.Traffic

/-!
# Who operates a service

A request bears a token if its first authorization header is readable and says `Bearer`,
with blanks around the token or none. Under a valid configuration the operators' API lets
a request in exactly if it bears the configured key; all others are turned away and change
nothing. A key with blanks at an end is valid, but a token has none there, so such a key
lets nobody in. Nor does a key that no readable header can say.
-/

namespace Tollgate

-- ---------------------------------------------------------------------------
-- Texts

namespace Text

theorem afterStart?_eq_some_iff {start cs rest : List Char} :
    afterStart? start cs = some rest ↔ cs = start ++ rest := by
  induction start generalizing cs with
  | nil => simp [afterStart?]
  | cons s start ih =>
    cases cs with
    | nil => simp [afterStart?]
    | cons c cs =>
      by_cases same : s = c
      · simp [afterStart?, same, ih]
      · simp [afterStart?, same, Ne.symm same]

end Text

-- ---------------------------------------------------------------------------
-- Tokens

namespace Admin

open Http (Headers Request Response)
open Text (Blanks)

/-- The first authorization header of a request gives the token. -/
inductive Bears (r : Request) (token : String) : Prop
  | intro (value : String) (left right : List Char)
      (first : r.headers.get? "authorization" = some value) (readable : Headers.isReadable value)
      (text : value.toList = "Bearer ".toList ++ (left ++ token.toList ++ right))
      (blankLeft : Blanks left) (blankRight : Blanks right) (trimmed : Text.trim token = token)

inductive Unauthorized (apiKey : String) (r : Request) : Prop
  | absent (none : r.headers.get? "authorization" = none)
  | unreadable (value : String) (first : r.headers.get? "authorization" = some value)
      (unreadable : ¬Headers.isReadable value)
  | otherScheme (value : String) (first : r.headers.get? "authorization" = some value)
      (other : ¬"Bearer ".toList <+: value.toList)
  | otherToken (token : String) (bears : Bears r token) (other : token ≠ apiKey)

variable {r : Request} {token apiKey : String}

theorem bearerToken_eq_some_iff_exists : bearerToken r = some token ↔
    ∃ value rest, r.headers.get? "authorization" = some value ∧ Headers.isReadable value ∧
      value.toList = "Bearer ".toList ++ rest ∧ String.ofList (Text.trimBoth rest) = token := by
  unfold bearerToken Headers.readable?
  constructor
  · intro found
    obtain ⟨value, read, found⟩ := Option.bind_eq_some_iff.mp found
    obtain ⟨rest, said, found⟩ := Option.bind_eq_some_iff.mp found
    obtain ⟨first, readable⟩ := Option.filter_eq_some_iff.mp read
    exact ⟨value, rest, first, readable, Text.afterStart?_eq_some_iff.mp said,
      Option.some.inj found⟩
  · rintro ⟨value, rest, first, readable, text, rfl⟩
    have read : (r.headers.get? "authorization").filter Headers.isReadable = some value :=
      Option.filter_eq_some_iff.mpr ⟨first, readable⟩
    exact Option.bind_eq_some_iff.mpr ⟨value, read, Option.bind_eq_some_iff.mpr
      ⟨rest, Text.afterStart?_eq_some_iff.mpr text, rfl⟩⟩

theorem bearerToken_eq_some_iff : bearerToken r = some token ↔ Bears r token := by
  rw [bearerToken_eq_some_iff_exists]
  constructor
  · rintro ⟨value, rest, first, readable, text, rfl⟩
    obtain ⟨left, right, around, blankLeft, blankRight⟩ := Text.exists_trimBoth rest
    have token : (String.ofList (Text.trimBoth rest)).toList = Text.trimBoth rest :=
      String.toList_ofList
    refine .intro value left right first readable ?_ blankLeft blankRight ?_
    · rw [text, token, ← around]
    · rw [Text.trim, token, Text.trimBoth_trimBoth]
  · rintro ⟨value, left, right, first, readable, text, blankLeft, blankRight, trimmed⟩
    refine ⟨value, _, first, readable, text, ?_⟩
    rw [Text.trimBoth_append blankLeft blankRight, ← Text.trim, trimmed]

theorem Bears.unique {other : String} (h : Bears r token) (h' : Bears r other) :
    token = other := by
  have same := (bearerToken_eq_some_iff.mpr h).symm.trans (bearerToken_eq_some_iff.mpr h')
  exact Option.some.inj same

theorem bears_iff_not_unauthorized : Bears r apiKey ↔ ¬Unauthorized apiKey r := by
  constructor
  · rintro bears (none | ⟨value, first, unreadable⟩ | ⟨value, first, other⟩ | ⟨token, bears', other⟩)
    · obtain ⟨_, _, _, first', _, _, _, _, _⟩ := bears
      simp [none] at first'
    · obtain ⟨value', _, _, first', readable, _, _, _, _⟩ := bears
      obtain rfl : value = value' := Option.some.inj (first.symm.trans first')
      exact unreadable readable
    · obtain ⟨value', _, _, first', _, text, _, _, _⟩ := bears
      obtain rfl : value = value' := Option.some.inj (first.symm.trans first')
      exact other ⟨_, text.symm⟩
    · exact other (bears'.unique bears)
  · intro authorized
    cases first : r.headers.get? "authorization" with
    | none => exact absurd (.absent first) authorized
    | some value =>
      by_cases readable : Headers.isReadable value
      · by_cases scheme : "Bearer ".toList <+: value.toList
        · obtain ⟨rest, text⟩ := scheme
          have bears : Bears r (String.ofList (Text.trimBoth rest)) :=
            bearerToken_eq_some_iff.mp (bearerToken_eq_some_iff_exists.mpr
              ⟨value, rest, first, readable, text.symm, rfl⟩)
          by_contra other
          refine authorized (.otherToken _ bears ?_)
          rintro rfl
          exact other bears
        · exact absurd (.otherScheme value first scheme) authorized
      · exact absurd (.unreadable value first readable) authorized

theorem isAuthorized_iff (nonempty : apiKey ≠ "") : isAuthorized apiKey r ↔ Bears r apiKey := by
  simp [isAuthorized, nonempty, bearerToken_eq_some_iff]

/-- A header of `Bearer`, one blank and the key bears the key exactly if the key has no
blanks at its ends and is readable. -/
theorem bears_iff_of_header (said : r.headers.get? "authorization" = some ("Bearer " ++ apiKey)) :
    Bears r apiKey ↔ Text.trim apiKey = apiKey ∧ Headers.isReadable apiKey := by
  have readable_iff : Headers.isReadable ("Bearer " ++ apiKey) ↔ Headers.isReadable apiKey := by
    unfold Headers.isReadable
    simp [String.toList_append]
  constructor
  · rintro ⟨value, _, _, first, readable, _, _, _, trimmed⟩
    obtain rfl : "Bearer " ++ apiKey = value := Option.some.inj (said.symm.trans first)
    exact ⟨trimmed, readable_iff.mp readable⟩
  · rintro ⟨trimmed, readable⟩
    refine .intro _ [] [] said (readable_iff.mpr readable) ?_ ?_ ?_ trimmed
    · simp
    · simp [Blanks]
    · simp [Blanks]

end Admin

-- ---------------------------------------------------------------------------
-- Services

theorem Config.apiKey_ne_empty {c : Config} (valid : c.isValid) (enabled : c.admin.enabled) :
    c.admin.apiKey ≠ "" := by
  have none : violations c = [] := List.isEmpty_iff.mp valid
  simp only [violations, List.append_eq_nil_iff, enabled, if_true] at none
  obtain ⟨⟨⟨-, key, -⟩, -⟩, -⟩ := none
  intro empty
  simp [empty, Text.isBlankText] at key

namespace Service

open Admin (Bears Endpoint Unauthorized View)
open Http (Headers Request Response)

def adminSettings (s : Service) : Admin.Settings :=
  ⟨s.config.admin.apiKey, s.config.refresh.intervalSecs, s.surroundings.version,
    s.surroundings.stamp⟩

theorem settle_of_idle {s : Service} (jobs : s.jobs = []) (loops : s.loops = []) :
    s.settle = s := by
  simp [settle, actors, jobs, loops]

structure LetIn (s : Service) (r : Request) : Prop where
  view : ∀ v : View, Endpoint.ofPath? r.uri.path = some (.view v) →
    r.method = "GET" ∨ r.method = "HEAD" →
    s.adminRequest r =
      (some ((Response.json 200 (v.body s.adminSettings s.control)).answering r.method), s.advance 0)
  refresh : Endpoint.ofPath? r.uri.path = some .refresh → r.method = "POST" →
    s.adminRequest r = (s.refresh.1.map (Admin.refreshResponse s.adminSettings), s.refresh.2)

/-- A request is turned away whatever it asks for: time goes on as without it, and if there
is nothing in the background, then nothing changes. -/
structure TurnedAway (s : Service) (r : Request) : Prop where
  answer : s.adminRequest r = (some (.bare 401), s.advance 0)
  unchanged : s.jobs = [] → s.loops = [] → (s.adminRequest r).2 = s

variable {s : Service} {r : Request}

theorem letIn_of_bears (nonempty : s.config.admin.apiKey ≠ "")
    (bears : Bears r s.config.admin.apiKey) : s.LetIn r := by
  have authorized : Admin.isAuthorized s.config.admin.apiKey r :=
    (Admin.isAuthorized_iff nonempty).mpr bears
  constructor
  · intro v path method
    simp only [adminRequest, Admin.reply, authorized, path, if_pos method, Bool.not_true,
      Bool.false_eq_true, if_false]
    rfl
  · intro path method
    simp only [adminRequest, Admin.reply, authorized, path, if_pos method, Bool.not_true,
      Bool.false_eq_true, if_false, refresh]
    split
    next _ => rfl
    next _ => rfl

theorem turnedAway_of_not_bears (nonempty : s.config.admin.apiKey ≠ "")
    (refused : ¬Bears r s.config.admin.apiKey) : s.TurnedAway r := by
  have unauthorized : Admin.isAuthorized s.config.admin.apiKey r = false := by
    rw [Bool.eq_false_iff, ne_eq, Admin.isAuthorized_iff nonempty]
    exact refused
  have answer : s.adminRequest r = (some (.bare 401), s.advance 0) := by
    simp only [adminRequest, Admin.reply, unauthorized, Bool.not_false, if_true]
    rfl
  refine ⟨answer, fun jobs loops => ?_⟩
  rw [answer]
  exact settle_of_idle jobs loops

/-- Under a valid configuration with an operators' API, a request that bears the configured
key reaches its endpoint, and any other is turned away: one without a readable header, of
another scheme, or with another token. A header of the key behind `Bearer` and one blank
bears it exactly if the key has no blanks at its ends and is readable. -/
theorem operators_let_in (valid : s.config.isValid) (enabled : s.config.admin.enabled)
    (r : Request) :
    let apiKey := s.config.admin.apiKey
    (Bears r apiKey → s.LetIn r) ∧ (Unauthorized apiKey r → s.TurnedAway r) ∧
    (Bears r apiKey ↔ ¬Unauthorized apiKey r) ∧
    (r.headers.get? "authorization" = some ("Bearer " ++ apiKey) →
      (Bears r apiKey ↔ Text.trim apiKey = apiKey ∧ Headers.isReadable apiKey)) := by
  have nonempty := Config.apiKey_ne_empty valid enabled
  refine ⟨letIn_of_bears nonempty, fun unauthorized => ?_, Admin.bears_iff_not_unauthorized,
    Admin.bears_iff_of_header⟩
  refine turnedAway_of_not_bears nonempty fun bears => ?_
  exact Admin.bears_iff_not_unauthorized.mp bears unauthorized

def guarded (apiKey : String) : Service :=
  { Traffic.quiet with
    config := { Config.default with admin := ⟨true, apiKey, "127.0.0.1:8081"⟩ } }

def lookWith (authorization : String) : Request :=
  ⟨"GET", ⟨none, "", "/admin/blocked-ips", none⟩, [("authorization", authorization)], none⟩

theorem operators_let_in_plain :
    (guarded "secret").config.isValid ∧
      ((guarded "secret").adminRequest (lookWith "Bearer secret")).1 =
        some (.json 200 (.list [])) ∧
      (guarded "secret").TurnedAway (lookWith "Bearer secrets") := by
  have valid : (guarded "secret").config.isValid := by decide +kernel
  obtain ⟨letIn, -, -, bears_iff⟩ := operators_let_in valid rfl (lookWith "Bearer secret")
  obtain ⟨-, turnedAway, -⟩ := operators_let_in valid rfl (lookWith "Bearer secrets")
  have bears : Bears (lookWith "Bearer secret") "secret" :=
    (bears_iff rfl).mpr ⟨by decide +kernel, by decide +kernel⟩
  have other : Bears (lookWith "Bearer secrets") "secrets" :=
    (Admin.bears_iff_of_header rfl).mpr ⟨by decide +kernel, by decide +kernel⟩
  have view := (letIn bears).view .blockedIps rfl (.inl rfl)
  refine ⟨valid, by rw [view]; rfl, turnedAway (.otherToken _ other (by decide))⟩

/-- A key with a blank in front is valid, and the header that says it is turned away. -/
theorem padded_key_lets_nobody_in :
    let s := guarded " secret"
    let r := lookWith "Bearer  secret"
    s.config.isValid ∧ s.config.admin.enabled ∧
      r.headers.get? "authorization" = some ("Bearer " ++ s.config.admin.apiKey) ∧
      (s.adminRequest r).1 = some (.bare 401) := by
  decide +kernel

end Service

end Tollgate
