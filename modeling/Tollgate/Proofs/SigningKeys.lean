import Tollgate.Proofs.Mounting
import Tollgate.Proofs.Newest

/-!
# Signing keys

A refresh takes the signing keys from the newest row about them: the pieces between
commas, without the blanks around each, and blank pieces are left out. Without such a row,
or if it has no such piece, the configured keys are published. A valid configuration names
a key that is not blank, so at any time of any run a key is published that is not blank.
-/

namespace Tollgate

-- ---------------------------------------------------------------------------
-- Pieces of a text

namespace Text

def visiblePieces (s : String) : List String :=
  ((s.toList.splitOn ',').filter fun piece => !piece.all isBlank).map
    fun piece => String.ofList (trimBoth piece)

theorem commaItems_eq_visiblePieces (s : String) : commaItems s = visiblePieces s := by
  have kept : ∀ piece : List Char,
      decide (String.ofList (trimBoth piece) ≠ "") = !piece.all isBlank := by
    intro piece
    cases blank : piece.all isBlank with
    | true => simp [trimBoth_eq_nil_iff.mpr blank]
    | false =>
      have visible : trimBoth piece ≠ [] := by simp [trimBoth_eq_nil_iff, blank]
      simp [visible]
  unfold commaItems visiblePieces piecesOf
  rw [pieces_eq_splitOnP, List.splitOn_eq_splitOnP, List.map_map, List.filter_map]
  simp only [Function.comp_def, trim, String.toList_ofList, kept]

theorem not_isBlankText_of_mem_visiblePieces {s k : String} (h : k ∈ visiblePieces s) :
    ¬isBlankText k := by
  unfold visiblePieces at h
  obtain ⟨piece, mem, rfl⟩ := List.mem_map.mp h
  obtain ⟨-, visible⟩ := List.mem_filter.mp mem
  simpa [isBlankText, all_isBlank_trimBoth] using visible

end Text

-- ---------------------------------------------------------------------------
-- What rows ask for

namespace Control

open Policy

/-- A row of signing keys is about all keys at once. -/
def keysAssign? (data : String) : Option (Unit × List String) :=
  some ((), Text.visiblePieces data)

inductive KeysAsked (defaults : List String) (fetched : List Row) : List String → Bool → Prop
  | named (keys : List String) (newest : Decided keysAssign? .signedKey fetched () (some keys))
      (notEmpty : keys ≠ []) : KeysAsked defaults fetched keys false
  | unnamed (nothing : ∀ keys, Decided keysAssign? .signedKey fetched () (some keys) → keys = []) :
      KeysAsked defaults fetched defaults true

theorem KeysAsked.exists_visible {defaults : List String} {fetched : List Row}
    {keys : List String} {isDefault : Bool} (h : KeysAsked defaults fetched keys isDefault)
    (visible : ∃ k ∈ defaults, ¬Text.isBlankText k) : ∃ k ∈ keys, ¬Text.isBlankText k := by
  cases h with
  | unnamed _ => exact visible
  | named _ newest notEmpty =>
    cases newest with
    | newest _ _ r _ _ tells _ _ =>
      obtain ⟨-, said⟩ := tells
      obtain rfl : Text.visiblePieces r.data = keys := congrArg Prod.snd (Option.some.inj said)
      obtain ⟨k, mem⟩ := List.exists_mem_of_ne_nil _ notEmpty
      exact ⟨k, mem, Text.not_isBlankText_of_mem_visiblePieces mem⟩

theorem lookup_keysAssign (fetched : List Row) :
    (entriesIn keysAssign? fetched .signedKey).lookup () = (contentOf fetched).keys := by
  unfold entriesIn contentOf keysOf? SigningKeys.ofData keysAssign?
  cases rowsIn fetched .signedKey with
  | nil => simp
  | cons r rest => simp [Text.commaItems_eq_visiblePieces]

theorem keysAsked_apply (s : SigningKeys) (fetched : List Row) :
    KeysAsked s.defaults fetched (s.apply (contentOf fetched).keys).current
      (SigningKeys.isDefault (contentOf fetched).keys) := by
  have decided := decided_lookup keysAssign? .signedKey fetched ()
  rw [lookup_keysAssign] at decided
  cases asked : (contentOf fetched).keys with
  | none =>
    refine .unnamed fun keys newest => ?_
    have same := newest.unique decided
    simp [asked] at same
  | some keys =>
    cases keys with
    | nil =>
      refine .unnamed fun keys newest => ?_
      have same := newest.unique decided
      simpa [asked] using same
    | cons k ks =>
      rw [asked] at decided
      exact .named _ decided (List.cons_ne_nil k ks)

theorem keysAsked_endCycle (c : Control) (now : Nat) (rows : List Row) :
    ∃ report, (c.endCycle now (.ok rows)).1 = .ok report ∧
      (c.endCycle now (.ok rows)).2.lastReport = some report ∧
      KeysAsked c.plane.signingKeys.defaults rows
        (c.endCycle now (.ok rows)).2.plane.signingKeys.current report.defaultSigningKeys := by
  obtain ⟨answer, plane, told⟩ := c.endCycle_ok now rows
  refine ⟨_, answer, told, ?_⟩
  rw [plane, Plane.publish_putOn, Plane.publish_reportOn]
  exact keysAsked_apply c.plane.signingKeys rows

end Control

-- ---------------------------------------------------------------------------
-- Valid configurations

namespace Config

theorem exists_visible_key {c : Config} (valid : c.isValid) :
    ∃ k ∈ c.signing.defaultKeys, ¬Text.isBlankText k := by
  have none : violations c = [] := List.isEmpty_iff.mp valid
  simp only [violations, List.append_eq_nil_iff] at none
  obtain ⟨⟨⟨⟨-, keys⟩, -⟩, -⟩, -⟩ := none
  by_contra blank
  push Not at blank
  simp [List.all_eq_true.mpr blank] at keys

theorem controlOf_of_isValid {c : Config} (valid : c.isValid) :
    ∃ keys, Service.controlOf c =
      .ok (.ofPlane (.ofRoutes keys c.signing.defaultKeys)
        (.ofCapacity c.governance.alarmGroup c.governance.alarmHistory)) := by
  obtain ⟨keys, named, -⟩ := distinct_of_isValid valid
  exact ⟨keys, by simp [Service.controlOf, named]⟩

end Config

-- ---------------------------------------------------------------------------
-- Runs

namespace Traffic

open Control Policy
open Store (StoreError)

structure KeysCurrent (defaults : List String) (t : Traffic) : Prop where
  fallback : t.plane.signingKeys.defaults = defaults
  unasked : t.fetched = [] → t.plane.signingKeys.current = defaults
  asked : ∀ rows earlier, t.fetched = rows :: earlier →
    ∃ isDefault, KeysAsked defaults rows t.plane.signingKeys.current isDefault

variable {t : Traffic} {defaults : List String}

theorem KeysCurrent.congr {u : Traffic} (h : t.KeysCurrent defaults)
    (keys : u.plane.signingKeys = t.plane.signingKeys) (fetched : u.fetched = t.fetched) :
    u.KeysCurrent defaults := by
  constructor
  · rw [keys, h.fallback]
  · rw [keys, fetched]
    exact h.unasked
  · rw [keys, fetched]
    exact h.asked

theorem KeysCurrent.endCycle (h : t.KeysCurrent defaults)
    (fetched : Except StoreError (List Row)) : (t.endCycle fetched).KeysCurrent defaults := by
  cases fetched with
  | error e => exact h.congr rfl rfl
  | ok rows =>
    have keys : (t.endCycle (.ok rows)).plane.signingKeys =
        t.plane.signingKeys.apply (contentOf rows).keys := by
      simp only [plane_endCycle, Plane.publish_putOn]
      rfl
    have asked := keysAsked_apply t.plane.signingKeys rows
    rw [h.fallback] at asked
    constructor
    · rw [keys, Plane.defaults_apply, h.fallback]
    · intro unasked
      cases unasked
    · intro rows' earlier last
      obtain ⟨rfl, -⟩ := List.cons_eq_cons.mp last
      exact ⟨_, keys ▸ asked⟩

theorem KeysCurrent.step (h : t.KeysCurrent defaults) (e : Event) :
    (t.step e).KeysCurrent defaults := by
  by_cases fetches : ∃ fetched, e = .endCycle fetched
  · obtain ⟨fetched, rfl⟩ := fetches
    simp only [Traffic.step]
    split
    next _ => exact h.endCycle fetched
    next _ => exact h
  · have unfetched : ∀ fetched, e ≠ .endCycle fetched := fun fetched same =>
      fetches ⟨fetched, same⟩
    have moved := t.step_moved e
    obtain ⟨gates, limits, plane⟩ := moved.plane_eq unfetched
    exact h.congr (by rw [plane]) (moved.fetched_eq unfetched)

theorem KeysCurrent.run (h : t.KeysCurrent defaults) (es : List Event) :
    (t.run es).KeysCurrent defaults := by
  induction es generalizing t with
  | nil => exact h
  | cons e es ih => exact ih (h.step e)

structure KeysKept (defaults : List String) (t : Traffic) : Prop where
  visible : ∃ k ∈ t.plane.signingKeys.current, ¬Text.isBlankText k
  unasked : t.fetched = [] → t.plane.signingKeys.current = defaults
  asked : ∀ rows earlier, t.fetched = rows :: earlier →
    ∃ isDefault, KeysAsked defaults rows t.plane.signingKeys.current isDefault
  /-- The cycle that ends next, if it fetches rows, reports on the keys they ask for. -/
  refreshed : ∀ now rows, ∃ report, (t.service.control.endCycle now (.ok rows)).1 = .ok report ∧
    (t.service.control.endCycle now (.ok rows)).2.lastReport = some report ∧
    KeysAsked defaults rows
      (t.service.control.endCycle now (.ok rows)).2.plane.signingKeys.current
      report.defaultSigningKeys
  /-- If it does not, the keys stay. -/
  failed : ∀ now e,
    (t.service.control.endCycle now (.error e)).2.plane.signingKeys = t.plane.signingKeys

theorem KeysCurrent.kept (h : t.KeysCurrent defaults)
    (visible : ∃ k ∈ defaults, ¬Text.isBlankText k) : t.KeysKept defaults := by
  constructor
  · cases fetched : t.fetched with
    | nil => rwa [h.unasked fetched]
    | cons rows earlier =>
      obtain ⟨_, asked⟩ := h.asked rows earlier fetched
      exact asked.exists_visible visible
  · exact h.unasked
  · exact h.asked
  · intro now rows
    rw [← h.fallback]
    exact keysAsked_endCycle t.service.control now rows
  · intro now e
    rw [endCycle_plane]
    rfl

/-- A service of a valid configuration starts, and after every run of it, whatever is
fetched, fails or is changed directly: a signing key is published that is not blank; before
a fetch is published these are the configured keys, and after it those that its rows ask
for, where the report tells whether they are the configured ones. -/
theorem keys_kept_run (c : Config) (valid : c.isValid) :
    ∃ control, Service.controlOf c = .ok control ∧
      ∀ (s : Service) (es : List Event),
        (run ⟨{ s with control := control }, [], [], []⟩ es).KeysKept c.signing.defaultKeys := by
  obtain ⟨keys, started⟩ := Config.controlOf_of_isValid valid
  refine ⟨_, started, fun s es => ?_⟩
  have current : KeysCurrent c.signing.defaultKeys
      (start s keys c.signing.defaultKeys
        (.ofCapacity c.governance.alarmGroup c.governance.alarmHistory)) := by
    constructor
    · rfl
    · intro _
      rfl
    · intro _ _ fetched
      cases fetched
  exact (current.run es).kept (Config.exists_visible_key valid)

def keysRow (data : String) : Row :=
  ⟨"keys", .signedKey, .enabled, data, ⟨0, 0⟩, ⟨9, 0⟩, ⟨0, 0⟩⟩

/-- Two keys between blanks are published, stay when the store fails, and give way to the
configured key when the row is emptied. -/
theorem keys_kept_run_emptied :
    Config.default.isValid ∧
    ∃ control, Service.controlOf .default = .ok control ∧
      let failing := run ⟨{ quiet with control := control }, [], [], []⟩
        [.beginCycle, .endCycle (.ok [keysRow " k1 ,, k2"]),
         .beginCycle, .endCycle (.error (.unavailable "down"))]
      let emptied := failing.run [.beginCycle, .endCycle (.ok [keysRow " , "])]
      failing.plane.signingKeys.current = ["k1", "k2"] ∧
      failing.KeysKept ["default-signing-key"] ∧
      emptied.plane.signingKeys.current = ["default-signing-key"] ∧
      emptied.KeysKept ["default-signing-key"] := by
  have valid : Config.default.isValid := by decide +kernel
  obtain ⟨control, started, kept⟩ := keys_kept_run .default valid
  refine ⟨valid, control, started, ?_⟩
  obtain rfl : _ = control := Except.ok.inj started
  intro failing emptied
  refine ⟨?_, kept quiet _, ?_, ?_⟩
  · decide +kernel
  · decide +kernel
  · have run := kept quiet
      [.beginCycle, .endCycle (.ok [keysRow " k1 ,, k2"]), .beginCycle,
       .endCycle (.error (.unavailable "down")), .beginCycle, .endCycle (.ok [keysRow " , "])]
    exact run

end Traffic

end Tollgate
