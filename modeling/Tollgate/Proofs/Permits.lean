import Mathlib.Data.List.Infix
import Tollgate.Proofs.Limits

/-!
# Permits that are out

Permits are taken and given back, and tables of limits are published, in any order. As
long as a count has room for the permits of its name, a name counts the permits that
were taken for it while a table governed it and that were not given back yet, whatever
tables came in between. So a limit that stays is never passed, and a name that no table
governs has no count. Only the highest limit there is can leave a count without room.
-/

namespace Tollgate.Policy

-- ---------------------------------------------------------------------------
-- What acquiring does

namespace RequestLimits

inductive Acquired (l : RequestLimits) (name : String) :
    Except OverLimit Permit × RequestLimits → Prop
  | ungoverned (free : governs l.limits name = false) : Acquired l name (.ok ⟨none⟩, l)
  | granted (max : Nat) (limit : l.limit? name = some max) (governed : 0 < max)
      (within : (l.count name + 1) % countBound ≤ max) :
      Acquired l name (.ok ⟨some name⟩, l.setCount name ((l.count name + 1) % countBound))
  | refused (max : Nat) (limit : l.limit? name = some max) (governed : 0 < max)
      (above : max < (l.count name + 1) % countBound) :
      Acquired l name
        (.error ⟨name, (l.count name + 1) % countBound, max⟩, l.setCount name (l.count name))

theorem governs_eq_true_iff {l : RequestLimits} {name : String} :
    governs l.limits name = true ↔ ∃ max, l.limit? name = some max ∧ 0 < max := by
  simp only [governs, limit?]
  split
  next max found => simp [found]
  next found => simp [found]

theorem acquire_acquired (l : RequestLimits) (name : String) : Acquired l name (l.acquire name) := by
  simp only [acquire]
  split
  next missing => exact .ungoverned (by simp only [limit?] at missing; simp [governs, missing])
  next zero => exact .ungoverned (by simp only [limit?] at zero; simp [governs, zero])
  next max positive limit =>
    have governed : 0 < max := Nat.pos_of_ne_zero positive
    split
    next above => exact .refused max limit governed above
    next within => exact .granted max limit governed (Nat.le_of_not_lt within)

theorem lookup_setCount (l : RequestLimits) (name : String) (n : Nat) (other : String) :
    (l.setCount name n).inFlight.lookup other =
      if other = name then some n else l.inFlight.lookup other :=
  lookup_putSorted _ name other n l.inFlight

theorem lookup_of_count_pos {l : RequestLimits} {name : String} (h : 0 < l.count name) :
    l.inFlight.lookup name = some (l.count name) := by
  cases found : l.inFlight.lookup name with
  | none => simp [count, found] at h
  | some n => simp [count, found]

theorem lookup_replace_of_none {l : RequestLimits} {name : String}
    (missing : l.inFlight.lookup name = none) (limits : List RequestLimit) :
    (l.replace limits).inFlight.lookup name = none := by
  rw [List.lookup_eq_none_iff] at missing ⊢
  exact fun entry mem => missing entry (List.mem_filter.mp mem).1

theorem count_setCount_self (l : RequestLimits) (name other : String) :
    (l.setCount name (l.count name)).count other = l.count other := by
  rw [count_setCount]
  split
  next its => rw [its]
  next _ => rfl

theorem acquire_of_free {l : RequestLimits} {name : String} (free : governs l.limits name = false) :
    l.acquire name = (.ok ⟨none⟩, l) := by
  have acquired := l.acquire_acquired name
  generalize l.acquire name = result at acquired
  cases acquired with
  | ungoverned _ => rfl
  | granted max limit governed _ =>
    rw [governs_eq_true_iff.mpr ⟨max, limit, governed⟩] at free
    cases free
  | refused max limit governed _ =>
    rw [governs_eq_true_iff.mpr ⟨max, limit, governed⟩] at free
    cases free

theorem acquire_refused_iff_above {l : RequestLimits} {name : String} {max : Nat}
    (limit : l.limit? name = some max) (governed : 0 < max) :
    (∃ refusal, (l.acquire name).1 = .error refusal) ↔ max < (l.count name + 1) % countBound := by
  have acquired := l.acquire_acquired name
  generalize l.acquire name = result at acquired
  cases acquired with
  | ungoverned free =>
    rw [governs_eq_true_iff.mpr ⟨max, limit, governed⟩] at free
    cases free
  | granted max' limit' _ within =>
    obtain rfl : max = max' := Option.some.inj (limit.symm.trans limit')
    exact ⟨fun ⟨_, error⟩ => (nomatch error), fun above => absurd within (Nat.not_le.mpr above)⟩
  | refused max' limit' _ above =>
    obtain rfl : max = max' := Option.some.inj (limit.symm.trans limit')
    exact ⟨fun _ => above, fun _ => ⟨_, rfl⟩⟩

theorem acquire_refused_iff {l : RequestLimits} {name : String} {max : Nat}
    (limit : l.limit? name = some max) (governed : 0 < max)
    (room : l.count name + 1 < countBound) :
    (∃ refusal, (l.acquire name).1 = .error refusal) ↔ max ≤ l.count name := by
  rw [acquire_refused_iff_above limit governed, Nat.mod_eq_of_lt room]
  exact Nat.lt_succ_iff

/-- A count without room wraps around to zero: whatever the limit, the permit is given. -/
theorem acquire_of_noRoom {l : RequestLimits} {name : String} (governed : governs l.limits name)
    (full : l.count name + 1 = countBound) :
    l.acquire name = (.ok ⟨some name⟩, l.setCount name 0) := by
  have acquired := l.acquire_acquired name
  generalize l.acquire name = result at acquired
  cases acquired with
  | ungoverned free => rw [governed] at free; cases free
  | granted max _ _ _ => rw [full, Nat.mod_self]
  | refused max _ _ above =>
    rw [full, Nat.mod_self] at above
    exact absurd above (Nat.not_lt_zero max)

theorem acquire_told {l : RequestLimits} {name : String} {refusal : OverLimit}
    (few : l.count name < countBound) (error : (l.acquire name).1 = .error refusal) :
    refusal.name = name ∧ refusal.current = l.count name + 1 ∧ l.limit? name = some refusal.max ∧
      ∀ other, (l.acquire name).2.count other = l.count other := by
  have acquired := l.acquire_acquired name
  generalize l.acquire name = result at acquired error
  cases acquired with
  | ungoverned _ => cases error
  | granted _ _ _ _ => cases error
  | refused max limit _ above =>
    obtain rfl := Except.error.inj error
    -- A count that wrapped around is above no limit.
    have unwrapped : l.count name + 1 ≠ countBound := fun full => by
      rw [full, Nat.mod_self] at above
      exact absurd above (Nat.not_lt_zero max)
    have room : l.count name + 1 < countBound := Nat.lt_of_le_of_ne few unwrapped
    exact ⟨rfl, Nat.mod_eq_of_lt room, limit, l.count_setCount_self name⟩

theorem uncounted {n : Nat} (positive : 0 < n) (few : n < countBound) :
    (n + (countBound - 1)) % countBound = n - 1 := by
  have wrapped : n + (countBound - 1) = n - 1 + countBound := by omega
  rw [wrapped, Nat.add_mod_right, Nat.mod_eq_of_lt (Nat.lt_of_le_of_lt (Nat.sub_le n 1) few)]

end RequestLimits

-- ---------------------------------------------------------------------------
-- Holders of permits

/-- A permit that is out: the name it was taken for, and whether the name was governed then. -/
structure Holding where
  name : String
  governed : Bool
  permit : Permit
  deriving DecidableEq, Repr

def Holding.isFor (name : String) (h : Holding) : Bool :=
  h.governed && h.name == name

theorem Holding.isFor_eq {h : Holding} (governed : h.governed = true) (name : String) :
    h.isFor name = decide (name = h.name) := by
  rw [Holding.isFor, governed, Bool.true_and, Bool.beq_eq_decide_eq]
  exact decide_eq_decide.mpr eq_comm

structure Outbound where
  limits : RequestLimits
  holdings : List Holding
  deriving DecidableEq, Repr

namespace Outbound

inductive Event where
  | replace (limits : List RequestLimit)
  | acquire (name : String)
  /-- Gives back the permit in a place of the list. -/
  | drop (place : Nat)
  deriving DecidableEq, Repr

def start : Outbound :=
  ⟨.empty, []⟩

def governs (o : Outbound) (name : String) : Bool :=
  RequestLimits.governs o.limits.limits name

def acquire (o : Outbound) (name : String) : Outbound :=
  match o.limits.acquire name with
  | (.ok permit, limits) => ⟨limits, o.holdings ++ [⟨name, o.governs name, permit⟩]⟩
  | (.error _, limits) => { o with limits := limits }

def drop (o : Outbound) (place : Nat) : Outbound :=
  match o.holdings[place]? with
  | some h => ⟨o.limits.release h.permit, o.holdings.eraseIdx place⟩
  | none => o

def step (o : Outbound) : Event → Outbound
  | .replace limits => { o with limits := o.limits.replace limits }
  | .acquire name => o.acquire name
  | .drop place => o.drop place

def run (o : Outbound) (es : List Event) : Outbound :=
  es.foldl step o

/-- How many permits are out that were taken for a name while it was governed. -/
def live (o : Outbound) (name : String) : Nat :=
  o.holdings.countP (Holding.isFor name)

theorem live_welcome (limits : RequestLimits) (holdings : List Holding) (h : Holding)
    (name : String) :
    live ⟨limits, holdings ++ [h]⟩ name =
      holdings.countP (Holding.isFor name) + if h.isFor name then 1 else 0 := by
  rw [live, List.countP_append, List.countP_singleton]

theorem live_drop {o : Outbound} {place : Nat} {h : Holding}
    (found : o.holdings[place]? = some h) (limits : RequestLimits) (name : String) :
    live ⟨limits, o.holdings.eraseIdx place⟩ name + (if h.isFor name then 1 else 0) =
      o.live name := by
  obtain ⟨inside, rfl⟩ := List.getElem?_eq_some_iff.mp found
  have parts : o.holdings.countP (Holding.isFor name) =
      (o.holdings.take place ++ o.holdings[place] :: o.holdings.drop (place + 1)).countP
        (Holding.isFor name) := by
    rw [← List.drop_eq_getElem_cons inside, List.take_append_drop]
  rw [live, live, parts, List.eraseIdx_eq_take_drop_succ, List.countP_append, List.countP_append,
    List.countP_cons]
  omega

-- ---------------------------------------------------------------------------
-- What an event can do

inductive Moved (o : Outbound) : Event → Outbound → Prop
  | replaced (limits : List RequestLimit) :
      Moved o (.replace limits) ⟨o.limits.replace limits, o.holdings⟩
  | ungoverned (name : String) (free : o.governs name = false) :
      Moved o (.acquire name) ⟨o.limits, o.holdings ++ [⟨name, false, ⟨none⟩⟩]⟩
  | granted (name : String) (max : Nat) (limit : o.limits.limit? name = some max)
      (governed : o.governs name = true)
      (within : (o.limits.count name + 1) % countBound ≤ max) :
      Moved o (.acquire name)
        ⟨o.limits.setCount name ((o.limits.count name + 1) % countBound),
          o.holdings ++ [⟨name, true, ⟨some name⟩⟩]⟩
  | refused (name : String) (governed : o.governs name = true) :
      Moved o (.acquire name) ⟨o.limits.setCount name (o.limits.count name), o.holdings⟩
  | dropped (place : Nat) (h : Holding) (found : o.holdings[place]? = some h) :
      Moved o (.drop place) ⟨o.limits.release h.permit, o.holdings.eraseIdx place⟩
  | idle (place : Nat) : Moved o (.drop place) o

theorem step_moved (o : Outbound) (e : Event) : o.Moved e (o.step e) := by
  cases e with
  | replace limits => exact .replaced limits
  | acquire name =>
    have acquired := o.limits.acquire_acquired name
    simp only [step, acquire]
    generalize o.limits.acquire name = result at acquired
    cases acquired with
    | ungoverned free =>
      have free' : o.governs name = false := free
      rw [free']
      exact .ungoverned name free
    | granted max limit positive within =>
      have governed : o.governs name = true :=
        RequestLimits.governs_eq_true_iff.mpr ⟨max, limit, positive⟩
      rw [governed]
      exact .granted name max limit governed within
    | refused max limit governed above =>
      exact .refused name (RequestLimits.governs_eq_true_iff.mpr ⟨max, limit, governed⟩)
  | drop place =>
    simp only [step, drop]
    split
    next h found => exact .dropped place h found
    next _ => exact .idle place

-- ---------------------------------------------------------------------------
-- Room

def HasRoom (o : Outbound) : Event → Prop
  | .acquire name => o.governs name → o.live name + 1 < countBound
  | _ => True

/-- At no moment of a run are there more permits out for a name than its count can tell. -/
def Roomy (o : Outbound) : List Event → Prop
  | [] => True
  | e :: es => o.HasRoom e ∧ (o.step e).Roomy es

theorem roomy_append {o : Outbound} {es fs : List Event} :
    o.Roomy (es ++ fs) ↔ o.Roomy es ∧ (o.run es).Roomy fs := by
  induction es generalizing o with
  | nil => simp [Roomy, run]
  | cons e es ih => simp only [List.cons_append, Roomy, ih, run, List.foldl_cons, and_assoc]

-- ---------------------------------------------------------------------------
-- Exact counts

/-- What carries through every run with room: each name counts the permits that are out for
it, and a permit counts for the name it was taken for, if that was governed. -/
structure Exact (o : Outbound) : Prop where
  sorted : o.limits.Sorted
  count : ∀ name, o.limits.count name = o.live name
  few : ∀ name, o.live name < countBound
  permit : ∀ h ∈ o.holdings, h.permit = ⟨if h.governed then some h.name else none⟩

theorem exact_start : start.Exact where
  sorted := RequestLimits.sorted_empty
  count _ := rfl
  few _ := Nat.two_pow_pos 32
  permit _ mem := by cases mem

variable {o u : Outbound} {e : Event}

theorem Exact.found (exact : o.Exact) {place : Nat} {h : Holding}
    (found : o.holdings[place]? = some h) (governed : h.governed) :
    0 < o.limits.count h.name := by
  rw [exact.count, live]
  exact List.countP_pos_iff.mpr ⟨h, List.mem_of_getElem? found, by simp [Holding.isFor, governed]⟩

theorem Exact.count_release (exact : o.Exact) {place : Nat} {h : Holding}
    (found : o.holdings[place]? = some h) (name : String) :
    (o.limits.release h.permit).count name + (if h.isFor name then 1 else 0) =
      o.limits.count name := by
  have counts := exact.permit h (List.mem_of_getElem? found)
  cases governed : h.governed with
  | false =>
    rw [governed] at counts
    simp [counts, RequestLimits.release, Holding.isFor, governed]
  | true =>
    have positive := exact.found found governed
    have few : o.limits.count h.name < countBound := (exact.count h.name).trans_lt (exact.few h.name)
    rw [governed, if_pos rfl] at counts
    simp only [counts, RequestLimits.release, RequestLimits.count_setCount,
      Holding.isFor_eq governed, decide_eq_true_eq, RequestLimits.uncounted positive few]
    split
    next its => rw [its, Nat.sub_add_cancel positive]
    next _ => rfl

theorem Exact.release (exact : o.Exact) {place : Nat} {h : Holding}
    (found : o.holdings[place]? = some h) :
    Exact ⟨o.limits.release h.permit, o.holdings.eraseIdx place⟩ := by
  have fewer := live_drop found (o.limits.release h.permit)
  refine ⟨exact.sorted.release h.permit, fun name => ?_, fun name => ?_, fun other mem => ?_⟩
  · have counted := exact.count_release found name
    rw [exact.count name, ← fewer name] at counted
    exact Nat.add_right_cancel counted
  · exact Nat.lt_of_le_of_lt (Nat.le.intro (fewer name)) (exact.few name)
  · exact exact.permit other (List.mem_of_mem_eraseIdx mem)

theorem Exact.granted (exact : o.Exact) {name : String} (room : o.live name + 1 < countBound) :
    Exact ⟨o.limits.setCount name ((o.limits.count name + 1) % countBound),
      o.holdings ++ [⟨name, true, ⟨some name⟩⟩]⟩ := by
  have counted : ∀ other, o.holdings.countP (Holding.isFor other) = o.live other := fun _ => rfl
  refine ⟨exact.sorted.setCount _ _, fun other => ?_, fun other => ?_, fun h mem => ?_⟩
  · rw [RequestLimits.count_setCount, live_welcome, exact.count, exact.count,
      Nat.mod_eq_of_lt room, counted]
    by_cases its : other = name
    · simp [its, Holding.isFor]
    · simp [its, Ne.symm its, Holding.isFor]
  · rw [live_welcome, counted]
    by_cases its : other = name
    · simpa [its, Holding.isFor] using room
    · simpa [Ne.symm its, Holding.isFor] using exact.few other
  · rcases List.mem_append.mp mem with old | new
    · exact exact.permit h old
    · rw [List.mem_singleton.mp new]
      rfl

theorem Exact.ungoverned (exact : o.Exact) (name : String) :
    Exact ⟨o.limits, o.holdings ++ [⟨name, false, ⟨none⟩⟩]⟩ := by
  have same : ∀ other, live ⟨o.limits, o.holdings ++ [⟨name, false, ⟨none⟩⟩]⟩ other = o.live other :=
    fun other => live_welcome o.limits o.holdings _ other
  refine ⟨exact.sorted, fun other => ?_, fun other => ?_, fun h mem => ?_⟩
  · rw [same]
    exact exact.count other
  · rw [same]
    exact exact.few other
  · rcases List.mem_append.mp mem with old | new
    · exact exact.permit h old
    · rw [List.mem_singleton.mp new]
      rfl

theorem Moved.exact (moved : o.Moved e u) (exact : o.Exact) (room : o.HasRoom e) : u.Exact := by
  cases moved with
  | replaced limits =>
    refine ⟨exact.sorted.replace limits, fun name => ?_, exact.few, exact.permit⟩
    exact (exact.sorted.count_replace limits name).trans (exact.count name)
  | ungoverned name _ => exact exact.ungoverned name
  | granted name _ _ governed _ => exact exact.granted (room governed)
  | refused name _ =>
    refine ⟨exact.sorted.setCount _ _, fun other => ?_, exact.few, exact.permit⟩
    exact (o.limits.count_setCount_self name other).trans (exact.count other)
  | dropped place h found => exact exact.release found
  | idle _ => exact exact

theorem Exact.run (exact : o.Exact) {es : List Event} (room : o.Roomy es) : (o.run es).Exact := by
  induction es generalizing o with
  | nil => exact exact
  | cons e es ih => exact ih ((o.step_moved e).exact exact room.1) room.2

-- ---------------------------------------------------------------------------
-- Limits that are not passed

structure Kept (o : Outbound) : Prop where
  /-- A name counts the permits that are out for it. -/
  exact : ∀ name, o.limits.count name = o.live name
  /-- A permit for a name that is not governed is always given, and it counts nothing. -/
  ungoverned : ∀ name, o.governs name = false →
    o.limits.acquire name = (.ok ⟨none⟩, o.limits)
  /-- One for a governed name is refused exactly if the limit is reached. -/
  refused : ∀ name max, o.limits.limit? name = some max → 0 < max →
    o.live name + 1 < countBound →
    ((∃ refusal, (o.limits.acquire name).1 = .error refusal) ↔ max ≤ o.limits.count name)
  /-- Who is refused is told one more than the count, and every count stays. -/
  told : ∀ name refusal, (o.limits.acquire name).1 = .error refusal →
    refusal.name = name ∧ refusal.current = o.limits.count name + 1 ∧
      o.limits.limit? name = some refusal.max ∧ (o.step (.acquire name)).holdings = o.holdings ∧
      ∀ other, (o.step (.acquire name)).limits.count other = o.limits.count other
  /-- Only a name that is governed gets a count, by a permit that is asked for it. -/
  appears : ∀ e name, o.limits.inFlight.lookup name = none →
    (o.step e).limits.inFlight.lookup name ≠ none → e = .acquire name ∧ o.governs name
  /-- After a new table the counts are those of governed names and those that are not zero. -/
  swept : ∀ limits, ∀ entry ∈ (o.step (.replace limits)).limits.inFlight,
    (o.step (.replace limits)).governs entry.1 ∨ 0 < entry.2

theorem Moved.appears (moved : o.Moved e u) (exact : o.Exact) {name : String}
    (missing : o.limits.inFlight.lookup name = none)
    (there : u.limits.inFlight.lookup name ≠ none) : e = .acquire name ∧ o.governs name := by
  cases moved with
  | replaced limits =>
    refine absurd ?_ there
    exact RequestLimits.lookup_replace_of_none missing limits
  | ungoverned _ _ => exact absurd missing there
  | granted taken _ _ governed _ =>
    rw [RequestLimits.lookup_setCount] at there
    split at there
    next its => exact ⟨its ▸ rfl, its ▸ governed⟩
    next _ => exact absurd missing there
  | refused taken governed =>
    rw [RequestLimits.lookup_setCount] at there
    split at there
    next its => exact ⟨its ▸ rfl, its ▸ governed⟩
    next _ => exact absurd missing there
  | dropped place h found =>
    have counts := exact.permit h (List.mem_of_getElem? found)
    cases governed : h.governed with
    | false =>
      rw [governed] at counts
      simp only [counts, RequestLimits.release] at there
      exact absurd missing there
    | true =>
      -- The count of a permit that is out is not missing, so it is another name's.
      have counted := RequestLimits.lookup_of_count_pos (exact.found found governed)
      rw [governed] at counts
      simp only [counts, RequestLimits.release, if_true, RequestLimits.lookup_setCount] at there
      split at there
      next its =>
        rw [its, counted] at missing
        cases missing
      next _ => exact absurd missing there
  | idle _ => exact absurd missing there

theorem Exact.kept (exact : o.Exact) : o.Kept where
  exact := exact.count
  ungoverned name free := RequestLimits.acquire_of_free free
  refused name max limit governed room :=
    RequestLimits.acquire_refused_iff limit governed (exact.count name ▸ room)
  told name refusal error := by
    have few : o.limits.count name < countBound := (exact.count name).trans_lt (exact.few name)
    obtain ⟨its, current, limit, counts⟩ := RequestLimits.acquire_told few error
    have after : o.step (.acquire name) = { o with limits := (o.limits.acquire name).2 } := by
      simp only [step, acquire]
      split
      next permit limits granted =>
        rw [granted] at error
        cases error
      next limits refused => rw [refused]
    exact ⟨its, current, limit, after ▸ rfl, after ▸ counts⟩
  appears e name missing there := (o.step_moved e).appears exact missing there
  swept limits entry mem := by
    have kept := (List.mem_filter.mp mem).2
    rw [Bool.or_eq_true, decide_eq_true_eq] at kept
    exact kept

end Outbound

end Tollgate.Policy
