import Mathlib.Data.List.Nodup
import Tollgate.Proofs.Tables
import Tollgate.Shutdown

/-!
# The shutdown signal is told once

Whatever steps are taken on a shutdown, who subscribed before the first signal receives it
once, and who subscribed after it never does. A signalled future resolves at the first poll
after the signal, no matter when it was made. Signals after the first change nothing, and
the count of receivers is that of the subscriptions and of the futures that still wait.
-/

namespace Tollgate.Shutdown

inductive Step where
  | subscribe (id : String)
  | signalled (id : String)
  | drop (id : String)
  | receive (id : String)
  | poll (id : String)
  | trigger
  deriving DecidableEq, Repr

/-- A step with its answer; none if it asks nothing, or asks for what is not there. -/
def act (s : Shutdown) : Step → Option Bool × Shutdown
  | .subscribe id => (none, s.subscribe id)
  | .signalled id => (none, s.signalled id)
  | .drop id => (none, s.drop id)
  | .receive id => s.receive id
  | .poll id => s.poll id
  | .trigger => (none, s.trigger)

def after (s : Shutdown) (steps : List Step) : Shutdown :=
  steps.foldl (fun s x => (s.act x).2) s

def answers (s : Shutdown) (asked : Step) : List Step → List (Option Bool)
  | [] => []
  | x :: rest =>
    if x = asked then (s.act x).1 :: answers (s.act x).2 asked rest
    else answers (s.act x).2 asked rest

-- ---------------------------------------------------------------------------
-- What the steps so far say

/-- Something was made and not ended since; what ends it may depend on all steps before. -/
def Since (made : Step) (ends : List Step → Step → Prop) (past : List Step) : Prop :=
  ∃ before later, past = before ++ made :: later ∧
    ∀ early x late, later = early ++ x :: late → ¬ends (before ++ made :: early) x

def Listens (past : List Step) (id : String) : Prop :=
  Since (.subscribe id) (fun _ x => x = .subscribe id ∨ x = .drop id) past

/-- A future is kept under the name, and it was not polled after the signal. -/
def Waits (past : List Step) (id : String) : Prop :=
  Since (.signalled id)
    (fun before x => x = .signalled id ∨ x = .drop id ∨ x = .poll id ∧ .trigger ∈ before) past

def Spared (id : String) (steps : List Step) : Prop :=
  ∀ x ∈ steps, x ≠ .subscribe id ∧ x ≠ .drop id

def onlyFirst : Nat → List (Option Bool)
  | 0 => []
  | n + 1 => some true :: List.replicate n (some false)

section Since

variable {made : Step} {ends : List Step → Step → Prop} {past : List Step} {x : Step}

theorem not_since_nil : ¬Since made ends [] := by
  rintro ⟨before, later, split, -⟩
  simp at split

theorem since_concat :
    Since made ends (past ++ [x]) ↔ x = made ∨ Since made ends past ∧ ¬ends past x := by
  constructor
  · rintro ⟨before, later, split, kept⟩
    -- The last step is the making itself, or it came after and is not what ends it.
    rcases List.eq_nil_or_concat later with rfl | ⟨later, y, rfl⟩
    · have : past ++ [x] = before ++ [made] := split
      simp only [List.append_singleton_inj] at this
      exact .inl this.2
    · have : past ++ [x] = (before ++ made :: later) ++ [y] := by simpa using split
      obtain ⟨rfl, rfl⟩ := List.append_singleton_inj.mp this
      refine .inr ⟨⟨before, later, rfl, ?_⟩, kept later x [] (by simp)⟩
      intro early z late split
      exact kept early z (late ++ [x]) (by simp [split])
  · rintro (rfl | ⟨⟨before, later, rfl, kept⟩, stays⟩)
    · exact ⟨past, [], rfl, by simp⟩
    · refine ⟨before, later ++ [x], by simp, ?_⟩
      intro early z late split
      rcases List.eq_nil_or_concat late with rfl | ⟨late, y, rfl⟩
      · obtain ⟨rfl, rfl⟩ := List.append_singleton_inj.mp split
        exact stays
      · have : later ++ [x] = (early ++ z :: late) ++ [y] := by simpa using split
        exact kept early z late (List.append_singleton_inj.mp this).1

end Since

-- ---------------------------------------------------------------------------
-- Lists with one entry for each name

variable {α β : Type}

/-- The names of a list are those of a property, each one once. -/
structure Named (P : String → Prop) (entries : List (String × α)) : Prop where
  once : (entries.map Prod.fst).Nodup
  names : ∀ k, k ∈ entries.map Prod.fst ↔ P k

theorem mem_names_without {id k : String} {entries : List (String × α)} :
    k ∈ (without id entries).map Prod.fst ↔ k ∈ entries.map Prod.fst ∧ k ≠ id := by
  simp [without]

theorem lookup_without {id k : String} (entries : List (String × α)) (other : k ≠ id) :
    (without id entries).lookup k = entries.lookup k :=
  Policy.lookup_filter_other other entries

namespace Named

variable {P Q : String → Prop} {entries : List (String × α)}

theorem congr (h : Named P entries) (same : ∀ k, P k ↔ Q k) : Named Q entries :=
  ⟨h.once, fun k => (h.names k).trans (same k)⟩

theorem without (h : Named P entries) (id : String) :
    Named (fun k => P k ∧ k ≠ id) (without id entries) := by
  constructor
  · exact h.once.sublist (List.filter_sublist.map _)
  · intro k
    rw [mem_names_without, h.names]

theorem put (h : Named P entries) (id : String) (a : α) :
    Named (fun k => k = id ∨ P k) ((id, a) :: Shutdown.without id entries) := by
  have rest := h.without id
  constructor
  · rw [List.map_cons, List.nodup_cons, rest.names]
    exact ⟨fun gone => gone.2 rfl, rest.once⟩
  · intro k
    rw [List.map_cons, List.mem_cons, rest.names]
    by_cases same : k = id <;> simp [same]

theorem map (h : Named P entries) (f : String → α → β) :
    Named P (entries.map fun (k, a) => (k, f k a)) := by
  have same : (entries.map fun (k, a) => (k, f k a)).map Prod.fst = entries.map Prod.fst := by
    simp
  exact ⟨same ▸ h.once, same ▸ h.names⟩

theorem numbers (h : Named P entries) : Numbers P entries.length :=
  ⟨entries.map Prod.fst, h.once, h.names, List.length_map _⟩

theorem isSome_lookup (h : Named P entries) {k : String} : (entries.lookup k).isSome ↔ P k :=
  Policy.Table.isSome_lookup_iff.trans (h.names k)

end Named

-- ---------------------------------------------------------------------------
-- The steps so far and the state

variable {s : Shutdown} {id : String} {past steps : List Step} {x : Step}

theorem listens_concat :
    Listens (past ++ [x]) id ↔ x = .subscribe id ∨ Listens past id ∧ x ≠ .drop id := by
  rw [Listens, since_concat, Listens]
  by_cases again : x = .subscribe id <;> simp [again]

theorem waits_concat :
    Waits (past ++ [x]) id ↔ x = .signalled id ∨
      Waits past id ∧ x ≠ .drop id ∧ ¬(x = .poll id ∧ .trigger ∈ past) := by
  rw [Waits, since_concat, Waits]
  by_cases again : x = .signalled id <;> simp [again]

theorem poll_found {f : Signalled} (found : s.futures.lookup id = some f) :
    (s.poll id).1 = some (f.already || f.receiver.pending) := by
  simp only [poll, found]
  split <;> simp_all

/-- What the state keeps of the steps so far. The two sources of a future, the flag when it
was made and its own subscription, say together what the flag says. -/
structure Told (past : List Step) (s : Shutdown) : Prop where
  flag : s.triggered ↔ .trigger ∈ past
  receivers : Named (Listens past) s.receivers
  futures : Named (Waits past) s.futures
  agree : ∀ k f, (k, f) ∈ s.futures → (f.already || f.receiver.pending) = s.triggered

theorem told_start : Told [] start := by
  constructor
  · simp [start]
  · exact ⟨List.nodup_nil, fun k => by simp [start, Listens, not_since_nil]⟩
  · exact ⟨List.nodup_nil, fun k => by simp [start, Waits, not_since_nil]⟩
  · simp [start]

namespace Told

theorem agree_lookup (h : Told past s) {f : Signalled} (found : s.futures.lookup id = some f) :
    (f.already || f.receiver.pending) = s.triggered := by
  obtain ⟨before, later, split, -⟩ := List.lookup_eq_some_iff.mp found
  exact h.agree id f (by simp [split])

theorem listens (h : Told past s) (made : ∀ k, x ≠ .subscribe k) (dropped : ∀ k, x ≠ .drop k) :
    Named (Listens (past ++ [x])) s.receivers :=
  h.receivers.congr fun k => by simp [listens_concat, made k, dropped k]

theorem waits (h : Told past s) (made : ∀ k, x ≠ .signalled k) (dropped : ∀ k, x ≠ .drop k)
    (polled : ∀ k, x ≠ .poll k) : Named (Waits (past ++ [x])) s.futures :=
  h.futures.congr fun k => by simp [waits_concat, made k, dropped k, polled k]

theorem subscribe (h : Told past s) (id : String) :
    Told (past ++ [.subscribe id]) (s.subscribe id) := by
  constructor
  · simpa [Shutdown.subscribe] using h.flag
  · refine (h.receivers.put id ⟨false⟩).congr fun k => ?_
    simp [listens_concat, eq_comm]
  · exact h.waits (by simp) (by simp) (by simp)
  · exact h.agree

theorem signalled (h : Told past s) (id : String) :
    Told (past ++ [.signalled id]) (s.signalled id) := by
  constructor
  · simpa [Shutdown.signalled] using h.flag
  · exact h.listens (by simp) (by simp)
  · refine (h.futures.put id ⟨⟨false⟩, s.triggered⟩).congr fun k => ?_
    simp [waits_concat, eq_comm]
  · intro k f mem
    rcases List.mem_cons.mp mem with same | old
    · obtain ⟨-, rfl⟩ := Prod.mk.inj same
      simp [Shutdown.signalled]
    · exact h.agree k f (List.mem_filter.mp old).1

theorem drop (h : Told past s) (id : String) : Told (past ++ [.drop id]) (s.drop id) := by
  constructor
  · simpa [Shutdown.drop] using h.flag
  · refine (h.receivers.without id).congr fun k => ?_
    simp [listens_concat, eq_comm]
  · refine (h.futures.without id).congr fun k => ?_
    simp [waits_concat, eq_comm]
  · intro k f mem
    exact h.agree k f (List.mem_filter.mp mem).1

theorem receive (h : Told past s) (id : String) :
    Told (past ++ [.receive id]) (s.receive id).2 := by
  have flag : s.triggered ↔ Step.trigger ∈ past ++ [.receive id] := by simpa using h.flag
  have listens : Named (Listens (past ++ [.receive id])) s.receivers := h.listens (by simp) (by simp)
  have waits : Named (Waits (past ++ [.receive id])) s.futures :=
    h.waits (by simp) (by simp) (by simp)
  simp only [Shutdown.receive]
  split
  next _ => exact ⟨flag, listens, waits, h.agree⟩
  next r found =>
    have kept := listens.isSome_lookup.mp (Option.isSome_of_mem found)
    refine ⟨flag, (listens.put id ⟨false⟩).congr fun k => ?_, waits, h.agree⟩
    exact or_iff_right_of_imp fun same => same ▸ kept

theorem poll (h : Told past s) (id : String) : Told (past ++ [.poll id]) (s.poll id).2 := by
  have flag : s.triggered ↔ Step.trigger ∈ past ++ [.poll id] := by simpa using h.flag
  have listens : Named (Listens (past ++ [.poll id])) s.receivers := h.listens (by simp) (by simp)
  simp only [Shutdown.poll]
  split
  next absent =>
    have nobody : ¬Waits past id := by simp [← h.futures.isSome_lookup, absent]
    refine ⟨flag, listens, h.futures.congr fun k => ?_, h.agree⟩
    by_cases same : k = id
    · simp [waits_concat, same, nobody]
    · simp [waits_concat, Ne.symm same]
  next f found =>
    have same := h.agree_lookup found
    split
    next resolved =>
      -- What resolves a future is the signal, so this poll ends its wait also by the steps.
      have given : Step.trigger ∈ past := h.flag.mp (same ▸ resolved)
      refine ⟨flag, listens, (h.futures.without id).congr fun k => ?_, ?_⟩
      · simp [waits_concat, given, eq_comm]
      · intro k f mem
        exact h.agree k f (List.mem_filter.mp mem).1
    next unresolved =>
      have quiet : Step.trigger ∉ past := fun given =>
        unresolved (same.trans (h.flag.mpr given))
      exact ⟨flag, listens, h.futures.congr fun k => by simp [waits_concat, quiet], h.agree⟩

theorem trigger (h : Told past s) : Told (past ++ [.trigger]) s.trigger := by
  have listens : Named (Listens (past ++ [.trigger])) s.receivers := h.listens (by simp) (by simp)
  have waits : Named (Waits (past ++ [.trigger])) s.futures :=
    h.waits (by simp) (by simp) (by simp)
  rw [Shutdown.trigger]
  split
  next before => exact ⟨by simp [before], listens, waits, h.agree⟩
  next _ =>
    constructor
    · simp
    · exact listens.map fun _ _ => Receiver.mk true
    · exact waits.map fun _ f => { f with receiver := ⟨true⟩ }
    · intro k f mem
      obtain ⟨_, -, same⟩ := List.mem_map.mp mem
      obtain ⟨-, rfl⟩ := Prod.mk.inj same
      simp

theorem act (h : Told past s) (x : Step) : Told (past ++ [x]) (s.act x).2 := by
  cases x with
  | subscribe id => exact h.subscribe id
  | signalled id => exact h.signalled id
  | drop id => exact h.drop id
  | receive id => exact h.receive id
  | poll id => exact h.poll id
  | trigger => exact h.trigger

theorem after (h : Told past s) (steps : List Step) : Told (past ++ steps) (s.after steps) := by
  induction steps generalizing past s with
  | nil => simpa [Shutdown.after] using h
  | cons x rest ih => simpa [Shutdown.after] using ih (h.act x)

theorem poll_answer (h : Told past s) (waits : Waits past id) :
    (s.poll id).1 = some (decide (.trigger ∈ past)) := by
  obtain ⟨f, found⟩ := Option.isSome_iff_exists.mp (h.futures.isSome_lookup.mpr waits)
  have flag : s.triggered = decide (.trigger ∈ past) :=
    Bool.eq_iff_iff.mpr (by simpa using h.flag)
  rw [poll_found found, h.agree_lookup found, flag]

theorem poll_absent (h : Told past s) (absent : ¬Waits past id) : s.poll id = (none, s) := by
  have : s.futures.lookup id = none :=
    Option.not_isSome_iff_eq_none.mp (mt h.futures.isSome_lookup.mp absent)
  simp [Shutdown.poll, this]

theorem trigger_again (h : Told past s) (given : .trigger ∈ past) : s.trigger = s :=
  if_pos (h.flag.mpr given)

theorem receiverCount (h : Told past s) : ∃ m n,
    Numbers (Listens past) m ∧ Numbers (Waits past) n ∧ s.receiverCount = m + n :=
  ⟨_, _, h.receivers.numbers, h.futures.numbers, rfl⟩

end Told

-- ---------------------------------------------------------------------------
-- One receiver

theorem answers_append (asked : Step) (steps later : List Step) :
    s.answers asked (steps ++ later) =
      s.answers asked steps ++ (s.after steps).answers asked later := by
  induction steps generalizing s with
  | nil => rfl
  | cons x rest ih =>
    simp only [List.cons_append, answers, ih, after, List.foldl_cons]
    split <;> rfl

theorem triggered_act : (s.act x).2.triggered ↔ s.triggered ∨ x = .trigger := by
  cases x with
  | subscribe | signalled | drop => simp [act, subscribe, signalled, drop]
  | receive =>
    simp only [act, receive]
    split <;> simp
  | poll =>
    simp only [act, poll]
    split
    · simp
    · split <;> simp
  | trigger =>
    simp only [act, trigger]
    split <;> simp_all

/-- What a step that spares a receiver does to it: only its own reception and the first signal
change what waits for it. -/
theorem lookup_act {waits : Bool} (kept : s.receivers.lookup id = some ⟨waits⟩)
    (notMade : x ≠ .subscribe id) (notDropped : x ≠ .drop id) :
    (s.act x).2.receivers.lookup id =
      some ⟨decide (x ≠ .receive id) && (waits || decide (x = .trigger) && !s.triggered)⟩ := by
  cases x with
  | subscribe k =>
    have other : id ≠ k := by simpa [eq_comm] using notMade
    simp [act, subscribe, Policy.lookup_cons_ite, other, lookup_without, kept]
  | signalled k => simpa [act, signalled] using kept
  | drop k =>
    have other : id ≠ k := by simpa [eq_comm] using notDropped
    simp [act, drop, other, lookup_without, kept]
  | receive k =>
    by_cases same : k = id
    · simp [act, receive, same, kept]
    · have other : id ≠ k := Ne.symm same
      simp only [act, receive]
      split <;> simp [Policy.lookup_cons_ite, other, same, lookup_without, kept]
  | poll k =>
    simp only [act, poll]
    split
    · simpa using kept
    · split <;> simpa using kept
  | trigger =>
    by_cases given : s.triggered
    · simp [act, trigger, given, kept]
    · have told := Policy.lookup_map_snd (fun _ _ => Receiver.mk true) id s.receivers
      simp [act, trigger, given, told, kept]

theorem answers_idle (kept : s.receivers.lookup id = some ⟨false⟩) (spared : Spared id steps)
    (quiet : s.triggered ∨ .trigger ∉ steps) :
    s.answers (.receive id) steps = List.replicate (steps.count (.receive id)) (some false) ∧
      (s.after steps).receivers.lookup id = some ⟨false⟩ := by
  induction steps generalizing s with
  | nil => exact ⟨rfl, kept⟩
  | cons x rest ih =>
    obtain ⟨⟨notMade, notDropped⟩, others⟩ := List.forall_mem_cons.mp spared
    have still : (x = .trigger → s.triggered) ∧ (s.triggered ∨ .trigger ∉ rest) := by
      simp only [List.mem_cons, not_or] at quiet
      grind
    have unsignalled : (decide (x = .trigger) && !s.triggered) = false := by
      simpa using still.1
    have next : (s.act x).2.receivers.lookup id = some ⟨false⟩ := by
      simp [lookup_act kept notMade notDropped, unsignalled]
    obtain ⟨same, stays⟩ := ih next others (still.2.imp_left fun given =>
      triggered_act.mpr (.inl given))
    refine ⟨?_, stays⟩
    by_cases own : x = .receive id
    · subst own
      have nothing : (s.act (.receive id)).1 = some false := by simp [act, receive, kept]
      simp [answers, same, nothing, List.replicate_succ]
    · simp [answers, own, same]

theorem answers_due (kept : s.receivers.lookup id = some ⟨true⟩) (spared : Spared id steps)
    (given : s.triggered) :
    s.answers (.receive id) steps = onlyFirst (steps.count (.receive id)) := by
  induction steps generalizing s with
  | nil => rfl
  | cons x rest ih =>
    obtain ⟨⟨notMade, notDropped⟩, others⟩ := List.forall_mem_cons.mp spared
    have still : (s.act x).2.triggered := triggered_act.mpr (.inl given)
    have next := lookup_act kept notMade notDropped
    by_cases own : x = .receive id
    · subst own
      have told : (s.act (.receive id)).1 = some true := by simp [act, receive, kept]
      have taken : (s.act (.receive id)).2.receivers.lookup id = some ⟨false⟩ := by
        simpa using next
      simp [answers, told, (answers_idle taken others (.inl still)).1, onlyFirst]
    · have waits : (s.act x).2.receivers.lookup id = some ⟨true⟩ := by simpa [own] using next
      simp [answers, own, ih waits others still]

theorem answers_trigger (kept : s.receivers.lookup id = some ⟨false⟩) (spared : Spared id steps)
    (quiet : ¬s.triggered) :
    s.answers (.receive id) (.trigger :: steps) = onlyFirst (steps.count (.receive id)) := by
  have next := lookup_act kept (Step.noConfusion : Step.trigger ≠ .subscribe id)
    (Step.noConfusion : Step.trigger ≠ .drop id)
  have due : (s.act .trigger).2.receivers.lookup id = some ⟨true⟩ := by
    simpa [quiet] using next
  simpa [answers] using answers_due due spared (triggered_act.mpr (.inr rfl))

/-- After any steps, a new receiver gets the signal once if the first one is still to come, and
never if there was one or none comes. A future that waits resolves if there was a signal. -/
theorem signal_told_once (past : List Step) :
    (∀ id early late, Spared id (early ++ late) → .trigger ∉ past → .trigger ∉ early →
      (start.after (past ++ [.subscribe id])).answers (.receive id) (early ++ .trigger :: late) =
        List.replicate (early.count (.receive id)) (some false) ++
          onlyFirst (late.count (.receive id))) ∧
    (∀ id later, Spared id later → .trigger ∈ past ∨ .trigger ∉ later →
      (start.after (past ++ [.subscribe id])).answers (.receive id) later =
        List.replicate (later.count (.receive id)) (some false)) ∧
    (∀ id, (Waits past id → ((start.after past).poll id).1 = some (decide (.trigger ∈ past))) ∧
      (¬Waits past id → ((start.after past).poll id).1 = none)) ∧
    (.trigger ∈ past → (start.after past).trigger = start.after past) ∧
    ((start.after past).triggered ↔ .trigger ∈ past) ∧
    (∃ m n, Numbers (Listens past) m ∧ Numbers (Waits past) n ∧
      (start.after past).receiverCount = m + n) := by
  have told (steps : List Step) : Told steps (start.after steps) := by
    simpa using told_start.after steps
  have subscribed (id : String) :
      (start.after (past ++ [.subscribe id])).receivers.lookup id = some ⟨false⟩ := by
    simp [after, act, subscribe]
  refine ⟨?_, ?_, ?_, (told past).trigger_again, (told past).flag, (told past).receiverCount⟩
  · intro id early late spared quiet still
    obtain ⟨spared_early, spared_late⟩ := List.forall_mem_append.mp spared
    obtain ⟨first, idle⟩ := answers_idle (subscribed id) spared_early (.inr still)
    have unsignalled : ¬((start.after (past ++ [.subscribe id])).after early).triggered := by
      rw [((told _).after early).flag]
      simp [quiet, still]
    rw [answers_append, first, answers_trigger idle spared_late unsignalled]
  · intro id later spared quiet
    refine (answers_idle (subscribed id) spared ?_).1
    rw [(told _).flag]
    simpa using quiet
  · intro id
    refine ⟨(told past).poll_answer, fun absent => ?_⟩
    rw [(told past).poll_absent absent]

theorem signal_told_once_twice_given :
    (start.after [.signalled "f", .subscribe "a"]).answers (.receive "a")
        [.receive "a", .trigger, .receive "a", .trigger, .receive "a"] =
      [some false, some true, some false] ∧
    (start.after [.trigger, .subscribe "b"]).answers (.receive "b")
      [.receive "b", .trigger, .receive "b"] = [some false, some false] ∧
    ((start.after [.signalled "f", .trigger]).poll "f").1 = some true ∧
    ((start.after [.trigger, .signalled "g"]).poll "g").1 = some true ∧
    (start.after [.trigger]).trigger = start.after [.trigger] := by
  have made : Waits [.signalled "f"] "f" := ⟨[], [], rfl, by simp⟩
  have early : Waits ([.signalled "f"] ++ [.trigger]) "f" :=
    waits_concat.mpr (.inr ⟨made, by simp, by simp⟩)
  have late : Waits [.trigger, .signalled "g"] "g" := ⟨[.trigger], [], rfl, by simp⟩
  refine ⟨?_, ?_, ?_, ?_, ?_⟩
  · exact (signal_told_once [.signalled "f"]).1 "a" [.receive "a"]
      [.receive "a", .trigger, .receive "a"] (by simp [Spared]) (by simp) (by simp)
  · exact (signal_told_once [.trigger]).2.1 "b" [.receive "b", .trigger, .receive "b"]
      (by simp [Spared]) (by simp)
  · exact ((signal_told_once [.signalled "f", .trigger]).2.2.1 "f").1 early
  · exact ((signal_told_once [.trigger, .signalled "g"]).2.2.1 "g").1 late
  · exact (signal_told_once [.trigger]).2.2.2.1 (by simp)

-- ---------------------------------------------------------------------------
-- Calls that come apart

/-- Halves of calls. To trigger is to raise the flag and then to send, to wait is to join and
then to look at the flag; halves of other calls may come between. -/
inductive Half where
  | raise
  | send
  | join (id : String)
  | look (id : String)
  deriving DecidableEq, Repr

def actHalf (s : Shutdown) : Half → Shutdown
  | .raise => { s with triggered := true }
  | .send =>
    { s with
      receivers := s.receivers.map fun (k, _) => (k, ⟨true⟩)
      futures := s.futures.map fun (k, f) => (k, { f with receiver := ⟨true⟩ }) }
  | .join id => { s with futures := (id, ⟨⟨false⟩, false⟩) :: without id s.futures }
  | .look id =>
    { s with futures := s.futures.map fun (k, f) =>
        (k, if k = id then { f with already := s.triggered } else f) }

def afterHalves (s : Shutdown) (halves : List Half) : Shutdown :=
  halves.foldl actHalf s

theorem trigger_halves (s : Shutdown) :
    s.trigger = if s.triggered then s else s.afterHalves [.raise, .send] :=
  rfl

theorem map_without_ne {α : Type} {f : String → α → α} (entries : List (String × α))
    (same : ∀ k a, k ≠ id → f k a = a) :
    (without id entries).map (fun (k, a) => (k, f k a)) = without id entries := by
  conv_rhs => rw [← List.map_id (without id entries)]
  refine List.map_congr_left ?_
  rintro ⟨k, a⟩ mem
  have other : k ≠ id := by simpa using (List.mem_filter.mp mem).2
  simp [same k a other]

theorem signalled_halves (s : Shutdown) (id : String) :
    s.signalled id = s.afterHalves [.join id, .look id] := by
  have others := map_without_ne s.futures fun k f (other : k ≠ id) =>
    (if_neg other : (if k = id then { f with already := s.triggered } else f) = f)
  simp [signalled, afterHalves, actHalf, others]

theorem triggered_afterHalves (halves : List Half) :
    (s.afterHalves halves).triggered = (s.triggered || decide (.raise ∈ halves)) := by
  induction halves generalizing s with
  | nil => simp [afterHalves]
  | cons half rest ih =>
    have first : (s.afterHalves (half :: rest)).triggered =
      ((s.actHalf half).triggered || decide (.raise ∈ rest)) := ih
    cases half <;> simp [first, actHalf]

theorem lookup_afterHalves {f : Signalled} {halves : List Half}
    (kept : s.futures.lookup id = some f) (apart : .join id ∉ halves ∧ .look id ∉ halves) :
    (s.afterHalves halves).futures.lookup id =
      some ⟨⟨f.receiver.pending || decide (.send ∈ halves)⟩, f.already⟩ := by
  induction halves generalizing s f with
  | nil => simpa [afterHalves] using kept
  | cons half rest ih =>
    simp only [List.mem_cons, not_or] at apart
    obtain ⟨⟨joined, joins⟩, looked, looks⟩ := apart
    have next {g : Signalled} (heard : (s.actHalf half).futures.lookup id = some g) :
        (s.afterHalves (half :: rest)).futures.lookup id =
          some ⟨⟨g.receiver.pending || decide (.send ∈ rest)⟩, g.already⟩ :=
      ih heard ⟨joins, looks⟩
    cases half with
    | raise => simpa using next kept
    | send =>
      have told := Policy.lookup_map_snd (fun _ g => Signalled.mk ⟨true⟩ g.already) id s.futures
      rw [kept] at told
      simpa using next told
    | join k =>
      have other : id ≠ k := by simpa using joined
      have still : (s.actHalf (.join k)).futures.lookup id = some f := by
        simp [actHalf, Policy.lookup_cons_ite, other, lookup_without, kept]
      simpa using next still
    | look k =>
      have other : id ≠ k := by simpa using looked
      have told := Policy.lookup_map_snd
        (fun name g => if name = k then Signalled.mk g.receiver s.triggered else g) id s.futures
      rw [kept, Option.map_some, if_neg other] at told
      simpa using next told

/-- Which halves a future hears of: the flag up to its look, and what is sent from its join on. -/
theorem poll_afterHalves (before : List Half) {middle later : List Half}
    (middle_apart : .join id ∉ middle ∧ .look id ∉ middle)
    (later_apart : .join id ∉ later ∧ .look id ∉ later) :
    ((start.afterHalves (before ++ .join id :: middle ++ .look id :: later)).poll id).1 =
      some (decide (.raise ∈ before ++ middle ∨ .send ∈ middle ++ later)) := by
  let joined := (start.afterHalves before).actHalf (.join id)
  let looked := (joined.afterHalves middle).actHalf (.look id)
  have run : start.afterHalves (before ++ .join id :: middle ++ .look id :: later) =
      looked.afterHalves later := by
    simp [afterHalves, joined, looked]
  have flag : (joined.afterHalves middle).triggered = decide (.raise ∈ before ++ middle) := by
    have first : joined.triggered = (start.afterHalves before).triggered := rfl
    simp [triggered_afterHalves, first, start]
  have at_join : joined.futures.lookup id = some ⟨⟨false⟩, false⟩ := by
    simp [joined, actHalf]
  have at_look : looked.futures.lookup id =
      some ⟨⟨decide (.send ∈ middle)⟩, decide (.raise ∈ before ++ middle)⟩ := by
    have told := Policy.lookup_map_snd (fun name g => if name = id then
      Signalled.mk g.receiver (joined.afterHalves middle).triggered else g) id
      (joined.afterHalves middle).futures
    rw [lookup_afterHalves at_join middle_apart, Option.map_some, if_pos rfl, flag] at told
    simpa [looked, actHalf, flag] using told
  rw [run, poll_found (lookup_afterHalves at_look later_apart)]
  simp [Bool.decide_or]

/-- Nothing sent is lost and nothing is heard that was not raised, wherever the halves fall, as
long as nobody sends before the flag is up. -/
theorem signal_kept_between_halves {before middle later : List Half}
    (middle_apart : .join id ∉ middle ∧ .look id ∉ middle)
    (later_apart : .join id ∉ later ∧ .look id ∉ later)
    (raised_first : ∀ early late,
      before ++ .join id :: middle ++ .look id :: later = early ++ .send :: late → .raise ∈ early) :
    let halves := before ++ .join id :: middle ++ .look id :: later
    (.send ∈ halves → ((start.afterHalves halves).poll id).1 = some true) ∧
      (((start.afterHalves halves).poll id).1 = some true → .raise ∈ halves) := by
  intro halves
  have answer : ((start.afterHalves halves).poll id).1 =
      some (decide (.raise ∈ before ++ middle ∨ .send ∈ middle ++ later)) :=
    poll_afterHalves before middle_apart later_apart
  have raised_of_sent : ∀ stretch rest, halves = stretch ++ rest → .send ∈ stretch →
      .raise ∈ stretch := by
    intro stretch rest split sent
    obtain ⟨early, late, rfl⟩ := List.append_of_mem sent
    have : Half.raise ∈ early := raised_first early (late ++ rest) (by simpa [halves] using split)
    simp [this]
  constructor
  · intro sent
    simp only [answer, Option.some_inj, decide_eq_true_eq]
    by_cases early : Half.send ∈ before
    · have := raised_of_sent before (.join id :: middle ++ .look id :: later)
        (by simp [halves]) early
      simp [this]
    · exact .inr (by simpa [halves, early] using sent)
  · intro resolved
    simp only [answer, Option.some_inj, decide_eq_true_eq, List.mem_append] at resolved
    by_cases sent : Half.send ∈ halves
    · exact raised_of_sent halves [] (by simp) sent
    · simp only [halves, List.mem_append, List.mem_cons, not_or] at sent ⊢
      tauto

end Tollgate.Shutdown
