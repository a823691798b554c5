import Tollgate.Proofs.Requests

/-!
# How long a request waits

A request under way goes on at the first moment at or after its timer, unless its time is
up before. Nothing that goes on in the background moves the clock. So a request in the
foreground goes on exactly when the clock stands at its timer, in each of its stages.
-/

namespace Tollgate.Service

-- ---------------------------------------------------------------------------
-- What leaves the clock alone

section Clock

variable (s : Service)

theorem now_dropFlight (f : Flight) : (s.dropFlight f).now = s.now := by
  rw [dropFlight]
  split <;> rfl

theorem now_handled (m : Http.Mount) (r : Http.Request) (deadline : Timer) :
    (s.handled m r deadline).2.now = s.now := by
  simp only [handled]
  split <;> rfl

theorem now_resumeFlight (f : Flight) : (s.resumeFlight f).2.now = s.now := by
  rw [resumeFlight]
  split
  next _ => exact s.now_dropFlight f
  next _ =>
    split
    next _ =>
      split
      next _ => rfl
      next _ => exact s.now_handled f.mount f.request f.deadline
      next _ => rfl
    next _ => rfl

theorem now_resume (job : Job) : (s.resume job).2.now = s.now := by
  cases job with
  | flight f => exact s.now_resumeFlight f
  | cycle =>
    simp only [resume]
    split <;> rfl
  | entry held timer =>
    simp only [resume]
    split <;> rfl
  | _ => rfl

theorem now_startRefresh : s.startRefresh.2.now = s.now := by
  rw [startRefresh]
  split
  next _ => rfl
  next _ =>
    simp only
    split <;> rfl

theorem now_loopRefresh (l : Loop) (tick : Nat) : (s.loopRefresh l tick).2.now = s.now := by
  have started := s.now_startRefresh
  rw [loopRefresh]
  split
  next _ _ begun => rw [← started, begun]
  next _ _ _ begun =>
    rw [← started, begun]
    rfl

theorem now_runLoop (rounds : Nat) (l : Loop) : (runLoop rounds s l).2.now = s.now := by
  induction rounds generalizing s l with
  | zero => rfl
  | succ rounds ih =>
    rw [runLoop]
    split
    next _ => rfl
    next _ =>
      split
      next _ => rfl
      next _ => exact (ih _ _).trans rfl
    next _ =>
      split
      next _ => exact (ih _ _).trans (s.now_loopRefresh l _)
      next _ =>
        split
        next _ => exact (ih _ _).trans (now_loopRefresh _ l _)
        next _ => split <;> rfl

theorem now_act (a : Actor) : (s.act a).now = s.now := by
  cases a with
  | job id =>
    rw [act]
    split
    next _ => rfl
    next job _ => exact s.now_resume job
  | loop i =>
    rw [act]
    split
    next _ => rfl
    next l _ => exact s.now_runLoop loopRounds l

theorem now_settle : s.settle.now = s.now := by
  have all : ∀ actors : List Actor, ∀ u : Service, (actors.foldl act u).now = u.now := by
    intro actors
    induction actors with
    | nil => exact fun _ => rfl
    | cons a rest ih => exact fun u => (ih (u.act a)).trans (u.now_act a)
  exact all s.actors s

end Clock

-- ---------------------------------------------------------------------------
-- The next stop of the clock

theorem tick_first (a b : Timer) : (a.first b).tick = min a.tick b.tick := by
  rw [Timer.first]
  split
  next before =>
    simp only [Timer.le, Bool.or_eq_true, Bool.and_eq_true, decide_eq_true_eq, beq_iff_eq] at before
    omega
  next after =>
    simp only [Timer.le, Bool.or_eq_true, Bool.and_eq_true, decide_eq_true_eq, beq_iff_eq] at after
    omega

/-- The clock stops no later than at the timer, and later than now if the timer is. -/
theorem nextWake_bounds (s : Service) (timer : Timer) (ahead : s.now < timer.tick) :
    s.now < s.nextWake timer ∧ s.nextWake timer ≤ timer.tick := by
  have all : ∀ (timers : List Timer) (tick : Nat), s.now < tick →
      let stop := timers.foldl (fun tick t => if s.now < t.tick then min tick t.tick else tick) tick
      s.now < stop ∧ stop ≤ tick := by
    intro timers
    induction timers with
    | nil => exact fun tick later => ⟨later, Nat.le_refl tick⟩
    | cons t rest ih =>
      intro tick later
      rw [List.foldl_cons]
      split
      next tLater =>
        have stop := ih (min tick t.tick) (Nat.lt_min.mpr ⟨later, tLater⟩)
        exact ⟨stop.1, Nat.le_trans stop.2 (Nat.min_le_left _ _)⟩
      next _ => exact ih tick later
  exact all s.timers timer.tick ahead

-- ---------------------------------------------------------------------------
-- Requests under way

def goOn (u : Service) (f : Flight) : Job × Service :=
  match f.stage with
  | .mocking mock => u.mocked f.mount f.request mock
  | .entering => u.handled f.mount f.request f.deadline
  | .handling response => u.served f.mount f.request response

section Resume

variable {u : Service} {f : Flight}

theorem resumeFlight_still (inTime : u.now < f.deadline.tick) (before : u.now < f.timer.tick) :
    u.resumeFlight f = (.flight f, u) := by
  rw [resumeFlight, if_neg (Nat.not_le.mpr inTime), if_neg (Nat.not_le.mpr before)]

theorem resumeFlight_done (inTime : u.now < f.deadline.tick) (fired : f.timer.tick ≤ u.now) :
    u.resumeFlight f = u.goOn f := by
  rw [resumeFlight, if_neg (Nat.not_le.mpr inTime), if_pos fired]
  rfl

theorem resumeFlight_late (late : f.deadline.tick ≤ u.now) :
    u.resumeFlight f = (timedOut f.request, u.dropFlight f) := by
  rw [resumeFlight, if_pos late]

theorem now_goOn (u : Service) (f : Flight) : (u.goOn f).2.now = u.now := by
  rw [goOn]
  split
  next _ => rfl
  next _ => exact u.now_handled f.mount f.request f.deadline
  next _ => rfl

theorem now_settle_goOn (u : Service) (f : Flight) : (u.goOn f).2.settle.now = u.now :=
  (now_settle _).trans (u.now_goOn f)

theorem goOn_cases (u : Service) (f : Flight) :
    timerOf (u.goOn f).1 = none ∨
      ∃ f', (u.goOn f).1 = .flight f' ∧ f'.deadline = f.deadline ∧ u.now < f'.timer.tick := by
  rw [goOn]
  split
  next _ => exact .inl rfl
  next _ =>
    rcases u.handled_cases f.mount f.request f.deadline with
      ⟨_, answer, -⟩ | ⟨f', flies, -, -, deadline, ahead, -⟩
    · exact .inl (congrArg timerOf answer)
    · exact .inr ⟨f', flies, deadline, ahead⟩
  next _ => exact .inl rfl

end Resume

-- ---------------------------------------------------------------------------
-- Requests in the foreground

theorem await_done {job : Job} (done : timerOf job = none) (wakes : Nat) (s : Service) :
    await wakes s job = (job, s) := by
  cases wakes with
  | zero => rfl
  | succ wakes => rw [await, done]

theorem conclude_done {result : Job × Service} (done : timerOf result.1 = none) :
    conclude result = (result.1, result.2.settle) :=
  await_done done _ _

theorem tick_first_lt {now : Nat} {a b : Timer} (first : now < a.tick) (second : now < b.tick) :
    now < (a.first b).tick := by
  rw [tick_first]
  exact Nat.lt_min.mpr ⟨first, second⟩

/-- Wakes beyond those up to its deadline make no difference to a request. -/
theorem await_congr {wakes wakes' : Nat} {u : Service} {f : Flight}
    (ahead : u.now < (f.timer.first f.deadline).tick) (enough : f.deadline.tick ≤ u.now + wakes)
    (enough' : f.deadline.tick ≤ u.now + wakes') :
    await wakes u (.flight f) = await wakes' u (.flight f) := by
  have inside : u.now < f.deadline.tick := by
    rw [tick_first] at ahead
    exact Nat.lt_of_lt_of_le ahead (Nat.min_le_right _ _)
  induction wakes generalizing wakes' u f with
  | zero => omega
  | succ wakes ih =>
    obtain ⟨wakes', rfl⟩ : ∃ n, wakes' = n + 1 := ⟨wakes' - 1, by omega⟩
    obtain ⟨later, -⟩ := u.nextWake_bounds (f.timer.first f.deadline) ahead
    simp only [await, timerOf, resume]
    generalize woken : ({ u with now := u.nextWake (f.timer.first f.deadline) } : Service) = v
    have now : v.now = u.nextWake (f.timer.first f.deadline) := by rw [← woken]
    rw [← now] at later
    by_cases late : f.deadline.tick ≤ v.now
    · rw [resumeFlight_late late, await_done rfl, await_done rfl]
    have inTime : v.now < f.deadline.tick := Nat.lt_of_not_le late
    by_cases fired : f.timer.tick ≤ v.now
    · rw [resumeFlight_done inTime fired]
      rcases v.goOn_cases f with done | ⟨f', flies, deadline, ahead'⟩
      · rw [await_done done, await_done done]
      · -- The next stage has the same deadline and a later timer.
        rw [flies]
        refine ih ?_ ?_ ?_ ?_
        · rw [now_settle_goOn]
          exact tick_first_lt ahead' (deadline ▸ inTime)
        all_goals
          rw [now_settle_goOn, deadline]
          omega
    · have before : v.now < f.timer.tick := Nat.lt_of_not_le fired
      rw [resumeFlight_still inTime before]
      refine ih ?_ ?_ ?_ ?_
      · rw [now_settle]
        exact tick_first_lt before inTime
      all_goals
        rw [now_settle]
        dsimp only
        omega

theorem await_goOn {wakes : Nat} {v : Service} {f : Flight} (inTime : v.now < f.deadline.tick)
    (enough : f.deadline.tick ≤ v.now + wakes) :
    await wakes (v.goOn f).2.settle (v.goOn f).1 = conclude (v.goOn f) := by
  rcases v.goOn_cases f with done | ⟨f', flies, deadline, ahead⟩
  · rw [await_done done, conclude_done done]
  · rw [conclude, flies]
    refine await_congr ?_ ?_ ?_
    · rw [now_settle_goOn]
      exact tick_first_lt ahead (deadline ▸ inTime)
    · rw [now_settle_goOn, deadline]
      exact enough
    · rw [now_settle_goOn, lastWake, v.now_goOn f]
      omega

variable {f : Flight} (inTime : f.timer.tick < f.deadline.tick)

include inTime

/-- A request in the foreground goes on when the clock stands at its timer, whoever else
stops the clock before. -/
theorem await_flight (wakes : Nat) (u : Service) (ahead : u.now < f.timer.tick)
    (enough : f.deadline.tick ≤ u.now + wakes) :
    ∃ v : Service, v.now = f.timer.tick ∧ await wakes u (.flight f) = conclude (v.goOn f) := by
  induction wakes generalizing u with
  | zero => omega
  | succ wakes ih =>
    have first : (f.timer.first f.deadline).tick = f.timer.tick := by
      rw [tick_first]
      omega
    obtain ⟨later, noLater⟩ := u.nextWake_bounds (f.timer.first f.deadline) (first ▸ ahead)
    rw [first] at noLater
    simp only [await, timerOf, resume]
    generalize woken : ({ u with now := u.nextWake (f.timer.first f.deadline) } : Service) = v
    have now : v.now = u.nextWake (f.timer.first f.deadline) := by rw [← woken]
    rw [← now] at later noLater
    by_cases arrives : v.now = f.timer.tick
    · refine ⟨v, arrives, ?_⟩
      rw [resumeFlight_done (arrives ▸ inTime) (Nat.le_of_eq arrives.symm)]
      exact await_goOn (arrives ▸ inTime) (by omega)
    · -- The clock stopped for someone else: the request waits on with one wake less.
      have before : v.now < f.timer.tick := by omega
      rw [resumeFlight_still (Nat.lt_trans before inTime) before]
      refine ih _ ?_ ?_
      · rw [now_settle]
        exact before
      · rw [now_settle]
        dsimp only
        omega

theorem finish_flight (u : Service) (ahead : u.now < f.timer.tick) :
    ∃ v : Service, v.now = f.timer.tick ∧ finish (.flight f, u) = conclude (v.goOn f) :=
  await_flight inTime _ u ahead (by rw [lastWake]; omega)

end Tollgate.Service
