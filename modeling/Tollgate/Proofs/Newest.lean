import Tollgate.Proofs.Isolation
import Tollgate.Proofs.Keys
import Tollgate.Proofs.LastGood
import Tollgate.Proofs.Mocks

/-!
# The newest row decides

Rows of five categories are about a route or a name. For each of these the newest row
decides among those that can be read, and of rows of one age the one fetched first. A row
that is passed over gives nothing, and is not rejected either: without it the same comes of
a refresh. A route has one key, however its rows spell it.
-/

namespace Tollgate

namespace Policy

open Document (Reader)

-- ---------------------------------------------------------------------------
-- What rows name

/-- The route that a row sets a ceiling and a rate for, with what it says. -/
def GateSpec.assign? (data : String) : Option (Route.Key × GateSpec) :=
  (ofData data).toOption

def Mock.assign? (data : String) : Option (Route.Key × Mock) :=
  (ofData data).toOption.map fun m => (m.route, m)

def Interceptor.assign? (data : String) : Option (Route.Key × Interceptor) :=
  (ofData data).toOption.bind id

def RequestLimit.assign? (data : String) : Option (String × Nat) :=
  (ofData data).toOption.map fun l => (l.name, l.max)

def EmailGroup.assign? (data : String) : Option (String × List String) :=
  (ofData data).toOption.map fun g => (g.name, g.list)

-- ---------------------------------------------------------------------------
-- How rows spell their routes

def GateSpec.routerOf? (data : String) : Option String :=
  (Document.readText (Reader.twoPass "RouterConcurrencyRow" "router" Reader.text none fields)
    data).toOption.map Prod.fst

def Mock.routerOf? (data : String) : Option String :=
  (Document.readText (Reader.record "Row" fields) data).toOption.map Prod.fst

def Interceptor.routerOf? (data : String) : Option String :=
  (Document.readText (Reader.twoPass "InterceptorRow" "router" Reader.text (some "") fields)
    data).toOption.map Prod.fst

theorem toOption_of_mapError {ε ε' β : Type} {f : ε → ε'} {result : Except ε β} {b : β}
    (h : result.mapError f = .ok b) : result.toOption = some b := by
  cases result with
  | ok _ =>
    cases h
    rfl
  | error _ => cases h

theorem ok_of_toOption {ε β : Type} {result : Except ε β} {b : β} (h : result.toOption = some b) :
    result = .ok b := by
  cases result with
  | ok _ =>
    cases h
    rfl
  | error _ => cases h

theorem GateSpec.spells_iff_of_assign? {data : String} {key : Route.Key} {spec : GateSpec}
    (h : assign? data = some (key, spec)) :
    ∃ router, routerOf? data = some router ∧ ∀ k, Route.Key.Spells router k ↔ k = key := by
  obtain ⟨⟨router, fields⟩, read, h⟩ := ok_of_bind (ok_of_toOption h)
  refine ⟨router, by rw [routerOf?, toOption_of_mapError read, Option.map_some], ?_⟩
  dsimp only at h
  split at h
  next spelled =>
    cases h
    exact Route.Key.spells_iff_eq spelled
  next _ => cases h

theorem Mock.spells_iff_of_assign? {data : String} {key : Route.Key} {m : Mock}
    (h : assign? data = some (key, m)) :
    ∃ router, routerOf? data = some router ∧ ∀ k, Route.Key.Spells router k ↔ k = key := by
  obtain ⟨m, read, pair⟩ := Option.map_eq_some_iff.mp h
  obtain ⟨rfl, rfl⟩ := Prod.mk.inj pair
  obtain ⟨⟨router, status, contentType, response, delaySeconds, url, ⟨⟩⟩, read, h⟩ :=
    ok_of_bind (ok_of_toOption read)
  refine ⟨router, by rw [routerOf?, toOption_of_mapError read, Option.map_some], ?_⟩
  dsimp only at h
  split at h
  next key spelled =>
    obtain ⟨route, named, h⟩ := ok_of_bind h
    cases named
    split at h
    next _ =>
      obtain ⟨_, thrown, -⟩ := ok_of_bind h
      cases thrown
    next _ =>
      cases h
      exact Route.Key.spells_iff_eq spelled
  next _ =>
    obtain ⟨_, thrown, -⟩ := ok_of_bind h
    cases thrown

theorem Interceptor.spells_iff_of_assign? {data : String} {key : Route.Key} {i : Interceptor}
    (h : assign? data = some (key, i)) :
    ∃ router, routerOf? data = some router ∧ ∀ k, Route.Key.Spells router k ↔ k = key := by
  obtain ⟨entry, read, rfl⟩ := Option.bind_eq_some_iff.mp h
  obtain ⟨⟨router, before, after, ⟨⟩⟩, read, h⟩ := ok_of_bind (ok_of_toOption read)
  refine ⟨router, by rw [routerOf?, toOption_of_mapError read, Option.map_some], ?_⟩
  dsimp only at h
  split at h
  next _ => cases h
  next _ =>
    split at h
    next spelled =>
      cases h
      exact Route.Key.spells_iff_eq spelled
    next _ => cases h

variable {κ α : Type}

def Row.Tells (assign? : String → Option (κ × α)) (c : Category) (k : κ) (a : α) (r : Row) : Prop :=
  r.category = c ∧ assign? r.data = some (k, a)

/-- What is decided about a key: the newest row that says something about it decides, of one
age the one fetched first; without such a row nothing is said. -/
inductive Decided (assign? : String → Option (κ × α)) (c : Category) (fetched : List Row) (k : κ) :
    Option α → Prop
  | newest (before after : List Row) (r : Row) (a : α) (all : fetched = before ++ r :: after)
      (tells : r.Tells assign? c k a)
      (older : ∀ o ∈ before, ∀ b, o.Tells assign? c k b → o.updatedAt.before r.updatedAt)
      (notNewer : ∀ o ∈ after, ∀ b, o.Tells assign? c k b → ¬r.updatedAt.before o.updatedAt) :
      Decided assign? c fetched k (some a)
  | silent (nobody : ∀ r ∈ fetched, ∀ a, ¬r.Tells assign? c k a) : Decided assign? c fetched k none

section Decided

variable {assign? : String → Option (κ × α)} {c : Category} {fetched : List Row} {k : κ}

theorem Row.eq_of_newest {before after before' after' : List Row} {r r' : Row} {a a' : α}
    (same : before ++ r :: after = before' ++ r' :: after')
    (tells : r.Tells assign? c k a) (tells' : r'.Tells assign? c k a')
    (older : ∀ o ∈ before, ∀ b, o.Tells assign? c k b → o.updatedAt.before r.updatedAt)
    (older' : ∀ o ∈ before', ∀ b, o.Tells assign? c k b → o.updatedAt.before r'.updatedAt)
    (notNewer : ∀ o ∈ after, ∀ b, o.Tells assign? c k b → ¬r.updatedAt.before o.updatedAt)
    (notNewer' : ∀ o ∈ after', ∀ b, o.Tells assign? c k b → ¬r'.updatedAt.before o.updatedAt) :
    r = r' := by
  rcases List.append_eq_append_iff.mp same with ⟨between, rfl, rest⟩ | ⟨between, rfl, rest⟩
  · cases between with
    | nil => exact (List.cons_eq_cons.mp rest).1
    | cons o between =>
      obtain ⟨rfl, rfl⟩ := List.cons_eq_cons.mp rest
      exact absurd (older' r (by simp) a tells) (notNewer r' (by simp) a' tells')
  · cases between with
    | nil => exact (List.cons_eq_cons.mp rest).1.symm
    | cons o between =>
      obtain ⟨rfl, rfl⟩ := List.cons_eq_cons.mp rest
      exact absurd (older r' (by simp) a' tells') (notNewer' r (by simp) a tells)

theorem Decided.unique {x y : Option α} (hx : Decided assign? c fetched k x)
    (hy : Decided assign? c fetched k y) : x = y := by
  cases hx with
  | newest before after r a all tells older notNewer =>
    cases hy with
    | newest before' after' r' a' all' tells' older' notNewer' =>
      obtain rfl :=
        Row.eq_of_newest (all.symm.trans all') tells tells' older older' notNewer notNewer'
      have pair := tells.2.symm.trans tells'.2
      simpa using pair
    | silent nobody => exact absurd tells (nobody r (by simp [all]) a)
  | silent nobody =>
    cases hy with
    | newest before after r a all tells _ _ => exact absurd tells (nobody r (by simp [all]) a)
    | silent _ => rfl

end Decided

end Policy

namespace Control

open Policy

variable {κ α : Type} [DecidableEq κ]

/-- In the three categories that are about routes, a row is about the one whose key its
router text spells. -/
structure RoutesSpelled : Prop where
  gates : ∀ {data key spec}, GateSpec.assign? data = some (key, spec) →
    ∃ router, GateSpec.routerOf? data = some router ∧ ∀ k, Route.Key.Spells router k ↔ k = key
  mocks : ∀ {data key m}, Mock.assign? data = some (key, m) →
    ∃ router, Mock.routerOf? data = some router ∧ ∀ k, Route.Key.Spells router k ↔ k = key
  interceptors : ∀ {data key i}, Interceptor.assign? data = some (key, i) →
    ∃ router, Interceptor.routerOf? data = some router ∧ ∀ k, Route.Key.Spells router k ↔ k = key

-- ---------------------------------------------------------------------------
-- What is put in force

def entriesIn (assign? : String → Option (κ × α)) (fetched : List Row) (c : Category) :
    List (κ × α) :=
  (rowsIn fetched c).filterMap fun r => assign? r.data

def isAbout (assign? : String → Option (κ × α)) (k : κ) (r : Row) : Bool :=
  (assign? r.data).any fun entry => entry.1 = k

theorem lookup_filterMap (assign? : String → Option (κ × α)) (k : κ) (rows : List Row) :
    (rows.filterMap fun r => assign? r.data).lookup k =
      (rows.filter (isAbout assign? k)).head?.bind fun r => (assign? r.data).map Prod.snd := by
  induction rows with
  | nil => rfl
  | cons r rest ih =>
    rw [List.filterMap_cons, List.filter_cons, isAbout]
    cases read : assign? r.data with
    | none => simpa using ih
    | some entry =>
      obtain ⟨key, a⟩ := entry
      rw [lookup_cons_ite]
      by_cases same : key = k
      · simp [same, read]
      · simpa [same, Ne.symm same] using ih

theorem decided_lookup (assign? : String → Option (κ × α)) (c : Category) (fetched : List Row)
    (k : κ) : Decided assign? c fetched k ((entriesIn assign? fetched c).lookup k) := by
  let about (r : Row) : Bool := isAbout assign? k r && r.category = c
  have about_of_tells : ∀ {r : Row} {a : α}, r.Tells assign? c k a → about r := by
    rintro r a ⟨named, said⟩
    simp [about, isAbout, named, said]
  have tells_of_about : ∀ {r : Row}, about r → ∃ a, r.Tells assign? c k a := by
    intro r holds
    obtain ⟨named, category⟩ := Bool.and_eq_true_iff.mp holds
    obtain ⟨⟨key, a⟩, said, same⟩ := (Option.any_eq_true _ _).mp named
    rw [decide_eq_true_eq] at same
    exact ⟨a, of_decide_eq_true category, same ▸ said⟩
  have chosen : (entriesIn assign? fetched c).lookup k =
      (Row.newestFirst (fetched.filter about)).head?.bind
        fun r => (assign? r.data).map Prod.snd := by
    rw [entriesIn, lookup_filterMap, rowsIn, List.filter_filter, Row.newestFirst_filter]
  rw [chosen]
  cases first : (Row.newestFirst (fetched.filter about)).head? with
  | none =>
    refine .silent fun r mem a tells => ?_
    have empty := List.head?_eq_none_iff.mp first
    have mem' : r ∈ Row.newestFirst (fetched.filter about) :=
      Row.mem_newestFirst.mpr (List.mem_filter.mpr ⟨mem, about_of_tells tells⟩)
    rw [empty] at mem'
    cases mem'
  | some r =>
    obtain ⟨front, back, filtered, older, notNewer⟩ := Row.of_head?_newestFirst first
    -- Between the rows about the key there may be others in the fetch.
    obtain ⟨before, rest, rfl, kept, filtered⟩ := List.filter_eq_append_iff.mp filtered
    obtain ⟨skipped, after, rfl, out, isAbout, kept'⟩ := List.filter_eq_cons_iff.mp filtered
    obtain ⟨a, tells⟩ := tells_of_about isAbout
    have decided : (some r).bind (fun r => (assign? r.data).map Prod.snd) = some a := by
      simp [tells.2]
    rw [decided]
    refine .newest (before ++ skipped) after r a (by simp) tells (fun o mem b tells => ?_)
      fun o mem b tells => ?_
    · rcases List.mem_append.mp mem with mem | mem
      · have mem' : o ∈ front := by
          rw [← kept]
          exact List.mem_filter.mpr ⟨mem, about_of_tells tells⟩
        simpa [Row.newerOrEqual] using older o mem'
      · exact absurd (about_of_tells tells) (out o mem)
    · have mem' : o ∈ back := by
        rw [← kept']
        exact List.mem_filter.mpr ⟨mem, about_of_tells tells⟩
      simpa [Row.newerOrEqual] using notNewer o mem'

variable (p : Plane) (now : Nat) (fetched : List Row)

theorem putOn_entries :
    (contentOf fetched).putOn p now =
      { gates := p.gates.apply now
          (Table.ofEntries (entriesIn GateSpec.assign? fetched .routerConcurrency))
        mocks := Table.ofEntries (entriesIn Mock.assign? fetched .router)
        blocked := (contentOf fetched).blocked
        interceptors :=
          Table.ofEntries (entriesIn Interceptor.assign? fetched .httpServerInterceptor)
        limits :=
          let table := Table.ofEntries (entriesIn RequestLimit.assign? fetched .requestConcurrency)
          ⟨table,
            p.limits.inFlight.filter fun (name, n) => RequestLimits.governs table name || 0 < n⟩
        mockedTime := (contentOf fetched).mockedTime
        signingKeys := p.signingKeys.apply (contentOf fetched).keys
        emails := Table.ofEntries (entriesIn EmailGroup.assign? fetched .email)
        refreshedAt := some now } := by
  have mocks : ((contentOf fetched).mocks.map fun m => (m.route, m)) =
      entriesIn Mock.assign? fetched .router := List.map_filterMap
  have interceptors : (contentOf fetched).interceptors.filterMap id =
      entriesIn Interceptor.assign? fetched .httpServerInterceptor := List.filterMap_filterMap
  have limits : ((contentOf fetched).limits.map fun l => (l.name, l.max)) =
      entriesIn RequestLimit.assign? fetched .requestConcurrency := List.map_filterMap
  have emails : ((contentOf fetched).groups.map fun g => (g.name, g.list)) =
      entriesIn EmailGroup.assign? fetched .email := List.map_filterMap
  rw [Content.putOn, mocks, interceptors, RequestLimits.replace, limits, Emails.ofGroups, emails]
  rfl

structure NewestWins (fetched : List Row) (p : Plane) : Prop where
  gates : ∀ key g, p.gates.lookup key = some g →
    ∃ spec?, Decided GateSpec.assign? .routerConcurrency fetched key spec? ∧
      g.policy.rule = .ofSpec? spec? ∧
        ∀ spec, spec? = some spec → g.policy.descriptor = spec.descriptor
  mocks : ∀ key m?, Decided Mock.assign? .router fetched key m? ↔ p.mocks.lookup key = m?
  interceptors : ∀ key i?,
    Decided Interceptor.assign? .httpServerInterceptor fetched key i? ↔
      p.interceptors.lookup key = i?
  limits : ∀ name max?,
    Decided RequestLimit.assign? .requestConcurrency fetched name max? ↔
      p.limits.limit? name = max?
  emails : ∀ name list?,
    Decided EmailGroup.assign? .email fetched name list? ↔ p.emails.lookup name = list?

theorem decided_iff_lookup (assign? : String → Option (κ × α)) (c : Category) (k : κ)
    (x : Option α) :
    Decided assign? c fetched k x ↔
      (Table.ofEntries (entriesIn assign? fetched c)).lookup k = x := by
  have decided := decided_lookup assign? c fetched k
  rw [Table.lookup_ofEntries]
  constructor
  · exact decided.unique
  · rintro rfl
    exact decided

theorem newestWins_publish (faithful : p.gates.Faithful) :
    NewestWins fetched (p.publish now fetched).plane := by
  rw [Plane.publish_putOn, putOn_entries]
  refine ⟨fun key g found => ?_, ?_, ?_, ?_, ?_⟩
  · rw [Gates.lookup_apply] at found
    obtain ⟨old, registered, rfl⟩ := Option.map_eq_some_iff.mp found
    have decided := decided_lookup GateSpec.assign? .routerConcurrency fetched key
    rw [← Table.lookup_ofEntries] at decided
    have old_faithful : old.policy.Faithful := by
      obtain ⟨front, back, all, -⟩ := List.lookup_eq_some_iff.mp registered
      exact faithful (key, old) (by simp [all])
    refine ⟨_, decided, GatePolicy.rule_apply old_faithful now _, fun spec chosen => ?_⟩
    rw [chosen]
    exact old.policy.descriptor_update now spec
  · exact decided_iff_lookup fetched Mock.assign? .router
  · exact decided_iff_lookup fetched Interceptor.assign? .httpServerInterceptor
  · exact decided_iff_lookup fetched RequestLimit.assign? .requestConcurrency
  · exact decided_iff_lookup fetched EmailGroup.assign? .email

-- ---------------------------------------------------------------------------
-- Rows that are passed over

inductive Subject where
  | route (key : Route.Key)
  | name (text : String)
  deriving DecidableEq

/-- What a row is about, if it can be read and its category is about something. -/
def subject? (r : Row) : Option Subject :=
  match r.category with
  | .routerConcurrency => (GateSpec.assign? r.data).map fun entry => .route entry.1
  | .router => (Mock.assign? r.data).map fun entry => .route entry.1
  | .httpServerInterceptor => (Interceptor.assign? r.data).map fun entry => .route entry.1
  | .requestConcurrency => (RequestLimit.assign? r.data).map fun entry => .name entry.1
  | .email => (EmailGroup.assign? r.data).map fun entry => .name entry.1
  | _ => none

/-- Another row of the category is about the same: one that was fetched before and is not
older, or one that is newer. -/
def PassedOver (before : List Row) (r : Row) (after : List Row) : Prop :=
  ∃ subject, subject? r = some subject ∧
    ((∃ o ∈ before, o.category = r.category ∧ subject? o = some subject ∧
      ¬o.updatedAt.before r.updatedAt) ∨
    ∃ o ∈ after, o.category = r.category ∧ subject? o = some subject ∧
      r.updatedAt.before o.updatedAt)

theorem faults_of_subject? {r : Row} {subject : Subject} (h : subject? r = some subject) :
    faults r = [] := by
  have read : ∀ {β : Type} {result : Except PolicyError β},
      (result.toOption = none → subject? r = none) → refusal r result = [] := by
    intro β result unread
    cases result with
    | ok _ => rfl
    | error _ =>
      rw [unread rfl] at h
      cases h
  rw [faults]
  cases named : r.category with
  | routerConcurrency =>
    exact read fun unread => by simp [subject?, named, GateSpec.assign?, unread]
  | router => exact read fun unread => by simp [subject?, named, Mock.assign?, unread]
  | httpServerInterceptor =>
    exact read fun unread => by simp [subject?, named, Interceptor.assign?, unread]
  | requestConcurrency =>
    exact read fun unread => by simp [subject?, named, RequestLimit.assign?, unread]
  | email => exact read fun unread => by simp [subject?, named, EmailGroup.assign?, unread]
  | mockTime | blockIp | signedKey | unknown => simp [subject?, named] at h

def keyed : List Category :=
  [.routerConcurrency, .router, .httpServerInterceptor, .requestConcurrency, .email]

theorem mem_keyed_of_subject? {r : Row} {subject : Subject} (h : subject? r = some subject) :
    r.category ∈ keyed := by
  cases named : r.category with
  | mockTime | blockIp | signedKey | unknown => simp [subject?, named] at h
  | _ => decide

theorem subject?_of_mem_rejectedOf {x : RejectedRow} (h : x ∈ rejectedOf fetched) :
    subject? x.row = none := by
  have faulty : faults x.row ≠ [] := List.ne_nil_of_mem (mem_faults_of_mem h)
  rw [Option.eq_none_iff_forall_not_mem]
  intro subject named
  exact faulty (faults_of_subject? named)

theorem ofEntries_append_cons {front back : List (κ × α)} {k : κ} {a : α}
    (taken : (front.lookup k).isSome) :
    Table.ofEntries (front ++ (k, a) :: back) = Table.ofEntries (front ++ back) := by
  have passed : (Table.ofEntries front).addNew (k, a) = Table.ofEntries front := by
    rw [Table.addNew, Table.lookup_ofEntries, if_pos taken]
  simp only [Table.ofEntries, List.foldl_append, List.foldl_cons] at passed ⊢
  rw [passed]

section PassedOver

variable {before after : List Row} {r : Row}

theorem rowsIn_insert_other {c : Category} (other : r.category ≠ c) :
    rowsIn (before ++ r :: after) c = rowsIn (before ++ after) c := by
  obtain ⟨front, back, all, without, -, -⟩ := Row.exists_newestFirst_insert before r after
  rw [rowsIn, all, rowsIn, without]
  simp [other]

theorem PassedOver.exists_rowsIn (h : PassedOver before r after) :
    ∃ front back, rowsIn (before ++ r :: after) r.category = front ++ r :: back ∧
      rowsIn (before ++ after) r.category = front ++ back ∧
        ∃ o ∈ front, o.category = r.category ∧ subject? o = subject? r := by
  obtain ⟨front, back, all, without, earlier, later⟩ :=
    Row.exists_newestFirst_insert before r after
  refine ⟨front.filter (·.category = r.category), back.filter (·.category = r.category), ?_, ?_, ?_⟩
  · rw [rowsIn, all]
    simp
  · rw [rowsIn, without, List.filter_append]
  · obtain ⟨subject, named,
      ⟨o, mem, category, about, notOlder⟩ | ⟨o, mem, category, about, newer⟩⟩ := h
    · have ahead : o ∈ front := earlier o mem (by simpa [Row.newerOrEqual] using notOlder)
      exact ⟨o, List.mem_filter.mpr ⟨ahead, decide_eq_true category⟩, category,
        about.trans named.symm⟩
    · have ahead : o ∈ front := later o mem (by simpa [Row.newerOrEqual] using newer)
      exact ⟨o, List.mem_filter.mpr ⟨ahead, decide_eq_true category⟩, category,
        about.trans named.symm⟩

theorem PassedOver.table_eq (h : PassedOver before r after) (assign? : String → Option (κ × α))
    (c : Category) {subject : κ → Subject} (injective : Function.Injective subject)
    (about : ∀ o : Row, o.category = c →
      subject? o = (assign? o.data).map fun entry => subject entry.1) :
    Table.ofEntries (entriesIn assign? (before ++ r :: after) c) =
      Table.ofEntries (entriesIn assign? (before ++ after) c) := by
  by_cases own : r.category = c
  · subst own
    obtain ⟨front, back, all, without, o, ahead, category, same⟩ := h.exists_rowsIn
    obtain ⟨_, named, -⟩ := h
    obtain ⟨⟨k, a⟩, read, -⟩ := Option.map_eq_some_iff.mp ((about r rfl).symm.trans named)
    rw [about o category, about r rfl, read, Option.map_some] at same
    obtain ⟨⟨k', b⟩, read', key⟩ := Option.map_eq_some_iff.mp same
    obtain rfl : k' = k := injective key
    rw [entriesIn, all, entriesIn, without, List.filterMap_append, List.filterMap_cons, read,
      List.filterMap_append]
    refine ofEntries_append_cons ?_
    rw [Option.isSome_iff_ne_none, ne_eq, List.lookup_eq_none_iff]
    intro absent
    exact absurd rfl (bne_iff_ne.mp (absent (k', b) (List.mem_filterMap.mpr ⟨o, ahead, read'⟩)))
  · rw [entriesIn, rowsIn_insert_other own, entriesIn]

theorem PassedOver.rowsIn_eq (h : PassedOver before r after) {c : Category} (other : c ∉ keyed) :
    rowsIn (before ++ r :: after) c = rowsIn (before ++ after) c := by
  obtain ⟨_, named, -⟩ := h
  exact rowsIn_insert_other fun own => other (own ▸ mem_keyed_of_subject? named)

theorem PassedOver.rejectedOf_eq (h : PassedOver before r after) :
    rejectedOf (before ++ r :: after) = rejectedOf (before ++ after) := by
  have each : ∀ c, (rowsIn (before ++ r :: after) c).flatMap faults =
      (rowsIn (before ++ after) c).flatMap faults := by
    intro c
    by_cases own : r.category = c
    · subst own
      obtain ⟨front, back, all, without, -⟩ := h.exists_rowsIn
      obtain ⟨_, named, -⟩ := h
      rw [all, without]
      simp [faults_of_subject? named]
    · rw [rowsIn_insert_other own]
  simp only [rejectedOf, earlyOf, lateOf, each, h.rowsIn_eq (c := .mockTime) (by decide)]

theorem PassedOver.putOn_eq (h : PassedOver before r after) (p : Plane) (now : Nat) :
    (contentOf (before ++ r :: after)).putOn p now = (contentOf (before ++ after)).putOn p now := by
  have routes : Function.Injective Subject.route := fun _ _ same => Subject.route.inj same
  have names : Function.Injective Subject.name := fun _ _ same => Subject.name.inj same
  rw [putOn_entries, putOn_entries,
    h.table_eq GateSpec.assign? .routerConcurrency routes
      fun o named => by rw [subject?, named],
    h.table_eq Mock.assign? .router routes fun o named => by rw [subject?, named],
    h.table_eq Interceptor.assign? .httpServerInterceptor routes
      fun o named => by rw [subject?, named],
    h.table_eq RequestLimit.assign? .requestConcurrency names
      fun o named => by rw [subject?, named],
    h.table_eq EmailGroup.assign? .email names
      fun o named => by rw [subject?, named]]
  simp only [Content.blocked, contentOf, h.rowsIn_eq (c := .blockIp) (by decide),
    h.rowsIn_eq (c := .mockTime) (by decide), h.rowsIn_eq (c := .signedKey) (by decide)]

end PassedOver

end Control

-- ---------------------------------------------------------------------------
-- Runs

namespace Traffic

open Control Policy

theorem faithful_step {t : Traffic} (h : t.plane.gates.Faithful) (e : Event) :
    (t.step e).plane.gates.Faithful := by
  cases e with
  | endCycle fetched =>
    simp only [step]
    split
    next _ =>
      cases fetched with
      | error _ => exact h
      | ok rows =>
        have published : (t.endCycle (.ok rows)).plane =
            (t.plane.publish t.service.nanos rows).plane :=
          t.service.control.endCycle_plane t.service.nanos (.ok rows)
        rw [published, Plane.publish_gates]
        exact h.apply _ _
    next _ => exact h
  | update route spec => exact h.update route _ spec
  | reset route => exact h.reset route
  | apply batch => exact h.apply _ batch
  | _ => exact ((t.step_moved _).samePolicy rfl (by simp)).faithful h

theorem faithful_run {t : Traffic} (h : t.plane.gates.Faithful) (es : List Event) :
    (t.run es).plane.gates.Faithful := by
  induction es generalizing t with
  | nil => exact h
  | cons e es ih => exact ih (faithful_step h e)

/-- After every run a cycle that ends with rows puts in force what is decided about each
route and name: what the newest readable row about it tells, of one age the row fetched
first, and nothing where no row is about it. What it rejects is about nothing, so no row is
rejected for being passed over, and without a row that is passed over the same is in force
and rejected. A row is about the route whose key its router text spells. -/
theorem newest_wins (s : Service) (routes : List Route.Key) (defaults : List String)
    (center : AlarmCenter) (es : List Event) (now : Nat) (fetched : List Row) :
    let control := ((start s routes defaults center).run es).service.control
    let ended := (control.endCycle now (.ok fetched)).2
    NewestWins fetched ended.plane ∧
    (∀ x ∈ rejectedOf fetched, subject? x.row = none) ∧
    (∀ before r after, fetched = before ++ r :: after → PassedOver before r after →
      let without := (control.endCycle now (.ok (before ++ after))).2
      without.plane = ended.plane ∧
        without.lastReport.map Report.rejected = ended.lastReport.map Report.rejected) ∧
    RoutesSpelled := by
  intro control ended
  have faithful : control.plane.gates.Faithful :=
    faithful_run (t := start s routes defaults center) (Gates.faithful_ofRoutes routes) es
  have plane : ∀ rows, (control.endCycle now (.ok rows)).2.plane =
      (control.plane.publish now rows).plane := fun rows => control.endCycle_plane now (.ok rows)
  refine ⟨?_, fun x => subject?_of_mem_rejectedOf fetched, ?_, ?_⟩
  · rw [plane]
    exact newestWins_publish control.plane now fetched faithful
  · rintro before r after rfl passedOver
    have report : ∀ rows, (control.endCycle now (.ok rows)).2.lastReport.map Report.rejected =
        some (rejectedOf rows) := fun rows =>
      congrArg some (control.plane.publish_rejected now rows)
    refine ⟨?_, ?_⟩
    · rw [plane, plane, Plane.publish_putOn, Plane.publish_putOn, passedOver.putOn_eq]
    · rw [report, report, passedOver.rejectedOf_eq]
  · exact ⟨GateSpec.spells_iff_of_assign?, Mock.spells_iff_of_assign?,
      Interceptor.spells_iff_of_assign?⟩

end Traffic

end Tollgate
