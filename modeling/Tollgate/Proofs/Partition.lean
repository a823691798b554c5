import Tollgate.Proofs.Batches

/-!
# Partition

A batch is made of all the rows that were fetched. A category that keeps all its rows has
exactly those of the category, each as often as it was fetched, newest first and rows of one
age in the order in which they were fetched. Mocked times and signing keys have the first row
of that order, or none if none was fetched. Rows of categories that are not understood are
nowhere, and without them the batch is the same. There is only one batch like this.
-/

namespace Tollgate.Policy

namespace Row

-- ---------------------------------------------------------------------------
-- The order of rows

structure InOrder (rows sorted : List Row) : Prop where
  /-- They are there as often as in the list. -/
  perm : sorted.Perm rows
  newest : sorted.Pairwise fun a b => ¬a.updatedAt.before b.updatedAt
  /-- Those of one age stand as in the list. -/
  ties : ∀ age, sorted.filter (·.updatedAt = age) = rows.filter (·.updatedAt = age)

theorem newestFirst_of_age {rows : List Row} {age : Time.Instant}
    (same : ∀ r ∈ rows, r.updatedAt = age) : newestFirst rows = rows := by
  refine List.mergeSort_of_pairwise (List.pairwise_of_forall_mem_list fun a memA b memB => ?_)
  simp [newerOrEqual, same a memA, same b memB, Time.Instant.before]

theorem inOrder_newestFirst (rows : List Row) : InOrder rows (newestFirst rows) where
  perm := List.mergeSort_perm rows newerOrEqual
  newest := (pairwise_newestFirst rows).imp fun h => by simpa [newerOrEqual] using h
  ties age := by
    rw [← newestFirst_filter]
    exact newestFirst_of_age fun r mem => by simpa using (List.mem_filter.mp mem).2

theorem InOrder.filter {rows sorted : List Row} (h : InOrder rows sorted) (p : Row → Bool) :
    InOrder (rows.filter p) (sorted.filter p) where
  perm := h.perm.filter p
  newest := h.newest.filter p
  ties age := by rw [List.filter_comm, h.ties age, List.filter_comm]

theorem eq_of_ties {xs ys : List Row}
    (newestX : xs.Pairwise fun a b => ¬a.updatedAt.before b.updatedAt)
    (newestY : ys.Pairwise fun a b => ¬a.updatedAt.before b.updatedAt)
    (ties : ∀ age, xs.filter (·.updatedAt = age) = ys.filter (·.updatedAt = age)) : xs = ys := by
  have mem : ∀ r, r ∈ xs ↔ r ∈ ys := fun r => by
    have same : r ∈ xs.filter (·.updatedAt = r.updatedAt) ↔
        r ∈ ys.filter (·.updatedAt = r.updatedAt) := by rw [ties]
    simpa using same
  induction xs generalizing ys with
  | nil =>
    cases ys with
    | nil => rfl
    | cons y ys => exact absurd ((mem y).mpr List.mem_cons_self) List.not_mem_nil
  | cons x xs ih =>
    cases ys with
    | nil => exact absurd ((mem x).mp List.mem_cons_self) List.not_mem_nil
    | cons y ys =>
      obtain ⟨firstX, restX⟩ := List.pairwise_cons.mp newestX
      obtain ⟨firstY, restY⟩ := List.pairwise_cons.mp newestY
      -- Each of the two first rows is in the other list, and so not newer than its first row.
      have age : x.updatedAt = y.updatedAt := by
        by_contra differ
        have behindY : x ∈ ys :=
          (List.mem_cons.mp ((mem x).mp List.mem_cons_self)).resolve_left
            fun same => differ (congrArg updatedAt same)
        have behindX : y ∈ xs :=
          (List.mem_cons.mp ((mem y).mpr List.mem_cons_self)).resolve_left
            fun same => differ (congrArg updatedAt same).symm
        have notNewer : x.updatedAt.before y.updatedAt = false :=
          Bool.eq_false_iff.mpr (firstX y behindX)
        exact firstY x behindY (Time.Instant.before_of_ne differ notNewer)
      have first := ties x.updatedAt
      rw [List.filter_cons_of_pos (by simp), List.filter_cons_of_pos (by simp [age])] at first
      obtain ⟨rfl, -⟩ := List.cons.inj first
      have rest : ∀ age, xs.filter (·.updatedAt = age) = ys.filter (·.updatedAt = age) := by
        intro age
        have same := ties age
        rw [List.filter_cons, List.filter_cons] at same
        split at same
        · exact (List.cons.inj same).2
        · exact same
      refine congrArg (x :: ·) (ih restX restY rest fun r => ?_)
      have same : r ∈ xs.filter (·.updatedAt = r.updatedAt) ↔
          r ∈ ys.filter (·.updatedAt = r.updatedAt) := by rw [rest]
      simpa using same

theorem InOrder.unique {rows xs ys : List Row} (hx : InOrder rows xs) (hy : InOrder rows ys) :
    xs = ys :=
  eq_of_ties hx.newest hy.newest fun age => (hx.ties age).trans (hy.ties age).symm

/-- The newest row of a category, of those of its age the one that was fetched first, or none
without such a row. -/
def IsNewest (rows : List Row) (c : Category) (newest? : Option Row) : Prop :=
  ∃ sorted, InOrder (rows.filter (·.category = c)) sorted ∧ newest? = sorted.head?

theorem IsNewest.unique {rows : List Row} {c : Category} {r? s? : Option Row}
    (hr : IsNewest rows c r?) (hs : IsNewest rows c s?) : r? = s? := by
  obtain ⟨xs, inOrder, rfl⟩ := hr
  obtain ⟨ys, inOrder', rfl⟩ := hs
  rw [inOrder.unique inOrder']

theorem IsNewest.eq_none_iff {rows : List Row} {c : Category} {newest? : Option Row}
    (h : IsNewest rows c newest?) : newest? = none ↔ ∀ r ∈ rows, r.category ≠ c := by
  obtain ⟨sorted, inOrder, rfl⟩ := h
  rw [List.head?_eq_none_iff, ← List.length_eq_zero_iff, inOrder.perm.length_eq,
    List.length_eq_zero_iff, List.filter_eq_nil_iff]
  simp

end Row

namespace Batch

-- ---------------------------------------------------------------------------
-- What a batch holds

/-- A batch holds what was fetched: of a category that keeps all its rows all of them in
order, of any other the newest. -/
structure Holds (b : Batch) (fetched : List Row) : Prop where
  lists : ∀ c ∈ keepsAll, Row.InOrder (fetched.filter (·.category = c)) (b.rowsOf c)
  mockTime : Row.IsNewest fetched .mockTime b.mockTime
  signedKey : Row.IsNewest fetched .signedKey b.signedKey

theorem Holds.unique {b other : Batch} {fetched : List Row} (h : b.Holds fetched)
    (h' : other.Holds fetched) : other = b := by
  have mockTime := h'.mockTime.unique h.mockTime
  have signedKey := h'.signedKey.unique h.signedKey
  have lists : ∀ c ∈ keepsAll, other.rowsOf c = b.rowsOf c := fun c kept =>
    (h'.lists c kept).unique (h.lists c kept)
  simp only [keepsAll, List.forall_mem_cons, rowsOf] at lists
  obtain ⟨gates, mocks, blocked, interceptors, limits, emails, -⟩ := lists
  cases b
  cases other
  simp_all

theorem holds_ofRows (fetched : List Row) : (ofRows (Row.newestFirst fetched)).Holds fetched where
  lists c kept := by
    rw [rowsOf_ofRows kept]
    exact (Row.inOrder_newestFirst fetched).filter _
  mockTime := ⟨_, (Row.inOrder_newestFirst fetched).filter _, mockTime_ofRows _⟩
  signedKey := ⟨_, (Row.inOrder_newestFirst fetched).filter _, signedKey_ofRows _⟩

theorem ofRows_filter_known (rows : List Row) :
    ofRows (rows.filter (·.category ≠ .unknown)) = ofRows rows := by
  induction rows with
  | nil => rfl
  | cons r rest ih =>
    rw [List.filter_cons]
    split
    next _ => rw [ofRows_cons, ofRows_cons, ih]
    next unknown =>
      have named : r.category = .unknown := by simpa using unknown
      rw [ih, ofRows_cons, cons, named]

-- ---------------------------------------------------------------------------
-- One row after another

/-- Puts a row behind those of its category. A setting that is there stays. -/
def add (b : Batch) (r : Row) : Batch :=
  match r.category with
  | .mockTime => { b with mockTime := b.mockTime.or (some r) }
  | .signedKey => { b with signedKey := b.signedKey.or (some r) }
  | .blockIp => { b with blockIp := b.blockIp ++ [r] }
  | .routerConcurrency => { b with routerConcurrency := b.routerConcurrency ++ [r] }
  | .router => { b with router := b.router ++ [r] }
  | .requestConcurrency => { b with requestConcurrency := b.requestConcurrency ++ [r] }
  | .email => { b with email := b.email ++ [r] }
  | .httpServerInterceptor => { b with interceptor := b.interceptor ++ [r] }
  | .unknown => b

def append (b later : Batch) : Batch :=
  ⟨b.mockTime.or later.mockTime, b.signedKey.or later.signedKey, b.blockIp ++ later.blockIp,
    b.routerConcurrency ++ later.routerConcurrency, b.router ++ later.router,
    b.requestConcurrency ++ later.requestConcurrency, b.email ++ later.email,
    b.interceptor ++ later.interceptor⟩

theorem append_cons (b later : Batch) (r : Row) :
    b.append (cons r later) = (b.add r).append later := by
  cases named : r.category <;> simp [append, cons, add, named]

theorem foldl_add (b : Batch) (rows : List Row) : rows.foldl add b = b.append (ofRows rows) := by
  induction rows generalizing b with
  | nil => simp [ofRows, empty, append]
  | cons r rest ih => rw [List.foldl_cons, ih, ofRows_cons, append_cons]

theorem ofRows_eq_foldl (rows : List Row) : ofRows rows = rows.foldl add empty := by
  rw [foldl_add]
  simp [append, empty]

-- ---------------------------------------------------------------------------
-- All of it

/-- Whatever was fetched, sorting it and adding one row after another gives the one batch that
holds it: nothing is lost or made up, and the order is kept. A setting is missing exactly if
no row of its category was fetched. What is in the batch under a category was fetched, under
this category, which is one that is understood; and without the other rows the batch is the
same. -/
theorem partition_exact (fetched : List Row) :
    let b := ofRows (Row.newestFirst fetched)
    b = (Row.newestFirst fetched).foldl add empty ∧
      b.Holds fetched ∧ (∀ other : Batch, other.Holds fetched → other = b) ∧
      (b.mockTime = none ↔ ∀ r ∈ fetched, r.category ≠ .mockTime) ∧
      (b.signedKey = none ↔ ∀ r ∈ fetched, r.category ≠ .signedKey) ∧
      (∀ c, ∀ r ∈ b.rowsOf c, r ∈ fetched ∧ r.category = c ∧ c ≠ .unknown) ∧
      ofRows (Row.newestFirst (fetched.filter (·.category ≠ .unknown))) = b := by
  intro b
  have holds : b.Holds fetched := holds_ofRows fetched
  refine ⟨ofRows_eq_foldl _, holds, fun other => holds.unique, holds.mockTime.eq_none_iff,
    holds.signedKey.eq_none_iff, fun c r mem => ?_, ?_⟩
  · obtain ⟨sorted, named⟩ := mem_of_mem_rowsOf mem
    refine ⟨Row.mem_newestFirst.mp sorted, named, ?_⟩
    rintro rfl
    cases mem
  · rw [Row.newestFirst_filter, ofRows_filter_known]

end Batch

end Tollgate.Policy
