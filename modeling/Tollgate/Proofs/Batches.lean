import Tollgate.Proofs.Tables

/-!
# The rows of a category

Rows are sorted newest first, and rows of one age keep their order. Leaving rows out
before sorting is leaving them out afterwards. So a batch holds the rows of each category
newest first, and of a category that has only one setting the newest row.
-/

namespace Tollgate

namespace Time.Instant

theorem before_of_ne {i j : Instant} (differ : i ≠ j) (notBefore : i.before j = false) :
    j.before i := by
  have parts : i.second = j.second → i.nano ≠ j.nano := by
    intro seconds nanos
    apply differ
    cases i
    cases j
    rw [mk.injEq]
    exact ⟨seconds, nanos⟩
  simp only [before, Bool.or_eq_true, Bool.or_eq_false_iff, Bool.and_eq_true,
    Bool.and_eq_false_iff, decide_eq_true_eq, decide_eq_false_iff_not, beq_iff_eq,
    beq_eq_false_iff_ne] at notBefore ⊢
  omega

theorem not_before_of_before {i j : Instant} (h : i.before j) : j.before i = false := by
  simp only [before, Bool.or_eq_true, Bool.or_eq_false_iff, Bool.and_eq_true,
    Bool.and_eq_false_iff, decide_eq_true_eq, decide_eq_false_iff_not, beq_iff_eq,
    beq_eq_false_iff_ne] at h ⊢
  omega

end Time.Instant

namespace Policy

namespace Row

theorem newerOrEqual_trans (a b c : Row) (ab : newerOrEqual a b) (bc : newerOrEqual b c) :
    newerOrEqual a c := by
  simp only [newerOrEqual, Time.Instant.before, Bool.not_eq_eq_eq_not, Bool.not_true,
    Bool.or_eq_false_iff, Bool.and_eq_false_iff, decide_eq_false_iff_not, beq_eq_false_iff_ne] at *
  omega

theorem newerOrEqual_total (a b : Row) : newerOrEqual a b || newerOrEqual b a := by
  simp only [newerOrEqual, Time.Instant.before, Bool.or_eq_true, Bool.not_eq_eq_eq_not,
    Bool.not_true, Bool.or_eq_false_iff, Bool.and_eq_false_iff, decide_eq_false_iff_not,
    beq_eq_false_iff_ne]
  omega

theorem pairwise_newestFirst (rows : List Row) :
    (newestFirst rows).Pairwise fun a b => newerOrEqual a b :=
  List.pairwise_mergeSort newerOrEqual_trans newerOrEqual_total rows

theorem mem_newestFirst {rows : List Row} {r : Row} : r ∈ newestFirst rows ↔ r ∈ rows :=
  List.mem_mergeSort

theorem exists_newestFirst_cons (r : Row) (rows : List Row) :
    ∃ newer others,
      newestFirst rows = newer ++ others ∧ newestFirst (r :: rows) = newer ++ r :: others ∧
        (∀ o ∈ newer, !newerOrEqual r o) ∧ ∀ o ∈ others, newerOrEqual r o := by
  obtain ⟨newer, others, all, without, before⟩ :=
    List.mergeSort_cons newerOrEqual_trans newerOrEqual_total r rows
  have sorted := pairwise_newestFirst (r :: rows)
  rw [newestFirst, all] at sorted
  have behind : ∀ o ∈ others, newerOrEqual r o :=
    (List.pairwise_cons.mp (List.pairwise_append.mp sorted).2.1).1
  exact ⟨newer, others, without, all, before, behind⟩

theorem eq_filter_of_age {r : Row} {newer others : List Row}
    (before : ∀ o ∈ newer, !newerOrEqual r o) (behind : ∀ o ∈ others, newerOrEqual r o) :
    newer = (newer ++ others).filter (fun o => !newerOrEqual r o) ∧
      others = (newer ++ others).filter (newerOrEqual r) := by
  have noNewer : newer.filter (newerOrEqual r) = [] :=
    List.filter_eq_nil_iff.mpr fun o mem => by simpa using before o mem
  have noOthers : others.filter (fun o => !newerOrEqual r o) = [] :=
    List.filter_eq_nil_iff.mpr fun o mem => by simpa using behind o mem
  rw [List.filter_append, List.filter_append, noNewer, noOthers, List.filter_eq_self.mpr before,
    List.filter_eq_self.mpr behind, List.append_nil, List.nil_append]
  exact ⟨rfl, rfl⟩

theorem newestFirst_filter (p : Row → Bool) (rows : List Row) :
    newestFirst (rows.filter p) = (newestFirst rows).filter p := by
  induction rows with
  | nil => simp [newestFirst]
  | cons r rest ih =>
    obtain ⟨newer, others, without, all, before, behind⟩ := exists_newestFirst_cons r rest
    rw [all, List.filter_append, List.filter_cons, List.filter_cons]
    rw [without, List.filter_append] at ih
    split
    next _ =>
      obtain ⟨newer', others', without', all', before', behind'⟩ :=
        exists_newestFirst_cons r (rest.filter p)
      -- Both cuts are at the age of the row, and of the same list.
      have cut' := eq_filter_of_age before' behind'
      have keptBefore : ∀ o ∈ newer.filter p, !newerOrEqual r o :=
        fun o mem => before o (List.mem_filter.mp mem).1
      have keptBehind : ∀ o ∈ others.filter p, newerOrEqual r o :=
        fun o mem => behind o (List.mem_filter.mp mem).1
      have cut := eq_filter_of_age keptBefore keptBehind
      rw [← without', ih] at cut'
      rw [all', cut'.1, cut'.2, ← cut.1, ← cut.2]
    next _ => exact ih

/-- The row that comes first was fetched after strictly older ones only, and before none that
are newer. -/
theorem of_head?_newestFirst {rows : List Row} {r : Row}
    (first : (newestFirst rows).head? = some r) :
    ∃ before after, rows = before ++ r :: after ∧ (∀ o ∈ before, !newerOrEqual o r) ∧
      ∀ o ∈ after, newerOrEqual r o := by
  induction rows with
  | nil => simp [newestFirst] at first
  | cons x rest ih =>
    obtain ⟨newer, others, without, all, before, behind⟩ := exists_newestFirst_cons x rest
    cases newer with
    | nil =>
      rw [all, List.nil_append, List.head?_cons, Option.some_inj] at first
      subst first
      refine ⟨[], rest, rfl, by simp, fun o mem => behind o ?_⟩
      rwa [← mem_newestFirst, without, List.nil_append] at mem
    | cons y newer =>
      rw [all, List.cons_append, List.head?_cons, Option.some_inj] at first
      subst first
      obtain ⟨front, back, rfl, older, others⟩ := ih (by rw [without]; rfl)
      exact ⟨x :: front, back, rfl,
        List.forall_mem_cons.mpr ⟨before y List.mem_cons_self, older⟩, others⟩

theorem exists_newestFirst_cons_insert {rows others front back : List Row} {r : Row}
    (all : newestFirst rows = front ++ r :: back) (without : newestFirst others = front ++ back)
    (b : Row) :
    ∃ front' back', newestFirst (b :: rows) = front' ++ r :: back' ∧
      newestFirst (b :: others) = front' ++ back' ∧
        (newerOrEqual b r → b ∈ front') ∧ ∀ o ∈ front, newerOrEqual o r → o ∈ front' := by
  obtain ⟨newer, older, eq, eq', old, young⟩ := exists_newestFirst_cons b rows
  obtain ⟨newer', older', cut, cut', old', young'⟩ := exists_newestFirst_cons b others
  -- Both lists are cut at the age of `b`.
  obtain ⟨newer_eq, older_eq⟩ := eq_filter_of_age old young
  obtain ⟨newer'_eq, older'_eq⟩ := eq_filter_of_age old' young'
  rw [← eq, all, List.filter_append, List.filter_cons] at newer_eq older_eq
  rw [← cut, without, List.filter_append] at newer'_eq older'_eq
  rw [eq', cut', newer_eq, older_eq, newer'_eq, older'_eq]
  let newerThan (rows : List Row) := rows.filter fun o => !newerOrEqual b o
  let notNewer (rows : List Row) := rows.filter (newerOrEqual b)
  by_cases reached : newerOrEqual b r
  · refine ⟨newerThan front ++ newerThan back ++ b :: notNewer front, notNewer back,
      by simp [newerThan, notNewer, reached], by simp [newerThan, notNewer], by simp, ?_⟩
    intro o mem _
    by_cases behind : newerOrEqual b o
    · simp [notNewer, mem, behind]
    · simp [newerThan, mem, behind]
  · refine ⟨newerThan front, newerThan back ++ b :: (notNewer front ++ notNewer back),
      by simp [newerThan, notNewer, reached], by simp [newerThan, notNewer],
      fun newer => absurd newer reached, fun o mem newer => ?_⟩
    cases behind : newerOrEqual b o with
    | false => exact List.mem_filter.mpr ⟨mem, by simp [behind]⟩
    | true => exact absurd (newerOrEqual_trans b o r behind newer) reached

/-- A further row leaves the order of the others, and has those before it that were fetched
earlier and are not older, and those that are newer. -/
theorem exists_newestFirst_insert (before : List Row) (r : Row) (after : List Row) :
    ∃ front back, newestFirst (before ++ r :: after) = front ++ r :: back ∧
      newestFirst (before ++ after) = front ++ back ∧
        (∀ o ∈ before, newerOrEqual o r → o ∈ front) ∧
          ∀ o ∈ after, !newerOrEqual r o → o ∈ front := by
  induction before with
  | nil =>
    obtain ⟨newer, others, without, all, -, behind⟩ := exists_newestFirst_cons r after
    refine ⟨newer, others, all, without, by simp, fun o mem newest => ?_⟩
    rw [← mem_newestFirst, without, List.mem_append] at mem
    rcases mem with mem | mem
    · exact mem
    · simp [behind o mem] at newest
  | cons b before ih =>
    obtain ⟨front, back, all, without, earlier, later⟩ := ih
    obtain ⟨front', back', all', without', own, kept⟩ :=
      exists_newestFirst_cons_insert all without b
    refine ⟨front', back', all', without', ?_, fun o mem newest => ?_⟩
    · exact List.forall_mem_cons.mpr ⟨own, fun o mem newer => kept o (earlier o mem newer) newer⟩
    · have older : newerOrEqual r o = false := by simpa using newest
      have newer := newerOrEqual_total o r
      rw [older, Bool.or_false] at newer
      exact kept o (later o mem newest) newer

end Row

namespace Batch

theorem ofRows_cons (r : Row) (rest : List Row) : ofRows (r :: rest) = cons r (ofRows rest) :=
  rfl

/-- The categories that keep all their rows. -/
def keepsAll : List Category :=
  [.routerConcurrency, .router, .blockIp, .httpServerInterceptor, .requestConcurrency, .email]

theorem rowsOf_cons_other {r : Row} {c : Category} (h : r.category ≠ c) (b : Batch) :
    (cons r b).rowsOf c = b.rowsOf c := by
  cases named : r.category <;> cases c <;> simp_all [cons, rowsOf]

theorem rowsOf_cons_own {r : Row} (h : r.category ∈ keepsAll) (b : Batch) :
    (cons r b).rowsOf r.category = r :: b.rowsOf r.category := by
  cases named : r.category <;> simp_all [cons, rowsOf, keepsAll]

theorem rowsOf_ofRows {c : Category} (h : c ∈ keepsAll) (rows : List Row) :
    (ofRows rows).rowsOf c = rows.filter (·.category = c) := by
  induction rows with
  | nil => cases c <;> rfl
  | cons r rest ih =>
    rw [ofRows_cons, List.filter_cons, ← ih]
    by_cases own : r.category = c
    · subst own
      rw [rowsOf_cons_own h, if_pos (decide_eq_true rfl)]
    · rw [rowsOf_cons_other own, if_neg (by simpa using own)]

theorem mockTime_ofRows (rows : List Row) :
    (ofRows rows).mockTime = (rows.filter (·.category = .mockTime)).head? := by
  induction rows with
  | nil => rfl
  | cons r rest ih =>
    rw [ofRows_cons, List.filter_cons]
    cases named : r.category <;> simp [cons, named, ih]

theorem signedKey_ofRows (rows : List Row) :
    (ofRows rows).signedKey = (rows.filter (·.category = .signedKey)).head? := by
  induction rows with
  | nil => rfl
  | cons r rest ih =>
    rw [ofRows_cons, List.filter_cons]
    cases named : r.category <;> simp [cons, named, ih]

end Batch

end Policy

end Tollgate
