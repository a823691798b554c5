import Mathlib.Data.List.Basic
import Mathlib.Data.List.Dedup
import Tollgate.Policy.Batch
import Tollgate.Policy.Table

/-!
# Laws of tables and batches

A table answers like the list of entries it was made from: the first entry of a key
decides, and its length is the number of keys. A batch has the rows of each category in
the order of the fetch.
-/

namespace Tollgate

variable {κ α β : Type}

-- ---------------------------------------------------------------------------
-- Numbers of things

/-- Exactly `n` things have a property. -/
def Numbers (P : α → Prop) (n : Nat) : Prop :=
  ∃ l : List α, l.Nodup ∧ (∀ a, a ∈ l ↔ P a) ∧ l.length = n

namespace Numbers

variable {P Q : α → Prop} {m n : Nat}

theorem unique (hm : Numbers P m) (hn : Numbers P n) : m = n := by
  obtain ⟨l, once, mem, rfl⟩ := hm
  obtain ⟨l', once', mem', rfl⟩ := hn
  have same : l.Perm l' :=
    (List.perm_ext_iff_of_nodup once once').mpr fun a => (mem a).trans (mem' a).symm
  exact same.length_eq

theorem congr (h : Numbers P n) (same : ∀ a, P a ↔ Q a) : Numbers Q n := by
  obtain ⟨l, once, mem, length⟩ := h
  exact ⟨l, once, fun a => (mem a).trans (same a), length⟩

theorem iff_eq (h : Numbers P m) : Numbers P n ↔ n = m :=
  ⟨fun other => other.unique h, fun same => same ▸ h⟩

theorem dedup [DecidableEq α] (l : List α) : Numbers (· ∈ l) l.dedup.length :=
  ⟨l.dedup, l.nodup_dedup, fun _ => List.mem_dedup, rfl⟩

end Numbers

theorem length_eq_dedup_iff [DecidableEq α] (l : List α) :
    l.length = l.dedup.length ↔ l.Nodup := by
  rw [← List.dedup_eq_self]
  constructor
  · intro same
    exact l.dedup_sublist.eq_of_length same.symm
  · intro same
    rw [same]

namespace Policy

-- ---------------------------------------------------------------------------
-- Look-ups

theorem lookup_map_snd [BEq κ] [LawfulBEq κ] (f : κ → α → β) (k : κ) (l : List (κ × α)) :
    (l.map fun (key, a) => (key, f key a)).lookup k = (l.lookup k).map (f k) := by
  induction l with
  | nil => rfl
  | cons entry rest ih =>
    obtain ⟨key, a⟩ := entry
    simp only [List.map_cons, List.lookup_cons, ih]
    split
    next h =>
      rw [beq_iff_eq] at h
      simp [h]
    next _ => rfl

section Keys

variable [DecidableEq κ]

theorem lookup_cons_ite (key k : κ) (a : α) (l : List (κ × α)) :
    ((key, a) :: l).lookup k = if k = key then some a else l.lookup k := by
  rw [List.lookup_cons]
  by_cases h : k = key
  · rw [if_pos h, beq_iff_eq.mpr h]
  · rw [if_neg h, beq_eq_false_iff_ne.mpr h]

theorem lookup_filter_other {k gone : κ} (other : k ≠ gone) (l : List (κ × α)) :
    (l.filter fun (key, _) => key ≠ gone).lookup k = l.lookup k := by
  induction l with
  | nil => rfl
  | cons entry rest ih =>
    obtain ⟨key, a⟩ := entry
    by_cases dropped : key = gone
    · rw [List.filter_cons_of_neg (by simp [dropped]), lookup_cons_ite, if_neg (dropped ▸ other), ih]
    · rw [List.filter_cons_of_pos (by simp [dropped]), lookup_cons_ite, lookup_cons_ite, ih]

end Keys

namespace Table

variable [BEq κ] [LawfulBEq κ]

theorem lookup_addNew (table : Table κ α) (entry : κ × α) (k : κ) :
    (table.addNew entry).lookup k = (table.lookup k).or ([entry].lookup k) := by
  obtain ⟨key, a⟩ := entry
  simp only [addNew]
  split
  next taken =>
    -- The key is taken, so the entry is passed over: for its own key the old value wins.
    by_cases h : k = key
    · subst h
      obtain ⟨old, found⟩ := Option.isSome_iff_exists.mp taken
      simp [found]
    · have other : (k == key) = false := beq_eq_false_iff_ne.mpr h
      simp [List.lookup_cons, other]
  next _ => exact List.lookup_append

theorem lookup_foldl_addNew (entries : List (κ × α)) (table : Table κ α) (k : κ) :
    (entries.foldl addNew table).lookup k = (table.lookup k).or (entries.lookup k) := by
  induction entries generalizing table with
  | nil => simp
  | cons entry rest ih =>
    have first : ([entry] ++ rest).lookup k = ([entry].lookup k).or (rest.lookup k) :=
      List.lookup_append
    rw [List.singleton_append] at first
    rw [List.foldl_cons, ih, lookup_addNew, first, Option.or_assoc]

theorem lookup_ofEntries (entries : List (κ × α)) (k : κ) :
    (ofEntries entries).lookup k = entries.lookup k := by
  rw [ofEntries, lookup_foldl_addNew, List.lookup_nil, Option.none_or]

theorem isSome_lookup_iff {table : Table κ α} {k : κ} :
    (table.lookup k).isSome ↔ k ∈ table.map Prod.fst := by
  simp only [List.lookup_isSome_iff, beq_iff_eq, List.mem_map]
  exact exists_congr fun entry => and_congr_right fun _ => eq_comm

theorem lookup_ofEntries_eq_none {entries : List (κ × α)} {k : κ}
    (absent : ∀ a, (k, a) ∉ entries) : (ofEntries entries).lookup k = none := by
  rw [lookup_ofEntries, List.lookup_eq_none_iff]
  rintro ⟨key, a⟩ mem
  rw [bne_iff_ne]
  rintro rfl
  exact absent a mem

theorem nodup_addNew {table : Table κ α} (once : (table.map Prod.fst).Nodup) (entry : κ × α) :
    ((table.addNew entry).map Prod.fst).Nodup := by
  rw [addNew]
  split
  next _ => exact once
  next absent =>
    rw [isSome_lookup_iff] at absent
    rw [List.map_append, List.map_singleton, ← List.concat_eq_append]
    exact once.concat absent

theorem nodup_ofEntries (entries : List (κ × α)) : ((ofEntries entries).map Prod.fst).Nodup := by
  suffices all : ∀ table : Table κ α, (table.map Prod.fst).Nodup →
      ((entries.foldl addNew table).map Prod.fst).Nodup from all [] List.nodup_nil
  induction entries with
  | nil => exact fun _ once => once
  | cons entry rest ih => exact fun table once => ih _ (nodup_addNew once entry)

theorem numbers_ofEntries (entries : List (κ × α)) :
    Numbers (fun k => ((ofEntries entries).lookup k).isSome) (ofEntries entries).length :=
  ⟨(ofEntries entries).map Prod.fst, nodup_ofEntries entries, fun _ => isSome_lookup_iff.symm,
    List.length_map _⟩

theorem numbers_ofEntries_iff [DecidableEq κ] (entries : List (κ × α)) :
    Numbers (fun k => ((ofEntries entries).lookup k).isSome) entries.length ↔
      (entries.map Prod.fst).Nodup := by
  have keys : Numbers (fun k => ((ofEntries entries).lookup k).isSome)
      (entries.map Prod.fst).dedup.length :=
    (Numbers.dedup _).congr fun k => by rw [lookup_ofEntries, isSome_lookup_iff]
  rw [keys.iff_eq, ← length_eq_dedup_iff, List.length_map]

end Table

theorem mem_accepted {results : List (Except PolicyError α)} {a : α} :
    a ∈ accepted results ↔ .ok a ∈ results := by
  induction results with
  | nil => simp [accepted]
  | cons result rest ih => cases result <;> simp [accepted, ih]

-- ---------------------------------------------------------------------------
-- Sorted lists

section Sorted

variable [DecidableEq κ] (lt : κ → κ → Bool)

theorem lookup_putSorted (key k : κ) (a : α) (l : List (κ × α)) :
    (putSorted lt key a l).lookup k = if k = key then some a else l.lookup k := by
  induction l with
  | nil => rw [putSorted, lookup_cons_ite]
  | cons entry rest ih =>
    obtain ⟨first, b⟩ := entry
    simp only [putSorted]
    split
    next same =>
      subst same
      rw [lookup_cons_ite, lookup_cons_ite]
      split <;> rfl
    next other =>
      split
      next _ => rw [lookup_cons_ite]
      next _ =>
        rw [lookup_cons_ite, lookup_cons_ite, ih]
        by_cases h : k = first
        · rw [if_pos h, if_pos h, if_neg (h ▸ Ne.symm other)]
        · rw [if_neg h, if_neg h]

theorem mem_putSorted {key : κ} {a : α} {l : List (κ × α)} {entry : κ × α}
    (h : entry ∈ putSorted lt key a l) : entry = (key, a) ∨ entry ∈ l := by
  induction l with
  | nil => exact .inl (List.mem_singleton.mp h)
  | cons first rest ih =>
    simp only [putSorted] at h
    split at h
    next _ => exact (List.mem_cons.mp h).imp_right (List.mem_cons_of_mem _)
    next _ =>
      split at h
      next _ => exact List.mem_cons.mp h
      next _ =>
        rcases List.mem_cons.mp h with rfl | later
        · exact .inr List.mem_cons_self
        · exact (ih later).imp_right (List.mem_cons_of_mem _)

def KeysUp (l : List (κ × α)) : Prop :=
  l.Pairwise fun a b => lt a.1 b.1

variable {lt}

theorem KeysUp.putSorted {l : List (κ × α)} (h : KeysUp lt l)
    (trans : ∀ {a b c}, lt a b → lt b c → lt a c) (total : ∀ {a b}, a ≠ b → ¬lt a b → lt b a)
    (key : κ) (a : α) : KeysUp lt (putSorted lt key a l) := by
  induction l with
  | nil => exact List.pairwise_singleton _ _
  | cons entry rest ih =>
    obtain ⟨first, b⟩ := entry
    obtain ⟨below, up⟩ := List.pairwise_cons.mp h
    simp only [Policy.putSorted]
    split
    next same =>
      subst same
      exact .cons below up
    next other =>
      split
      next less =>
        refine .cons (fun entry mem => ?_) h
        rcases List.mem_cons.mp mem with rfl | mem
        · exact less
        · exact trans less (below entry mem)
      next notLess =>
        refine .cons (fun entry mem => ?_) (ih up)
        rcases mem_putSorted lt mem with rfl | mem
        · exact total other notLess
        · exact below entry mem

theorem KeysUp.putName {l : List (String × α)} (h : KeysUp (fun a b : String => a < b) l)
    (name : String) (a : α) :
    KeysUp (fun a b : String => a < b) (Policy.putSorted (fun a b : String => a < b) name a l) := by
  refine h.putSorted ?_ ?_ name a
  · intro a b c
    simpa using String.lt_trans
  · intro a b other
    simp only [decide_eq_true_eq]
    rcases Std.lt_trichotomy a b with less | same | greater
    · exact fun notLess => absurd less notLess
    · exact absurd same other
    · exact fun _ => greater

theorem KeysUp.lookup_eq_none {key : κ} {a : α} {rest : List (κ × α)}
    (h : KeysUp lt ((key, a) :: rest)) (irrefl : ∀ a, ¬lt a a) : rest.lookup key = none := by
  obtain ⟨below, -⟩ := List.pairwise_cons.mp h
  rw [List.lookup_eq_none_iff]
  intro entry mem
  rw [bne_iff_ne]
  intro same
  have less := below entry mem
  rw [← same] at less
  exact irrefl key less

theorem KeysUp.lookup_eq_some_iff {l : List (κ × α)} (h : KeysUp lt l) (irrefl : ∀ a, ¬lt a a)
    {k : κ} {a : α} : l.lookup k = some a ↔ (k, a) ∈ l := by
  induction l with
  | nil => simp
  | cons entry rest ih =>
    obtain ⟨key, b⟩ := entry
    have up := ih (List.pairwise_cons.mp h).2
    rw [lookup_cons_ite, List.mem_cons, Prod.mk.injEq]
    by_cases same : k = key
    · subst same
      have absent := h.lookup_eq_none irrefl
      rw [absent] at up
      simp only [true_and, if_true, Option.some_inj, ← up, reduceCtorEq, or_false]
      exact eq_comm
    · rw [if_neg same, up]
      simp [same]

theorem KeysUp.lookup_filter {l : List (κ × α)} (h : KeysUp lt l) (irrefl : ∀ a, ¬lt a a)
    (p : κ × α → Bool) (k : κ) :
    (l.filter p).lookup k = (l.lookup k).filter fun a => p (k, a) := by
  induction l with
  | nil => rfl
  | cons entry rest ih =>
    obtain ⟨key, a⟩ := entry
    have up := (List.pairwise_cons.mp h).2
    rw [List.filter_cons, lookup_cons_ite]
    by_cases same : k = key
    · subst same
      cases passes : p (k, a) with
      | true => simp [Option.filter, passes]
      | false => simp [Option.filter, passes, ih up, h.lookup_eq_none irrefl]
    · rw [if_neg same, ← ih up]
      split
      next _ => rw [lookup_cons_ite, if_neg same]
      next _ => rfl

end Sorted

-- ---------------------------------------------------------------------------
-- Batches

namespace Batch

def rowsOf (b : Batch) : Category → List Row
  | .blockIp => b.blockIp
  | .routerConcurrency => b.routerConcurrency
  | .router => b.router
  | .requestConcurrency => b.requestConcurrency
  | .email => b.email
  | .httpServerInterceptor => b.interceptor
  | .mockTime => b.mockTime.toList
  | .signedKey => b.signedKey.toList
  | .unknown => []

theorem mem_of_mem_rowsOf {c : Category} {r : Row} {rows : List Row}
    (h : r ∈ (ofRows rows).rowsOf c) : r ∈ rows ∧ r.category = c := by
  induction rows with
  | nil => cases c <;> simp [ofRows, empty, rowsOf] at h
  | cons first rest ih =>
    have step : r ∈ (cons first (ofRows rest)).rowsOf c := h
    have cases_of : (r = first ∧ first.category = c) ∨ r ∈ (ofRows rest).rowsOf c := by
      cases hc : first.category <;> cases c <;> simp_all only [cons, rowsOf] <;> grind
    rcases cases_of with ⟨rfl, category⟩ | old
    · exact ⟨List.mem_cons_self, category⟩
    · exact ⟨List.mem_cons_of_mem _ (ih old).1, (ih old).2⟩

end Batch

end Policy

end Tollgate
