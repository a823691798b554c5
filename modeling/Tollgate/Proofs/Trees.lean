import Tollgate.Json.Tree
import Tollgate.Proofs.Readers
import Tollgate.Proofs.Words

/-!
# Trees of whole texts

A machine that stops leaves a tree that cannot be skimmed. So a tree that can be skimmed is
complete, and the tokens that completed it complete it in every longer text too, where what
follows counts as trailing.
-/

namespace Tollgate.Json

open Document (Node Elements Members Label Found Fault Cut skim_item_iff skim_member_iff)

-- ---------------------------------------------------------------------------
-- Trees that break off

theorem skim_of_elementsOf {done : List Node} {ending : Elements}
    (h : (elementsOf ending done).skim = .ok ()) : ending.skim = .ok () := by
  induction done generalizing ending with
  | nil => exact h
  | cons n done ih => exact (skim_item_iff.mp (ih h)).2

theorem skim_of_membersOf {done : List (Label × Node)} {ending : Members}
    (h : (membersOf ending done).skim = .ok ()) : ending.skim = .ok () := by
  induction done generalizing ending with
  | nil => exact h
  | cons entry done ih => exact (skim_member_iff.mp (ih h)).2.2

theorem skim_cut (c : Cut) (f : Frame) : (f.cut c).skim ≠ .ok () := by
  intro skims
  cases f with
  | list done => cases skim_of_elementsOf skims
  | table done label => cases skim_of_membersOf skims

theorem skim_cutInside (c : Cut) (child : Node) (f : Frame) :
    (f.cutInside c child).skim ≠ .ok () := by
  intro skims
  cases f with
  | list done => cases skim_of_elementsOf skims
  | table done label => cases skim_of_membersOf skims

theorem skim_cutAll (c : Cut) {child : Node} (broken : child.skim ≠ .ok ()) (stack : List Frame) :
    (cutAll c child stack).skim ≠ .ok () := by
  induction stack generalizing child with
  | nil => exact broken
  | cons f fs ih => exact ih (skim_cutInside c child f)

theorem skim_stop (m : Machine) (c : Cut) (instead : Option Found) :
    (m.stop c instead).skim ≠ .ok () := by
  have broken : (Node.broken c).skim ≠ .ok () := by simp [Node.skim]
  unfold Machine.stop
  split
  case h_4 => exact broken
  case h_5 | h_6 | h_8 => exact skim_cutAll c (skim_cut c _) _
  case h_7 => exact skim_cutAll c (skim_cutInside c _ _) _
  all_goals exact skim_cutAll c broken _

theorem deliver_ne_stopped (n n' : Node) (stack : List Frame) : deliver n stack ≠ .stopped n' := by
  cases stack with
  | nil => simp [deliver]
  | cons f fs => cases f <;> simp [deliver]

/-- A machine is stopped by nothing but a fault. -/
theorem skim_of_stopped {m : Machine} {t : Token} {n : Node} (h : m.step t = .stopped n) :
    n.skim ≠ .ok () := by
  have value : m.value t = .stopped n → n.skim ≠ .ok () := by
    intro h
    cases t with
    | broken c | closeTable | closeList | colon | comma =>
      cases h
      exact skim_stop m _ _
    | openList | openTable => cases h
    | _ => exact absurd h (deliver_ne_stopped _ _ _)
  have close : m.close = .stopped n → n.skim ≠ .ok () := by
    intro h
    unfold Machine.close at h
    split at h
    next _ =>
      cases h
      exact skim_stop m _ _
    next _ => exact absurd h (deliver_ne_stopped _ _ _)
  have label : m.label t = .stopped n → n.skim ≠ .ok () := by
    intro h
    unfold Machine.label at h
    split at h
    case h_1 | h_2 => cases h
    all_goals
      cases h
      exact skim_stop m _ _
  unfold Machine.step at h
  split at h
  case h_1 | h_3 => exact value h
  case h_2 | h_5 | h_6 | h_11 => exact close h
  case h_7 | h_8 => exact label h
  case h_12 =>
    cases h
    exact skim_stop m _ _
  all_goals cases h

-- ---------------------------------------------------------------------------
-- Trees that are complete

inductive Machine.Completes : Machine → List Token → Node → Prop
  | last {m : Machine} {t : Token} {n : Node} (step : m.step t = .complete n) :
      Machine.Completes m [t] n
  | cons {m m' : Machine} {t : Token} {ts : List Token} {n : Node} (step : m.step t = .next m')
      (later : Machine.Completes m' ts n) : Machine.Completes m (t :: ts) n

namespace Machine.Completes

variable {m : Machine} {ts : List Token} {n : Node}

theorem run_append (h : m.Completes ts n) (more : List Token) :
    m.run (ts ++ more) = ⟨n, !more.isEmpty⟩ := by
  induction h with
  | last step => simp only [List.singleton_append, run, step]
  | cons step _ ih => simp only [List.cons_append, run, step, ih]

theorem of_run (whole : (m.run ts).root.skim = .ok ()) :
    ∃ front back, ts = front ++ back ∧ m.Completes front (m.run ts).root := by
  induction ts generalizing m with
  | nil => exact absurd whole (skim_stop m _ _)
  | cons t ts ih =>
    cases step : m.step t with
    | next m' =>
      simp only [run, step] at whole ⊢
      obtain ⟨front, back, rfl, completes⟩ := ih whole
      exact ⟨t :: front, back, rfl, .cons step completes⟩
    | complete n =>
      simp only [run, step]
      exact ⟨[t], ts, rfl, .last step⟩
    | stopped n =>
      simp only [run, step] at whole
      exact absurd whole (skim_of_stopped step)

theorem unbroken (h : m.Completes ts n) : ∀ t ∈ ts, t.isBroken = false := by
  have stops : ∀ (m : Machine) (c : Cut), ∃ n, m.step (.broken c) = .stopped n := by
    rintro ⟨stack, await⟩ c
    cases await <;> exact ⟨_, rfl⟩
  have goesOn : ∀ {m : Machine} {t : Token}, (∀ n, m.step t ≠ .stopped n) → t.isBroken = false := by
    intro m t goesOn
    cases t with
    | broken c =>
      obtain ⟨n, stopped⟩ := stops m c
      exact absurd stopped (goesOn n)
    | _ => rfl
  induction h with
  | @last m t n step =>
    rw [List.forall_mem_singleton]
    exact goesOn (m := m) fun _ stopped => by simp [step] at stopped
  | @cons m m' t ts n step _ ih =>
    have first := goesOn (m := m) (t := t) fun _ stopped => by simp [step] at stopped
    exact List.forall_mem_cons.mpr ⟨first, ih⟩

theorem ends {items : Elements} (h : m.Completes ts (.list items)) :
    ∀ t ∈ ts.getLast?, t.isNumber = false := by
  have bracket : ∀ {m : Machine} {t : Token}, m.step t = .complete (.list items) →
      t.isNumber = false := by
    rintro ⟨stack, await⟩ t step
    have scalar : ∀ n, (∀ items, n ≠ .list items) → deliver n stack ≠ .complete (.list items) := by
      intro n other
      rcases stack with _ | ⟨⟨_⟩ | ⟨_⟩, _⟩ <;> simp [deliver, other]
    cases t with
    | number x => cases await <;> first | exact absurd step (scalar _ (by simp)) | cases step
    | spoiledNumber => cases await <;> first | exact absurd step (scalar _ (by simp)) | cases step
    | _ => rfl
  generalize whole : Node.list items = n at h
  induction h with
  | last step =>
    subst whole
    simpa using bracket step
  | @cons m m' t ts n step later ih =>
    intro u last
    refine ih whole u ?_
    cases later <;> simpa using last

end Machine.Completes

/-- A list that is complete is complete in every longer text, where what was added is
trailing. -/
theorem Reading.ofText_of_front {front text : String} {back : List Char}
    (begins : text.toList = front.toList ++ back) {items : Elements}
    (list : (ofText front).root = .list items) (whole : items.skim = .ok ())
    (visible : ∃ c ∈ back, isSpace c = false) : ofText text = ⟨.list items, true⟩ := by
  have skims : (ofText front).root.skim = .ok () := by
    rw [list]
    exact whole
  obtain ⟨ts, unread, all, completes⟩ := Machine.Completes.of_run skims
  rw [show (Machine.start.run (tokens front.toList)).root = .list items from list] at completes
  obtain ⟨left, _, lexes, -, -⟩ := exists_lexes (Nat.le_refl _) all
  have lexes' : Lexes text.toList ts (left ++ back) := by
    rw [begins]
    exact lexes.append completes.unbroken completes.ends back
  obtain ⟨m, enough, all'⟩ := lexes'.lexAll_eq (Nat.le_refl _)
  have goesOn : lexAll m (left ++ back) ≠ [] := by
    rw [ne_eq, lexAll_eq_nil_iff enough]
    intro spaces
    obtain ⟨c, mem, visible⟩ := visible
    rw [spaces c (List.mem_append_right _ mem)] at visible
    cases visible
  rw [ofText, tokens, all', completes.run_append]
  simp [goesOn]

end Tollgate.Json
