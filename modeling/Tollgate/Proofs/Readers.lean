import Tollgate.Document.Fields

/-!
# Readers read whole values

A value that can be skimmed has no place in it that a text breaks off at. Readers that walk
all of a value refuse one that breaks off: what they accept can be skimmed. And each member
of a record that is accepted is one that the reader of this member accepts.
-/

namespace Tollgate

theorem ok_of_bind {ε α β : Type} {x : Except ε α} {f : α → Except ε β} {b : β}
    (h : x >>= f = .ok b) : ∃ a, x = .ok a ∧ f a = .ok b := by
  cases x with
  | error e => cases h
  | ok a => exact ⟨a, rfl, h⟩

namespace Document

-- ---------------------------------------------------------------------------
-- Skimming

theorem skim_item_iff {n : Node} {rest : Elements} :
    (Elements.item n rest).skim = .ok () ↔ n.skim = .ok () ∧ rest.skim = .ok () := by
  rw [Elements.skim]
  constructor
  · intro h
    obtain ⟨⟨⟩, head, later⟩ := ok_of_bind h
    exact ⟨head, later⟩
  · rintro ⟨head, later⟩
    rw [head]
    exact later

/-- A label that is there; it may be one that can be skimmed only. -/
def Label.IsThere : Label → Prop
  | .broken _ _ => False
  | _ => True

theorem skim_member_iff {label : Label} {n : Node} {rest : Members} :
    (Members.member label n rest).skim = .ok () ↔
      label.IsThere ∧ n.skim = .ok () ∧ rest.skim = .ok () := by
  have goesOn : (n.skim >>= fun _ => rest.skim) = .ok () ↔
      n.skim = .ok () ∧ rest.skim = .ok () := by
    constructor
    · intro h
      obtain ⟨⟨⟩, value, later⟩ := ok_of_bind h
      exact ⟨value, later⟩
    · rintro ⟨value, later⟩
      rw [value]
      exact later
  cases label with
  | broken c instead => simp [Members.skim, Label.IsThere]
  | plain name => simpa [Members.skim, Label.IsThere] using goesOn
  | spoiled => simpa [Members.skim, Label.IsThere] using goesOn

-- ---------------------------------------------------------------------------
-- Careful readers

/-- A reader of texts that accepts only what can be skimmed. -/
def Reader.Careful (read : Reader α) : Prop :=
  ∀ n a, read .text n = .ok a → n.skim = .ok ()

namespace Reader

theorem careful_text : Careful text := by
  intro n a h
  cases n with
  | text s => rfl
  | _ => cases h

theorem careful_unit : Careful unit := by
  intro n a h
  cases n with
  | null => rfl
  | _ => cases h

theorem careful_choice (pick : String → Except Problem α) : Careful (choice pick) := by
  intro n a h
  cases n with
  | text s => rfl
  | table members =>
    simp only [choice] at h
    cases members with
    | close => cases h
    | cut c => cases h
    | member label value rest =>
      cases label with
      | broken c instead => cases instead <;> cases h
      | spoiled => cases h
      | plain name =>
        obtain ⟨_, picked, h⟩ := ok_of_bind h
        obtain ⟨⟨⟩, null, h⟩ := ok_of_bind h
        obtain ⟨⟨⟩, ends, -⟩ := ok_of_bind h
        cases rest with
        | close => exact skim_member_iff.mpr ⟨trivial, careful_unit _ _ null, rfl⟩
        | cut c => cases ends
        | member _ _ _ => cases ends
  | _ => cases h

theorem careful_elements {read : Reader α} (careful : read.Careful) :
    ∀ {items : Elements} {as : List α}, elements read .text items = .ok as → items.skim = .ok ()
  | .close, _, _ => rfl
  | .item head rest, _, h => by
    obtain ⟨a, first, h⟩ := ok_of_bind h
    obtain ⟨as, later, -⟩ := ok_of_bind h
    exact skim_item_iff.mpr ⟨careful head a first, careful_elements careful later⟩

theorem list_ok {read : Reader α} {form : Form} {n : Node} {as : List α}
    (h : list read form n = .ok as) :
    ∃ items, n = .list items ∧ elements read form items = .ok as := by
  cases n with
  | list items => exact ⟨items, rfl, h⟩
  | _ => cases h

theorem of_mem_elements {read : Reader α} {form : Form} {a : α} :
    ∀ {items : Elements} {as : List α}, elements read form items = .ok as → a ∈ as →
      ∃ n, read form n = .ok a
  | .close, _, h, mem => by
    obtain rfl := Except.ok.inj h
    cases mem
  | .item head rest, _, h, mem => by
    obtain ⟨first, accepted, h⟩ := ok_of_bind h
    obtain ⟨later, others, h⟩ := ok_of_bind h
    obtain rfl := Except.ok.inj h
    rcases List.mem_cons.mp mem with rfl | mem
    · exact ⟨head, accepted⟩
    · exact of_mem_elements others mem

theorem careful_as {read : Reader α} (careful : read.Careful) (f : α → β) :
    Careful (Reader.as read f) := by
  intro n b h
  cases accepted : read .text n with
  | error p => simp [Reader.as, accepted, Except.map] at h
  | ok a => exact careful n a accepted

end Reader

-- ---------------------------------------------------------------------------
-- Records

namespace Fields

def Careful : {τ : Type} → Fields τ → Prop
  | _, .done => True
  | _, .field _ read _ rest => read.Careful ∧ rest.Careful

theorem skim_of_put {τ : Type} {fs : Fields τ} (careful : fs.Careful) {key : String} {n : Node}
    {slots slots' : fs.Slots} (h : fs.put .text key n slots = some (.ok slots')) :
    n.skim = .ok () := by
  induction fs with
  | done => cases h
  | field name read fallback rest ih =>
    obtain ⟨own, others⟩ := careful
    simp only [put] at h
    split at h
    next same =>
      split at h
      next _ _ => cases h
      next _ =>
        cases accepted : read .text n with
        | error p => simp [accepted, Except.map] at h
        | ok a => exact own n a accepted
    next _ =>
      obtain ⟨result, put, kept⟩ := Option.map_eq_some_iff.mp h
      cases result with
      | error p => cases kept
      | ok slots => exact ih others put

theorem skim_of_readMembers {τ : Type} {fs : Fields τ} (careful : fs.Careful) :
    ∀ {members : Members} {slots : fs.Slots} {a : τ},
      fs.readMembers .text members slots = .ok a → members.skim = .ok ()
  | .close, _, _, _ => rfl
  | .member (.plain key) value rest, slots, a, h => by
    simp only [readMembers] at h
    split at h
    next p _ => cases h
    next slots' put =>
      exact skim_member_iff.mpr
        ⟨trivial, skim_of_put careful put, skim_of_readMembers careful h⟩
    next _ =>
      split at h
      next f _ => cases h
      next skims => exact skim_member_iff.mpr ⟨trivial, skims, skim_of_readMembers careful h⟩

theorem skim_of_readElements {expected : String} {total : Nat} :
    ∀ {τ : Type} {fs : Fields τ}, fs.Careful → ∀ {seen : Nat} {items : Elements} {a : τ},
      fs.readElements .text expected total seen items = .ok a → items.skim = .ok () := by
  intro τ fs careful
  induction fs with
  | done =>
    intro seen items a h
    cases items with
    | close => rfl
    | _ => cases h
  | field name read fallback rest ih =>
    intro seen items a h
    obtain ⟨own, others⟩ := careful
    cases items with
    | close => rfl
    | cut c => cases h
    | item head items =>
      obtain ⟨first, accepted, h⟩ := ok_of_bind h
      obtain ⟨later, accepted', -⟩ := ok_of_bind h
      exact skim_item_iff.mpr ⟨own head first accepted, ih others accepted'⟩

end Fields

theorem Reader.careful_record {τ : Type} {fs : Fields τ} (careful : fs.Careful) (name : String) :
    Reader.Careful (Reader.record name fs) := by
  intro n a h
  cases n with
  | table members => exact Fields.skim_of_readMembers careful h
  | list items => exact Fields.skim_of_readElements careful h
  | _ => cases h

-- ---------------------------------------------------------------------------
-- Members

namespace Fields

/-- Every member was accepted by its own reader, or is the fallback of an absent one. -/
def Given : {τ : Type} → (fs : Fields τ) → τ → Prop
  | _, .done => fun _ => True
  | _, .field (α := α) (β := β) _ read fallback rest => fun (values : α × β) =>
    (fallback = some values.1 ∨ ∃ form n, read form n = .ok values.1) ∧ rest.Given values.2

def Met : {τ : Type} → (fs : Fields τ) → fs.Slots → Prop
  | _, .done => fun _ => True
  | _, .field (α := α) _ read _ rest => fun (slots : Option α × rest.Slots) =>
    (∀ a, slots.1 = some a → ∃ form n, read form n = .ok a) ∧ rest.Met slots.2

theorem met_empty {τ : Type} (fs : Fields τ) : fs.Met fs.empty := by
  induction fs with
  | done => trivial
  | field name read fallback rest ih => exact ⟨fun _ absent => (nomatch absent), ih⟩

theorem Met.put {τ : Type} {fs : Fields τ} {form : Form} {key : String} {n : Node}
    {slots slots' : fs.Slots} (met : fs.Met slots)
    (h : fs.put form key n slots = some (.ok slots')) : fs.Met slots' := by
  induction fs with
  | done => cases h
  | field name read fallback rest ih =>
    obtain ⟨own, others⟩ := met
    simp only [Fields.put] at h
    split at h
    next =>
      split at h
      next => cases h
      next =>
        cases accepted : read form n with
        | error p => simp [accepted, Except.map] at h
        | ok a =>
          rw [accepted] at h
          obtain rfl := Except.ok.inj (Option.some.inj h)
          exact ⟨fun b same => ⟨form, n, Option.some.inj same ▸ accepted⟩, others⟩
    next =>
      obtain ⟨result, put, kept⟩ := Option.map_eq_some_iff.mp h
      cases result with
      | error p => cases kept
      | ok later =>
        obtain rfl := Except.ok.inj kept
        exact ⟨own, ih others put⟩

theorem Met.finish {τ : Type} {fs : Fields τ} {slots : fs.Slots} {values : τ}
    (met : fs.Met slots) (h : fs.finish slots = .ok values) : fs.Given values := by
  induction fs with
  | done => trivial
  | field name read fallback rest ih =>
    obtain ⟨own, others⟩ := met
    simp only [Fields.finish] at h
    split at h
    next a taken =>
      obtain ⟨_, same, h⟩ := ok_of_bind h
      obtain rfl := Except.ok.inj same
      obtain ⟨later, ends, h⟩ := ok_of_bind h
      obtain rfl := Except.ok.inj h
      refine ⟨?_, ih others ends⟩
      rcases Option.or_eq_some_iff.mp taken with met | ⟨-, absent⟩
      · exact .inr (own a met)
      · exact .inl absent
    next => cases h

theorem Met.readMembers {τ : Type} {fs : Fields τ} {form : Form} :
    ∀ {members : Members} {slots : fs.Slots} {values : τ}, fs.Met slots →
      fs.readMembers form members slots = .ok values → fs.Given values
  | .close, _, _, met, h => met.finish h
  | .member (.plain key) value rest, slots, _, met, h => by
    simp only [Fields.readMembers] at h
    split at h
    next => cases h
    next put => exact (met.put put).readMembers h
    next =>
      split at h
      next => cases h
      next => exact met.readMembers h

theorem given_of_readElements {form : Form} {expected : String} {total : Nat} {τ : Type}
    {fs : Fields τ} : ∀ {seen : Nat} {items : Elements} {values : τ},
      fs.readElements form expected total seen items = .ok values → fs.Given values := by
  induction fs with
  | done => exact fun _ => trivial
  | field name read fallback rest ih =>
    intro seen items values h
    cases items with
    | cut c => cases h
    | close =>
      simp only [Fields.readElements] at h
      split at h
      next a =>
        obtain ⟨_, same, h⟩ := ok_of_bind h
        obtain rfl := Except.ok.inj same
        obtain ⟨later, others, h⟩ := ok_of_bind h
        obtain rfl := Except.ok.inj h
        exact ⟨.inl rfl, ih others⟩
      next => cases h
    | item head items =>
      obtain ⟨first, accepted, h⟩ := ok_of_bind h
      obtain ⟨later, others, h⟩ := ok_of_bind h
      obtain rfl := Except.ok.inj h
      exact ⟨.inr ⟨form, head, accepted⟩, ih others⟩

end Fields

theorem Reader.given_of_record {τ : Type} {fs : Fields τ} {name : String} {form : Form} {n : Node}
    {values : τ} (h : Reader.record name fs form n = .ok values) : fs.Given values := by
  cases n with
  | table members => exact fs.met_empty.readMembers h
  | list items => exact Fields.given_of_readElements h
  | _ => cases h

end Document

end Tollgate
