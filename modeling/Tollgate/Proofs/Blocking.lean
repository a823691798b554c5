import Tollgate.Policy.BlockList

/-!
# What a block list blocks

An item of a block list stands for one address, or for all addresses that agree with a
network in its first bits. A list that was made from items blocks an address, in each
of its forms and texts, exactly if the own form of the address is that of a listed
address or lies in a listed network of the same form. So no address escapes that lies
in a listed network as it is written, unless the network is of the long form and the
address carries a short one: such an address is looked up among short networks only.
-/

namespace Tollgate

-- ---------------------------------------------------------------------------
-- First bits

namespace Address.Network

/-- The first `n` bits of two addresses are the same. -/
def Agree {w : Nat} (n : Nat) (a b : BitVec w) : Prop :=
  ∀ i, i < n → a.getMsbD i = b.getMsbD i

theorem getMsbD_truncate {w : Nat} (n i : Nat) (bits : BitVec w) :
    (truncate n bits).getMsbD i = (decide (i < n) && bits.getMsbD i) := by
  rw [truncate, BitVec.getMsbD_shiftLeft, BitVec.getMsbD_ushiftRight, Nat.add_sub_cancel]
  by_cases inside : i < w
  · have kept : (decide (i + (w - n) < w) && !decide (i + (w - n) < w - n)) = decide (i < n) := by
      rw [Bool.eq_iff_iff]
      simp
      omega
    rw [← Bool.and_assoc, kept]
  · rw [BitVec.getMsbD_of_ge bits i (Nat.le_of_not_lt inside)]
    simp

theorem truncate_eq_iff {w : Nat} (n : Nat) (a b : BitVec w) :
    truncate n a = truncate n b ↔ Agree n a b := by
  constructor
  · intro same i inside
    have bit := congrArg (fun bits => bits.getMsbD i) same
    simpa [getMsbD_truncate, inside] using bit
  · intro agree
    refine BitVec.eq_of_getMsbD_eq fun i _ => ?_
    rw [getMsbD_truncate, getMsbD_truncate]
    by_cases inside : i < n
    · rw [agree i inside]
    · simp [inside]

/-- The addresses of a network: they have its form and its first bits. -/
def Covers : Network → Address → Prop
  | .v4 bits n, .v4 a => Agree n a bits
  | .v6 bits n, .v6 a => Agree n a bits
  | _, _ => False

theorem contains_iff (n : Network) (a : Address) : n.contains a ↔ n.Covers a := by
  cases n <;> cases a <;> simp [contains, Covers, truncate_eq_iff]

end Address.Network

/-- The address of the long form that carries a short one. -/
def Address.carrying (short : BitVec 32) : Address :=
  .v6 (carrierBits ++ short)

theorem Address.canonical_carrying (short : BitVec 32) :
    (carrying short).canonical = .v4 short := by
  have high : (carrierBits ++ short).extractLsb' 32 96 = carrierBits := by
    rw [BitVec.extractLsb'_append_eq_of_le (Nat.le_refl 32)]
    exact BitVec.extractLsb'_eq_self
  have low : (carrierBits ++ short).extractLsb' 0 32 = short := by
    rw [BitVec.extractLsb'_append_eq_of_add_le (Nat.le_refl 32)]
    exact BitVec.extractLsb'_eq_self
  simp [carrying, canonical, carried?, high, low]

namespace Policy.BlockList

-- ---------------------------------------------------------------------------
-- Items

/-- The addresses that an item stands for, as it is written. -/
def Item.Covers : Item → Address → Prop
  | .address b, a => a = b
  | .network n, a => n.Covers a

/-- The item with its address in its own form. Networks stay as they are written. -/
def Item.canonical : Item → Item
  | .address a => .address a.canonical
  | .network n => .network n

def Item.isLong : Item → Bool
  | .network (.v6 ..) => true
  | _ => false

/-- An address that an item stands for is still one in its own form, unless it leaves a
long network in it. -/
theorem Item.covers_canonical {i : Item} {a : Address} (covers : i.Covers a)
    (own : i.isLong → a.canonical = a) : i.canonical.Covers a.canonical := by
  cases i with
  | address b => exact congrArg Address.canonical covers
  | network n =>
    cases n with
    | v4 bits n =>
      cases a with
      | v4 _ => exact covers
      | v6 _ => exact covers.elim
    | v6 bits n =>
      rw [own rfl]
      exact covers

-- ---------------------------------------------------------------------------
-- Looking up

theorem inClasses_addNetwork {w : Nat} (n : Nat) (bits a : BitVec w)
    (classes : List (NetworkClass w)) :
    inClasses (addNetwork n bits classes) a ↔
      Address.Network.truncate n a = bits ∨ inClasses classes a := by
  induction classes with
  | nil => simp [addNetwork, inClasses]
  | cons first rest ih =>
    simp only [inClasses] at ih
    simp only [addNetwork]
    split
    next same => simp [inClasses, same, or_assoc]
    next _ =>
      split
      next _ => simp [inClasses]
      next _ => simp only [inClasses, List.any_cons, Bool.or_eq_true, ih, or_left_comm]

theorem inClasses_addNetwork_truncate {w : Nat} (n : Nat) (bits a : BitVec w)
    (classes : List (NetworkClass w)) :
    inClasses (addNetwork n (Address.Network.truncate n bits) classes) a ↔
      Address.Network.Agree n a bits ∨ inClasses classes a := by
  rw [inClasses_addNetwork, Address.Network.truncate_eq_iff]

theorem containsAddress_add (list : BlockList) (text : String) (i : Item) (a : Address) :
    (list.add text i).containsAddress a ↔
      i.canonical.Covers a.canonical ∨ list.containsAddress a := by
  cases i with
  | address b => simp [add, containsAddress, Item.canonical, Item.Covers, or_assoc]
  | network n =>
    cases n with
    | v4 bits n =>
      cases own : a.canonical with
      | v4 short =>
        simp [add, containsAddress, own, inClasses_addNetwork_truncate, Item.canonical,
          Item.Covers, Address.Network.Covers, or_left_comm]
      | v6 long =>
        simp [add, containsAddress, own, Item.canonical, Item.Covers, Address.Network.Covers]
    | v6 bits n =>
      cases own : a.canonical with
      | v4 short =>
        simp [add, containsAddress, own, Item.canonical, Item.Covers, Address.Network.Covers]
      | v6 long =>
        simp [add, containsAddress, own, inClasses_addNetwork_truncate, Item.canonical,
          Item.Covers, Address.Network.Covers, or_left_comm]

theorem entries_add (list : BlockList) (text : String) (i : Item) :
    (list.add text i).entries = list.entries ++ [text] := by
  cases i with
  | address _ => rfl
  | network n => cases n <;> rfl

theorem Item.ofText?_empty : Item.ofText? "" = none := by decide

theorem addText_of_some {list : BlockList} {text : String} {i : Item} (position : Nat)
    (read : Item.ofText? text = some i) : (list.addText position text).1 = list.add text i := by
  rw [addText]
  split
  next blank =>
    rw [blank, Item.ofText?_empty] at read
    cases read
  next _ => rw [read]

theorem addText_of_none {list : BlockList} {text : String} (position : Nat)
    (unread : Item.ofText? text = none) : (list.addText position text).1 = list := by
  rw [addText]
  split
  next _ => rfl
  next _ => rw [unread]

theorem addAll_cons (list : BlockList) (start : Nat) (item : String) (rest : List String) :
    (list.addAll start (item :: rest)).1 =
      ((list.addText start (Text.trim item)).1.addAll (start + 1) rest).1 := by
  rw [addAll]

theorem containsAddress_addAll (list : BlockList) (start : Nat) (items : List String)
    (a : Address) :
    (list.addAll start items).1.containsAddress a ↔
      (∃ item ∈ items, ∃ i, Item.ofText? (Text.trim item) = some i ∧
        i.canonical.Covers a.canonical) ∨ list.containsAddress a := by
  induction items generalizing list start with
  | nil => simp [addAll]
  | cons item rest ih =>
    rw [addAll_cons, ih]
    cases read : Item.ofText? (Text.trim item) with
    | some i =>
      rw [addText_of_some start read, containsAddress_add]
      simp [read, or_left_comm, or_assoc]
    | none =>
      rw [addText_of_none start read]
      simp [read]

/-- A list that has an address has entries, so that it is looked up. -/
theorem entries_addAll {list : BlockList} {a : Address} (start : Nat) (items : List String)
    (filled : list.containsAddress a → list.entries ≠ [])
    (found : (list.addAll start items).1.containsAddress a) :
    (list.addAll start items).1.entries ≠ [] := by
  induction items generalizing list start with
  | nil => exact filled found
  | cons item rest ih =>
    rw [addAll_cons] at found ⊢
    refine ih _ ?_ found
    cases read : Item.ofText? (Text.trim item) with
    | some i =>
      rw [addText_of_some start read, entries_add]
      simp
    | none =>
      rw [addText_of_none start read]
      exact filled

theorem containsAddress_empty (a : Address) : empty.containsAddress a = false := by
  cases own : a.canonical <;> simp [containsAddress, empty, inClasses, own]

theorem containsAddress_ofItems (items : List String) (a : Address) :
    (ofItems items).1.containsAddress a ↔
      ∃ item ∈ items, ∃ i, Item.ofText? (Text.trim item) = some i ∧
        i.canonical.Covers a.canonical := by
  have all := containsAddress_addAll empty 0 items a
  simp only [containsAddress_empty, Bool.false_eq_true, or_false] at all
  exact all

theorem blocks_ofItems (items : List String) (a : Address) :
    (ofItems items).1.blocks a = (ofItems items).1.containsAddress a := by
  cases found : (ofItems items).1.containsAddress a with
  | false => simp [blocks, found]
  | true =>
    have listed : (ofItems items).1.entries ≠ [] :=
      entries_addAll 0 items (by simp [containsAddress_empty]) found
    simp [blocks, found, listed]

-- ---------------------------------------------------------------------------
-- Blocked addresses

/-- An address is blocked in each of its forms, and under each of their texts. -/
structure Blocked (list : BlockList) (a : Address) : Prop where
  contained : ∀ b : Address, b.canonical = a.canonical → list.containsAddress b
  published : ∀ b : Address, b.canonical = a.canonical → list.blocks b
  texts : ∀ (s : String) (b : Address), Address.ofText? (Text.trim s) = some b →
    b.canonical = a.canonical → list.blocksText s

theorem containsAddress_congr (list : BlockList) {a b : Address}
    (same : b.canonical = a.canonical) : list.containsAddress b = list.containsAddress a := by
  simp only [containsAddress, same]

theorem blocked_ofItems (items : List String) (a : Address) :
    (ofItems items).1.Blocked a ↔
      ∃ item ∈ items, ∃ i, Item.ofText? (Text.trim item) = some i ∧
        i.canonical.Covers a.canonical := by
  rw [← containsAddress_ofItems]
  constructor
  · intro blocked
    exact blocked.contained a rfl
  · intro found
    have contained : ∀ b : Address, b.canonical = a.canonical →
        (ofItems items).1.containsAddress b := by
      intro b same
      rwa [containsAddress_congr _ same]
    refine ⟨contained, fun b same => ?_, fun s b read same => ?_⟩
    · rw [blocks_ofItems]
      exact contained b same
    · rw [blocksText, read, Option.any_some, blocks_ofItems]
      exact contained b same

/-- An address that an accepted item stands for, as it is written, is blocked, unless the
item is a long network and the address carries a short one. Such an address is blocked
exactly if an accepted item stands for the short one. -/
theorem blocked_of_covers {items : List String} {item : String} (listed : item ∈ items)
    {i : Item} (read : Item.ofText? (Text.trim item) = some i) {a : Address}
    (covers : i.Covers a) :
    ((i.isLong → a.canonical = a) → (ofItems items).1.Blocked a) ∧
    ((ofItems items).1.Blocked a ↔
      ∃ other ∈ items, ∃ j, Item.ofText? (Text.trim other) = some j ∧
        j.canonical.Covers a.canonical) := by
  refine ⟨fun own => ?_, blocked_ofItems items a⟩
  rw [blocked_ofItems]
  exact ⟨item, listed, i, read, i.covers_canonical covers own⟩

/-- A network that is written with further bits, and an address of it that comes in the
form that carries it. -/
theorem blocked_of_covers_carrying :
    (ofItems ["nowhere", " 10.1.2.3/8"]).1.containsAddress (.carrying 0x0ac80001#32) ∧
      (ofItems ["nowhere", " 10.1.2.3/8"]).1.blocksText "::ffff:10.200.0.1 " := by
  have read : Item.ofText? (Text.trim " 10.1.2.3/8") =
      some (.network (.v4 0x0a010203#32 8)) := by decide +kernel
  have covers : Item.Covers (.network (.v4 0x0a010203#32 8)) (.v4 0x0ac80001#32) := by
    rw [Item.Covers, ← Address.Network.contains_iff]
    decide
  have blocked : (ofItems ["nowhere", " 10.1.2.3/8"]).1.Blocked (.v4 0x0ac80001#32) :=
    (blocked_of_covers (by simp) read covers).1 nofun
  have text : Address.ofText? (Text.trim "::ffff:10.200.0.1 ") =
      some (.carrying 0x0ac80001#32) := by decide +kernel
  have form : (Address.carrying 0x0ac80001#32).canonical = Address.canonical (.v4 0x0ac80001#32) :=
    Address.canonical_carrying _
  exact ⟨blocked.contained _ form, blocked.texts _ _ text form⟩

/-- An address in a listed network, as the network is written, that is not blocked. -/
theorem carried_address_escapes :
    let list := (ofItems ["::ffff:9.9.0.0/112"]).1
    let network : Item := .network (.v6 0xffff09090000#128 112)
    Item.ofText? (Text.trim "::ffff:9.9.0.0/112") = some network ∧
      network.Covers (.v6 0xffff09090909#128) ∧
      Address.ofText? (Text.trim "::ffff:9.9.9.9") = some (.v6 0xffff09090909#128) ∧
      list.containsAddress (.v6 0xffff09090909#128) = false ∧
      list.blocksText "::ffff:9.9.9.9" = false := by
  refine ⟨by decide +kernel, ?_, by decide +kernel, by decide +kernel, by decide +kernel⟩
  rw [Item.Covers, ← Address.Network.contains_iff]
  decide

end Policy.BlockList

end Tollgate
