import Tollgate.Proofs.Isolation

/-!
# A block list as a scan of its items

A block list files its networks by their lengths and looks an address up in the file. It
answers as a scan of the items it was made from would: an address is on the list exactly
if the trimmed text of some item reads as an address of the same own form, or as a network
that the own form lies in. Nothing else of the items matters. The list keeps the texts
that could be read, in their order, and the positions of the others are reported.
-/

namespace Tollgate

-- ---------------------------------------------------------------------------
-- Addresses and networks are told apart by a slash

namespace Address

namespace Reading

/-- A reader went on from the first characters to the second ones and passed no slash. -/
def Passes (cs rest : List Char) : Prop :=
  ∃ used, cs = used ++ rest ∧ '/' ∉ used

theorem Passes.refl (cs : List Char) : Passes cs cs :=
  ⟨[], rfl, List.not_mem_nil⟩

theorem Passes.trans {cs between rest : List Char} (first : Passes cs between)
    (second : Passes between rest) : Passes cs rest := by
  obtain ⟨used, rfl, free⟩ := first
  obtain ⟨used', rfl, free'⟩ := second
  refine ⟨used ++ used', (List.append_assoc _ _ _).symm, ?_⟩
  simp [free, free']

theorem Passes.mem {cs rest : List Char} (h : Passes cs rest) (slash : '/' ∈ rest) : '/' ∈ cs := by
  obtain ⟨used, rfl, -⟩ := h
  exact List.mem_append_right used slash

theorem char_passes {c : Char} {cs rest : List Char} (other : c ≠ '/')
    (h : char c cs = some rest) : Passes cs rest := by
  unfold char at h
  split at h
  next _ => cases h
  next d tail =>
    split at h
    next same =>
      cases h
      have named : c = d := beq_iff_eq.mp same
      exact ⟨[d], rfl, by simpa [← named] using other.symm⟩
    next _ => cases h

theorem number_passes {base : Nat} {width : Option Nat} {zeros : Bool} {bound n : Nat}
    {cs rest : List Char} (h : number base width zeros bound cs = some (n, rest)) :
    Passes cs rest := by
  simp only [number] at h
  obtain ⟨-, same⟩ := Option.ite_none_left_eq_some.mp h
  cases same
  refine ⟨_, (List.prefix_iff_eq_append.mp (List.takeWhile_prefix _)).symm, fun slash => ?_⟩
  have digit := List.mem_takeWhile_imp slash
  cases digit

variable {d : Dialect}

theorem octets_passes {count : Nat} {first : Bool} {cs rest : List Char} {os : List Nat}
    (h : octets d count first cs = some (os, rest)) : Passes cs rest := by
  induction count generalizing first cs os with
  | zero =>
    cases h
    exact .refl _
  | succ count ih =>
    have part : ∀ {inner : List Char},
        ((number 10 (some 3) d.leadingZeros 256 inner).bind fun octet =>
          (octets d count false octet.2).bind fun more =>
            some (octet.1 :: more.1, more.2)) = some (os, rest) → Passes inner rest := by
      intro inner read
      simp only [Option.bind_eq_some_iff] at read
      obtain ⟨⟨n, after⟩, part, ⟨others, left⟩, more, same⟩ := read
      cases same
      exact (number_passes part).trans (ih more)
    cases first with
    | true => exact part h
    | false =>
      obtain ⟨inner, point, read⟩ := Option.bind_eq_some_iff.mp h
      exact (char_passes (by decide) point).trans (part read)

theorem short_passes {cs rest : List Char} {bits : BitVec 32}
    (h : short d cs = some (bits, rest)) : Passes cs rest := by
  simp only [short, Option.map_eq_some_iff] at h
  obtain ⟨⟨os, left⟩, read, same⟩ := h
  cases same
  exact octets_passes read

theorem groups_passes (d : Dialect) (room : Nat) (first : Bool) (cs : List Char) :
    Passes cs (groups d room first cs).rest := by
  induction room generalizing first cs with
  | zero => exact .refl cs
  | succ room ih =>
    unfold groups
    dsimp only
    split
    next _ => exact .refl cs
    next inner behind =>
      have colon : Passes cs inner := by
        cases first with
        | true =>
          cases behind
          exact .refl cs
        | false => exact char_passes (by decide) behind
      split
      next bits rest found =>
        split at found
        next _ => exact colon.trans (short_passes found)
        next _ => cases found
      next _ =>
        split
        next _ => exact .refl cs
        next n rest found => exact (colon.trans (number_passes found)).trans (ih false rest)

theorem long_passes {cs rest : List Char} {bits : BitVec 128}
    (h : long d cs = some (bits, rest)) : Passes cs rest := by
  have head := groups_passes d 8 true cs
  simp only [long] at h
  split at h
  next _ =>
    cases h
    exact head
  next _ =>
    split at h
    next _ => cases h
    next _ =>
      simp only [Option.bind_eq_bind, Option.bind_eq_some_iff] at h
      obtain ⟨first, colon, second, colon', same⟩ := h
      cases same
      have gap := (char_passes (by decide) colon).trans (char_passes (by decide) colon')
      exact (head.trans gap).trans (groups_passes d _ true second)

theorem whole_eq_some {α : Type} {read : Option (α × List Char)} {a : α}
    (h : whole read = some a) : read = some (a, []) := by
  unfold whole at h
  split at h
  next _ => rw [Option.some.inj h]
  next _ => cases h

end Reading

theorem slash_notMem_of_ofText? {s : String} {a : Address} (h : ofText? s = some a) :
    '/' ∉ s.toList := by
  have ended : Reading.Passes s.toList [] := by
    simp only [ofText?, Option.orElse_eq_orElse, Option.orElse_eq_or, Option.or_eq_some_iff] at h
    rcases h with short | ⟨-, long⟩
    · obtain ⟨⟨bits, rest⟩, read, same⟩ :=
        Option.map_eq_some_iff.mp (Reading.whole_eq_some short)
      cases same
      exact Reading.short_passes read
    · obtain ⟨⟨bits, rest⟩, read, same⟩ :=
        Option.map_eq_some_iff.mp (Reading.whole_eq_some long)
      cases same
      exact Reading.long_passes read
  obtain ⟨used, all, free⟩ := ended
  rwa [all, List.append_nil]

theorem Network.covers_truncated (n : Network) (a : Address) :
    n.truncated.Covers a ↔ n.Covers a := by
  have first : ∀ {w : Nat} (m : Nat) (b bits : BitVec w),
      Agree m b (truncate m bits) ↔ Agree m b bits := by
    intro w m b bits
    refine forall_congr' fun i => forall_congr' fun inside => ?_
    rw [getMsbD_truncate, decide_eq_true inside, Bool.true_and]
  cases n <;> cases a <;> simp [truncated, Covers, first]

theorem Network.slash_mem_of_length {width limit n : Nat} {cs rest : List Char}
    (h : length width limit cs = some (n, rest)) : '/' ∈ cs := by
  simp only [length, Option.bind_eq_bind, Option.bind_eq_some_iff] at h
  obtain ⟨inner, slash, -⟩ := h
  cases cs with
  | nil => cases slash
  | cons c tail =>
    simp only [Reading.char] at slash
    split at slash
    next same => simp [← beq_iff_eq.mp same]
    next _ => cases slash

theorem Network.slash_mem_of_ofText? {s : String} {n : Network} (h : ofText? s = some n) :
    '/' ∈ s.toList := by
  simp only [ofText?, Option.orElse_eq_orElse, Option.orElse_eq_or, Option.or_eq_some_iff] at h
  rcases h with short | ⟨-, long⟩
  · have read := Reading.whole_eq_some short
    simp only [Network.short, Option.bind_eq_bind, Option.bind_eq_some_iff] at read
    obtain ⟨⟨bits, rest⟩, address, ⟨m, left⟩, length, -⟩ := read
    exact (Reading.short_passes address).mem (slash_mem_of_length length)
  · have read := Reading.whole_eq_some long
    simp only [Network.long, Option.bind_eq_bind, Option.bind_eq_some_iff] at read
    obtain ⟨⟨bits, rest⟩, address, ⟨m, left⟩, length, -⟩ := read
    exact (Reading.long_passes address).mem (slash_mem_of_length length)

end Address

namespace Policy

-- ---------------------------------------------------------------------------
-- Positions

section Positions

variable {α : Type} {start i : Nat} {e : PolicyError} {results : List (Except PolicyError α)}

theorem mem_rejections :
    (i, e) ∈ rejections start results ↔ ∃ k, i = start + k ∧ results[k]? = some (.error e) := by
  induction results generalizing start with
  | nil => simp [rejections]
  | cons result rest ih =>
    -- A position in the rest is one behind in the whole.
    have later : (i, e) ∈ rejections (start + 1) rest ↔
        ∃ k, i = start + (k + 1) ∧ (result :: rest)[k + 1]? = some (.error e) := by
      simp only [ih, List.getElem?_cons_succ, Nat.add_assoc, Nat.add_comm 1]
    have whole : (∃ k, i = start + k ∧ (result :: rest)[k]? = some (.error e)) ↔
        (i = start ∧ result = .error e) ∨ (i, e) ∈ rejections (start + 1) rest := by
      rw [later, ← Nat.or_exists_add_one]
      simp
    rw [whole]
    cases result with
    | ok a => simp [rejections]
    | error e' => simp [rejections, eq_comm]

theorem le_of_mem_rejections (h : (i, e) ∈ rejections start results) : start ≤ i := by
  obtain ⟨k, rfl, -⟩ := mem_rejections.mp h
  exact Nat.le_add_right start k

theorem pairwise_rejections : (rejections start results).Pairwise fun x y => x.1 < y.1 := by
  induction results generalizing start with
  | nil => exact .nil
  | cons result rest ih =>
    cases result with
    | ok a => exact ih
    | error e' => exact .cons (fun x mem => le_of_mem_rejections mem) ih

end Positions

namespace BlockList

-- ---------------------------------------------------------------------------
-- Items

/-- A text reads as an address of this own form, or as a network that it lies in. -/
def Lists (text : String) (own : Address) : Prop :=
  (∃ a, Address.ofText? text = some a ∧ a.canonical = own) ∨
    ∃ n, Address.Network.ofText? text = some n ∧ n.Covers own

def isReadable (text : String) : Bool :=
  (Address.ofText? text).isSome || (Address.Network.ofText? text).isSome

theorem isSome_ofText? (text : String) : (Item.ofText? text).isSome = isReadable text := by
  unfold Item.ofText? isReadable
  cases Address.ofText? text with
  | some a => rfl
  | none => simp

/-- Since no text reads as both, it does not matter which reading is tried first. -/
theorem lists_iff {text : String} {own : Address} :
    (∃ i, Item.ofText? text = some i ∧ i.canonical.Covers own) ↔ Lists text own := by
  unfold Item.ofText? Lists
  cases address : Address.ofText? text with
  | some a =>
    have noNetwork : ∀ n, Address.Network.ofText? text ≠ some n := fun n network =>
      Address.slash_notMem_of_ofText? address (Address.Network.slash_mem_of_ofText? network)
    simp [noNetwork, Item.canonical, Item.Covers, eq_comm]
  | none => simp [Item.canonical, Item.Covers]

theorem containsAddress_iff_lists (items : List String) (a : Address) :
    (ofItems items).1.containsAddress a ↔
      ∃ item ∈ items, Lists (Text.trim item) a.canonical := by
  rw [containsAddress_ofItems]
  simp only [lists_iff]

theorem not_isReadable_empty : isReadable "" = false := by
  rw [← isSome_ofText?, Item.ofText?_empty, Option.isSome_none]

theorem not_lists_of_unreadable {text : String} (unreadable : isReadable text = false)
    (own : Address) : ¬Lists text own := by
  rw [← isSome_ofText?, Option.isSome_eq_false_iff, Option.isNone_iff_eq_none] at unreadable
  rw [← lists_iff]
  rintro ⟨i, read, -⟩
  cases unreadable.symm.trans read

theorem lists_of_network {text : String} {n : Address.Network}
    (h : Address.Network.ofText? text = some n) (own : Address) :
    Lists text own ↔ n.Covers own := by
  have noAddress : ∀ a, Address.ofText? text ≠ some a := fun a address =>
    Address.slash_notMem_of_ofText? address (Address.Network.slash_mem_of_ofText? h)
  simp [Lists, noAddress, h]

theorem containsAddress_congr_lists {items others : List String} {a : Address}
    (same : (∃ item ∈ others, Lists (Text.trim item) a.canonical) ↔
      ∃ item ∈ items, Lists (Text.trim item) a.canonical) :
    (ofItems others).1.containsAddress a = (ofItems items).1.containsAddress a := by
  rw [Bool.eq_iff_iff, containsAddress_iff_lists, containsAddress_iff_lists]
  exact same

theorem entries_ofItems (items : List String) :
    (ofItems items).1.entries = (items.map Text.trim).filter isReadable := by
  have kept := Control.entries_foldl_addEntry .empty ((accepted (items.map readItem)).filterMap id)
  rw [ofItems, addAll_eq, kept, accepted_map, List.filterMap_filterMap, List.filter_map,
    List.map_filterMap, ← List.filterMap_eq_map, List.filterMap_filter]
  refine List.filterMap_congr fun item _ => ?_
  by_cases blank : Text.trim item = ""
  · simp [readItem, blank, not_isReadable_empty, Except.toOption]
  · cases read : Item.ofText? (Text.trim item) with
    | some i => simp [readItem, blank, read, ← isSome_ofText?, Except.toOption]
    | none => simp [readItem, blank, read, ← isSome_ofText?, Except.toOption]

theorem readItem_eq_error {item : String} {e : PolicyError} :
    readItem item = .error e ↔ Text.trim item ≠ "" ∧ isReadable (Text.trim item) = false ∧
      e = .invalidAddress (Text.trim item) := by
  unfold readItem
  by_cases blank : Text.trim item = ""
  · simp [blank]
  · cases read : Item.ofText? (Text.trim item) with
    | some i => simp [blank, read, ← isSome_ofText?]
    | none => simp [blank, read, ← isSome_ofText?, eq_comm]

theorem applied_ofItems (items : List String) :
    (ofItems items).2.applied = (ofItems items).1.entries.length := by
  have kept := Control.entries_foldl_addEntry .empty ((accepted (items.map readItem)).filterMap id)
  simp only [Control.ofItems_eq, kept]
  simp [empty]

theorem mem_rejected_ofItems {items : List String} {i : Nat} {e : PolicyError} :
    (i, e) ∈ (ofItems items).2.rejected ↔ ∃ item, items[i]? = some item ∧
      Text.trim item ≠ "" ∧ isReadable (Text.trim item) = false ∧
        e = .invalidAddress (Text.trim item) := by
  rw [Control.ofItems_eq, mem_rejections]
  simp only [Nat.zero_add, exists_eq_left', List.getElem?_map, Option.map_eq_some_iff,
    readItem_eq_error]

-- ---------------------------------------------------------------------------
-- The scan

/-- A list, with what was told of the items it was made from, answers as a scan of the
items, and of the items nothing matters but the addresses they stand for. -/
structure Scans (items : List String) (list : BlockList) (told : Outcome) : Prop where
  contains : ∀ a, list.containsAddress a ↔ ∃ item ∈ items, Lists (Text.trim item) a.canonical
  /-- The order of the items makes no difference. -/
  reordered : ∀ others : List String, others.Perm items → ∀ a,
    (ofItems others).1.containsAddress a = list.containsAddress a
  /-- Nor does an item whose addresses others stand for, such as one given twice or nested
  in another, wherever it is. -/
  redundant : ∀ before extra after, items = before ++ extra :: after →
    (∀ a : Address, Lists (Text.trim extra) a.canonical →
      ∃ item ∈ before ++ after, Lists (Text.trim item) a.canonical) →
    ∀ a, (ofItems (before ++ after)).1.containsAddress a = list.containsAddress a
  /-- Nor do blank items and those that cannot be read. -/
  unread : ∀ before extra after, items = before ++ extra :: after →
    isReadable (Text.trim extra) = false →
    ∀ a, (ofItems (before ++ after)).1.containsAddress a = list.containsAddress a
  /-- Nor do the bits of a network behind its length. -/
  hostBits : ∀ before item after, items = before ++ item :: after →
    ∀ n, Address.Network.ofText? (Text.trim item) = some n →
    ∀ other, Address.Network.ofText? (Text.trim other) = some n.truncated →
    ∀ a, (ofItems (before ++ other :: after)).1.containsAddress a = list.containsAddress a
  entries : list.entries = (items.map Text.trim).filter isReadable
  applied : told.applied = list.entries.length
  rejected : ∀ i e, (i, e) ∈ told.rejected ↔ ∃ item, items[i]? = some item ∧
    Text.trim item ≠ "" ∧ isReadable (Text.trim item) = false ∧
      e = .invalidAddress (Text.trim item)
  increasing : told.rejected.Pairwise fun x y => x.1 < y.1
  /-- That an empty list is not looked up hides no address. -/
  published : ∀ a, list.blocks a = list.containsAddress a

/-- Whatever the items, the list that is made from them answers as a scan of them. -/
theorem scans_ofItems (items : List String) :
    Scans items (ofItems items).1 (ofItems items).2 where
  contains := containsAddress_iff_lists items
  reordered others perm a := by
    refine containsAddress_congr_lists ?_
    simp only [perm.mem_iff]
  redundant := by
    rintro before extra after rfl others a
    refine containsAddress_congr_lists ⟨?_, ?_⟩
    · rintro ⟨item, mem, lists⟩
      refine ⟨item, ?_, lists⟩
      simpa [or_left_comm] using Or.inr (List.mem_append.mp mem)
    · rintro ⟨item, mem, lists⟩
      rw [List.mem_append, List.mem_cons, or_left_comm, ← List.mem_append] at mem
      rcases mem with rfl | kept
      · exact others a lists
      · exact ⟨item, kept, lists⟩
  unread := by
    rintro before extra after rfl unreadable a
    refine containsAddress_congr_lists ?_
    simp [or_and_right, exists_or, not_lists_of_unreadable unreadable]
  hostBits := by
    rintro before item after rfl n network other truncated a
    have same := (lists_of_network truncated a.canonical).trans
      ((n.covers_truncated a.canonical).trans (lists_of_network network a.canonical).symm)
    refine containsAddress_congr_lists ?_
    simp [or_and_right, exists_or, same]
  entries := entries_ofItems items
  applied := applied_ofItems items
  rejected _ _ := mem_rejected_ofItems
  increasing := by
    rw [Control.ofItems_eq]
    exact pairwise_rejections
  published := blocks_ofItems items

example : (ofItems ["1.1.1.1", "nowhere", " ", "8.8.8.8/24"]).2.rejected.map Prod.fst = [1] := by
  decide +kernel

end BlockList

end Policy

end Tollgate
