import Mathlib.Data.Finset.Card
import Mathlib.Data.List.AList
import GpuEbpfBridge.Lib.Fold

/-! # Go maps

A Go map is an association list with distinct keys.  Reading a missing key gives the zero
value, assignment replaces the entry, `delete` removes it.  `range` visits every entry once in
an order that the language leaves open: a `RangeOrder` is one such choice, an arbitrary
rearrangement of the entries, so that a statement for every `RangeOrder` is a statement for
every iteration order.

`lookup_foldl` is `foldl_project` at one key of a map. -/

namespace GpuEbpfBridge.Lib

/-- A finite map with distinct keys. -/
abbrev GoMap (κ ν : Type*) := AList (fun _ : κ => ν)

/-- One iteration order: a rearrangement of whatever entries there are. -/
structure RangeOrder (α : Type*) where
  order : List α → List α
  perm : ∀ l, (order l).Perm l

/-- The order in which the entries are stored. -/
def RangeOrder.stored (α : Type*) : RangeOrder α := ⟨id, fun l => List.Perm.refl l⟩

/-- The other way round. -/
def RangeOrder.reversed (α : Type*) : RangeOrder α := ⟨List.reverse, List.reverse_perm⟩

namespace GoMap

variable {κ ν α : Type*} [DecidableEq κ]

/-- The entries as pairs. -/
def pairs (m : GoMap κ ν) : List (κ × ν) := m.entries.map (fun e => (e.1, e.2))

/-- `for k, v := range m`. -/
def range (o : RangeOrder (κ × ν)) (m : GoMap κ ν) : List (κ × ν) := o.order (pairs m)

theorem lookup_insert_eq (m : GoMap κ ν) (k k' : κ) (v : ν) :
    (m.insert k v).lookup k' = if k = k' then some v else m.lookup k' := by
  split_ifs with h
  · rw [← h, AList.lookup_insert]
  · exact AList.lookup_insert_ne (Ne.symm h)

theorem lookup_erase_eq (m : GoMap κ ν) (k k' : κ) :
    (m.erase k).lookup k' = if k = k' then none else m.lookup k' := by
  split_ifs with h
  · rw [← h, AList.lookup_erase]
  · exact AList.lookup_erase_ne (Ne.symm h)

@[simp] theorem mem_pairs {m : GoMap κ ν} {k : κ} {v : ν} :
    (k, v) ∈ pairs m ↔ m.lookup k = some v := by
  rw [← Option.mem_def, AList.mem_lookup_iff, pairs, List.mem_map]
  constructor
  · rintro ⟨⟨k', v'⟩, h, he⟩
    simp only [Prod.mk.injEq] at he
    obtain ⟨rfl, rfl⟩ := he
    exact h
  · exact fun h => ⟨⟨k, v⟩, h, rfl⟩

omit [DecidableEq κ] in
theorem pairs_keys_nodup (m : GoMap κ ν) : ((pairs m).map Prod.fst).Nodup := by
  have h : (pairs m).map Prod.fst = m.keys := by
    simp [pairs, AList.keys, List.keys, Function.comp_def]
  rw [h]
  exact m.keys_nodup

/-- A map has one entry for each key it holds. -/
theorem length_entries_eq {m : GoMap κ ν} {s : Finset κ} (h : ∀ k, (m.lookup k).isSome ↔ k ∈ s) :
    m.entries.length = s.card := by
  have hkeys : m.keys.toFinset = s := by
    ext k
    rw [← h, List.mem_toFinset, AList.lookup_isSome]
    rfl
  calc m.entries.length = m.keys.length := (List.length_map _).symm
    _ = m.keys.toFinset.card := (List.toFinset_card_of_nodup m.keys_nodup).symm
    _ = s.card := by rw [hkeys]

omit [DecidableEq κ] in
theorem range_perm (o : RangeOrder (κ × ν)) (m : GoMap κ ν) : (range o m).Perm (pairs m) :=
  o.perm _

omit [DecidableEq κ] in
theorem length_range (o : RangeOrder (κ × ν)) (m : GoMap κ ν) :
    (range o m).length = m.entries.length := by
  rw [(range_perm o m).length_eq, pairs, List.length_map]

@[simp] theorem mem_range {o : RangeOrder (κ × ν)} {m : GoMap κ ν} {k : κ} {v : ν} :
    (k, v) ∈ range o m ↔ m.lookup k = some v := by
  rw [(range_perm o m).mem_iff, mem_pairs]

omit [DecidableEq κ] in
theorem range_keys_nodup (o : RangeOrder (κ × ν)) (m : GoMap κ ν) :
    ((range o m).map Prod.fst).Nodup :=
  ((range_perm o m).map Prod.fst).nodup_iff.mpr (pairs_keys_nodup m)

omit [DecidableEq κ] in
theorem range_nodup (o : RangeOrder (κ × ν)) (m : GoMap κ ν) : (range o m).Nodup :=
  (range_keys_nodup o m).of_map

/-- A key is visited once, with the value it holds. -/
theorem filter_range_key (o : RangeOrder (κ × ν)) (m : GoMap κ ν) (k : κ) :
    (range o m).filter (fun e => e.1 = k) = (m.lookup k).toList.map (fun v => (k, v)) := by
  have hnd : ((range o m).filter (fun e => e.1 = k)).Nodup := (range_nodup o m).filter _
  cases h : m.lookup k with
  | none =>
      rw [Option.toList_none, List.map_nil, List.filter_eq_nil_iff]
      rintro ⟨k', v⟩ hm hk
      simp only [decide_eq_true_eq] at hk
      subst hk
      rw [mem_range, h] at hm
      cases hm
  | some v =>
      have hmem : ∀ e, e ∈ (range o m).filter (fun e => e.1 = k) ↔ e = (k, v) := by
        rintro ⟨k', v'⟩
        simp only [List.mem_filter, mem_range, decide_eq_true_eq, Prod.mk.injEq]
        constructor
        · rintro ⟨hl, rfl⟩
          rw [h] at hl
          exact ⟨rfl, (Option.some.inj hl).symm⟩
        · rintro ⟨rfl, rfl⟩
          exact ⟨h, rfl⟩
      rw [Option.toList_some, List.map_singleton]
      exact List.perm_singleton.mp ((List.perm_ext_iff_of_nodup hnd (List.nodup_singleton _)).mpr
        (by simpa using hmem))

/-- A loop that touches, for each element, only the entry at the key of that element. -/
theorem lookup_foldl (key : α → κ) (f : GoMap κ ν → α → GoMap κ ν) (g : Option ν → α → Option ν)
    (hstep : ∀ m a k, (f m a).lookup k = if key a = k then g (m.lookup k) a else m.lookup k)
    (l : List α) (m : GoMap κ ν) (k : κ) :
    (l.foldl f m).lookup k = (l.filter (fun a => key a = k)).foldl g (m.lookup k) := by
  refine foldl_project (fun m : GoMap κ ν => m.lookup k) (fun a => key a = k) f g ?_ l m
  intro m a
  rw [hstep]
  simp only [decide_eq_true_eq]

end GoMap

end GpuEbpfBridge.Lib
