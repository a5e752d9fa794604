import Mathlib.Data.List.Nodup
import GpuEbpfBridge.Lib.Fold

/-! # Stores of records written one at a time

A store holds at most one record per slot, and a write replaces the record of its slot.  What a
store holds after a sequence of writes is, slot by slot, the last write to that slot, and where
there is none what it held before (`read_foldl`).

The last section is the publication pattern with a commit record.  The writes come in batches,
numbered in order; each batch ends with the write of the commit slot.  A reader that looks at
the commit slot at some moment and at another slot at a later moment, and found the commit
record of batch `k`, sees for every slot that batch `k` wrote a record of batch `k` or of a
later batch (`gated_read`). -/

namespace GpuEbpfBridge.Lib

variable {ω κ : Type*} [DecidableEq κ] (slot : ω → κ)

/-- The last write to slot `k`. -/
def lastWrite (log : List ω) (k : κ) : Option ω := (log.filter (fun w => slot w = k)).getLast?

theorem lastWrite_append (l₁ l₂ : List ω) (k : κ) :
    lastWrite slot (l₁ ++ l₂) k = (lastWrite slot l₂ k).or (lastWrite slot l₁ k) := by
  unfold lastWrite
  rw [List.filter_append, List.getLast?_append]

theorem lastWrite_concat (log : List ω) (w : ω) (k : κ) :
    lastWrite slot (log ++ [w]) k = if slot w = k then some w else lastWrite slot log k := by
  rw [lastWrite_append]
  by_cases h : slot w = k
  · simp [lastWrite, h]
  · simp [lastWrite, h]

theorem lastWrite_eq_none_iff (log : List ω) (k : κ) :
    lastWrite slot log k = none ↔ ∀ w ∈ log, slot w ≠ k := by
  unfold lastWrite
  rw [List.getLast?_eq_none_iff, List.filter_eq_nil_iff]
  simp

theorem lastWrite_mem {log : List ω} {k : κ} {w : ω} (h : lastWrite slot log k = some w) :
    w ∈ log ∧ slot w = k := by
  have hm := List.mem_of_getLast? h
  rw [List.mem_filter, decide_eq_true_eq] at hm
  exact hm

theorem lastWrite_map {α : Type*} (f : α → ω) (log : List α) (k : κ) :
    lastWrite slot (log.map f) k = (lastWrite (fun a => slot (f a)) log k).map f := by
  unfold lastWrite
  rw [List.filter_map, List.getLast?_map]
  rfl

theorem lastWrite_map_eq_none {α : Type*} {f : α → ω} {k : κ} (h : ∀ a, slot (f a) ≠ k)
    (log : List α) : lastWrite slot (log.map f) k = none := by
  rw [lastWrite_eq_none_iff]
  intro w hw
  obtain ⟨a, -, rfl⟩ := List.mem_map.mp hw
  exact h a

theorem count_slot_map_eq_zero {α : Type*} {f : α → ω} {k : κ} (h : ∀ a, slot (f a) ≠ k)
    (log : List α) : ((log.map f).map slot).count k = 0 := by
  rw [List.count_eq_zero, List.map_map]
  intro hk
  obtain ⟨a, -, ha⟩ := List.mem_map.mp hk
  exact h a ha

/-- A slot that is written has a last write. -/
theorem exists_lastWrite {log : List ω} {w : ω} (h : w ∈ log) :
    ∃ w', lastWrite slot log (slot w) = some w' := by
  cases he : lastWrite slot log (slot w) with
  | none => exact absurd rfl ((lastWrite_eq_none_iff slot log (slot w)).mp he w h)
  | some w' => exact ⟨w', rfl⟩

/-- Where no slot is written twice, the last write to a slot is the only one. -/
theorem lastWrite_of_nodup {log : List ω} (hnd : (log.map slot).Nodup) {w : ω} (h : w ∈ log) :
    lastWrite slot log (slot w) = some w := by
  obtain ⟨w', hw'⟩ := exists_lastWrite slot h
  obtain ⟨hm, hs⟩ := lastWrite_mem slot hw'
  rw [hw', List.inj_on_of_nodup_map hnd hm h hs]

/-! ### What a store holds -/

/-- The law of a store: `read` after `store`, slot by slot. -/
theorem read_foldl {σ : Type*} (store : σ → ω → σ) (read : σ → κ → Option ω) (log : List ω)
    (hread : ∀ m, ∀ w ∈ log, ∀ k, read (store m w) k = if slot w = k then some w else read m k)
    (m : σ) (k : κ) :
    read (log.foldl store m) k = (lastWrite slot log k).or (read m k) := by
  induction log using List.reverseRecOn with
  | nil => rfl
  | append_singleton log w ih =>
      have hlog : ∀ m, ∀ w ∈ log, ∀ k,
          read (store m w) k = if slot w = k then some w else read m k :=
        fun m v hv => hread m v (List.mem_append_left _ hv)
      rw [List.foldl_append, List.foldl_cons, List.foldl_nil,
        hread _ w (List.mem_append_right _ (List.mem_singleton.mpr rfl)), ih hlog,
        lastWrite_concat]
      split_ifs with h
      · rfl
      · rfl

/-! ### Stores that also forget -/

section forgetting

variable {α σ : Type*} {slotOf : α → κ} {result : α → Option ω}

/-- The law of a store whose operations write or erase a slot: an operation leaves its `result`. -/
theorem read_foldl_result {f : σ → α → σ} {read : σ → κ → Option ω} {l : List α}
    (hread : ∀ m, ∀ a ∈ l, ∀ k, read (f m a) k = if slotOf a = k then result a else read m k)
    (m : σ) (k : κ) :
    read (l.foldl f m) k = (lastWrite slotOf l k).elim (read m k) result := by
  induction l using List.reverseRecOn with
  | nil => rfl
  | append_singleton l a ih =>
      have hl : ∀ m, ∀ b ∈ l, ∀ k, read (f m b) k = if slotOf b = k then result b else read m k :=
        fun m b hb => hread m b (List.mem_append_left _ hb)
      rw [List.foldl_append, List.foldl_cons, List.foldl_nil,
        hread _ a (List.mem_append_right _ (List.mem_singleton.mpr rfl)), ih hl, lastWrite_concat]
      split_ifs with h
      · rfl
      · rfl

/-- The last write among the writes of some operations, where the last operation is one. -/
theorem lastWrite_filterMap (hslot : ∀ a w, result a = some w → slot w = slotOf a) (l : List α)
    (k : κ) :
    (lastWrite slotOf l k).elim (lastWrite slot (l.filterMap result) k = none) fun a =>
      (result a).isSome → lastWrite slot (l.filterMap result) k = result a := by
  induction l using List.reverseRecOn with
  | nil => rfl
  | append_singleton l a ih =>
      rw [lastWrite_concat, List.filterMap_append]
      split_ifs with h
      · rw [Option.elim_some]
        intro hsome
        obtain ⟨w, hw⟩ := Option.isSome_iff_exists.mp hsome
        have hone : [a].filterMap result = [w] := by simp [hw]
        rw [hone, lastWrite_concat, if_pos ((hslot a w hw).trans h), hw]
      · have hother : lastWrite slot (l.filterMap result ++ [a].filterMap result) k =
            lastWrite slot (l.filterMap result) k := by
          cases hw : result a with
          | none => simp [hw]
          | some w =>
              have hone : [a].filterMap result = [w] := by simp [hw]
              rw [hone, lastWrite_concat, if_neg (by rw [hslot a w hw]; exact h)]
        rw [hother]
        exact ih

/-- **A store that forgets** shows nothing in a slot whose last operation erased it, and elsewhere what
the same writes leave without the erasures. -/
theorem read_forgetting {f : σ → α → σ} {store : σ → ω → σ} {read : σ → κ → Option ω} {l : List α}
    (hf : ∀ m, ∀ a ∈ l, ∀ k, read (f m a) k = if slotOf a = k then result a else read m k)
    (hstore : ∀ m, ∀ w ∈ l.filterMap result, ∀ k,
      read (store m w) k = if slot w = k then some w else read m k)
    (hslot : ∀ a w, result a = some w → slot w = slotOf a) (m : σ) (k : κ) :
    read (l.foldl f m) k =
      if (lastWrite slotOf l k).any (fun a => (result a).isNone) then none
      else read ((l.filterMap result).foldl store m) k := by
  have hlast := lastWrite_filterMap slot hslot l k
  rw [read_foldl_result hf, read_foldl slot store read _ hstore]
  cases h : lastWrite slotOf l k with
  | none =>
      rw [h, Option.elim_none] at hlast
      rw [hlast]
      rfl
  | some a =>
      rw [h, Option.elim_some] at hlast
      cases hr : result a with
      | none => simp [hr]
      | some w =>
          rw [hr] at hlast
          rw [hlast rfl]
          simp [hr]

end forgetting

/-! ### Publication with a commit record -/

section publication

/-- The writes of all batches in order, each with the number of its batch; the first batch has
number `n`. -/
def numbered : ℕ → List (List ω) → List (ℕ × ω)
  | _, [] => []
  | n, b :: bs => b.map (fun w => (n, w)) ++ numbered (n + 1) bs

omit [DecidableEq κ] in
theorem numbered_map_snd (n : ℕ) (bs : List (List ω)) :
    (numbered n bs).map Prod.snd = bs.flatten := by
  induction bs generalizing n with
  | nil => rfl
  | cons b bs ih => simp [numbered, ih, Function.comp_def]

theorem le_of_mem_numbered {n : ℕ} {bs : List (List ω)} {x : ℕ × ω} (h : x ∈ numbered n bs) :
    n ≤ x.1 := by
  induction bs generalizing n with
  | nil => cases h
  | cons b bs ih =>
      rcases List.mem_append.mp h with h | h
      · obtain ⟨w, -, rfl⟩ := List.mem_map.mp h
        exact Nat.le_refl _
      · exact Nat.le_trans (Nat.le_succ n) (ih h)

theorem mem_numbered {n k : ℕ} {bs : List (List ω)} {w : ω} :
    (n + k, w) ∈ numbered n bs ↔ ∃ b, bs[k]? = some b ∧ w ∈ b := by
  induction bs generalizing n k with
  | nil => simp [numbered]
  | cons b bs ih =>
      rw [numbered, List.mem_append]
      cases k with
      | zero =>
          have hno : (n, w) ∉ numbered (n + 1) bs := by
            intro h
            have : n + 1 ≤ n := le_of_mem_numbered h
            omega
          rw [Nat.add_zero, or_iff_left hno]
          simp
      | succ k =>
          have hno : (n + (k + 1), w) ∉ b.map (fun w => (n, w)) := by
            intro h
            obtain ⟨v, -, he⟩ := List.mem_map.mp h
            have := (Prod.mk.inj he).1
            omega
          have e : n + (k + 1) = n + 1 + k := by omega
          rw [List.getElem?_cons_succ, ← ih (n := n + 1), ← e]
          exact or_iff_right hno

theorem numbered_pairwise (n : ℕ) (bs : List (List ω)) :
    (numbered n bs).Pairwise (fun a b => a.1 ≤ b.1) := by
  induction bs generalizing n with
  | nil => exact List.Pairwise.nil
  | cons b bs ih =>
      rw [numbered, List.pairwise_append]
      refine ⟨?_, ih (n + 1), ?_⟩
      · rw [List.pairwise_map]
        exact List.pairwise_of_forall (fun _ _ => Nat.le_refl n)
      · intro x hx y hy
        obtain ⟨w, -, rfl⟩ := List.mem_map.mp hx
        exact Nat.le_trans (Nat.le_succ n) (le_of_mem_numbered hy)

/-- In every batch nothing follows the write of the commit slot `c`. -/
def CommitLast (c : κ) (b : List ω) : Prop := b.Pairwise (fun w _ => slot w ≠ c)

omit [DecidableEq κ] in
theorem numbered_commit {c : κ} (n : ℕ) {bs : List (List ω)} (h : ∀ b ∈ bs, CommitLast slot c b) :
    (numbered n bs).Pairwise (fun a b => slot a.2 = c → a.1 < b.1) := by
  induction bs generalizing n with
  | nil => exact List.Pairwise.nil
  | cons b bs ih =>
      rw [numbered, List.pairwise_append]
      refine ⟨?_, ih (n + 1) (fun b' hb' => h b' (List.mem_cons_of_mem _ hb')), ?_⟩
      · rw [List.pairwise_map]
        exact (h b List.mem_cons_self).imp (fun hne he => absurd he hne)
      · intro x hx y hy _
        obtain ⟨w, -, rfl⟩ := List.mem_map.mp hx
        exact le_of_mem_numbered hy

/-- The last write to a slot has the largest batch number among the writes to it. -/
theorem lastWrite_number_le {log : List (ℕ × ω)} (hs : log.Pairwise (fun a b => a.1 ≤ b.1))
    {k : κ} {x y : ℕ × ω} (hy : lastWrite (fun z => slot z.2) log k = some y) (hx : x ∈ log)
    (hk : slot x.2 = k) : x.1 ≤ y.1 := by
  have hf := hs.filter (fun z => decide (slot z.2 = k))
  obtain ⟨l, hl⟩ := List.getLast?_eq_some_iff.mp hy
  have hxf : x ∈ log.filter (fun z => decide (slot z.2 = k)) := by
    rw [List.mem_filter]
    exact ⟨hx, decide_eq_true hk⟩
  rw [hl] at hf hxf
  rw [List.pairwise_append] at hf
  rcases List.mem_append.mp hxf with h | h
  · exact hf.2.2 x h y (List.mem_singleton.mpr rfl)
  · obtain rfl := List.mem_singleton.mp h
    exact Nat.le_refl _

/-- **Gated reads are safe**: if the commit slot, read after `i` writes, holds the record of
batch `k`, then any slot that batch `k` wrote holds, after `j ≥ i` writes, a record of batch `k`
or later. -/
theorem gated_read {c : κ} {bs : List (List ω)} (h : ∀ b ∈ bs, CommitLast slot c b) {i j k : ℕ}
    (hij : i ≤ j) {m : ω}
    (hm : lastWrite (fun z => slot z.2) ((numbered 0 bs).take i) c = some (k, m))
    {b : List ω} (hb : bs[k]? = some b) {w : ω} (hw : w ∈ b) :
    ∃ k' w', lastWrite (fun z => slot z.2) ((numbered 0 bs).take j) (slot w) = some (k', w') ∧
      k ≤ k' := by
  obtain ⟨hmem, hslot⟩ := lastWrite_mem _ hm
  have hwlog : (k, w) ∈ numbered 0 bs := by
    have h0 : (0 + k, w) ∈ numbered 0 bs := mem_numbered.mpr ⟨b, hb, hw⟩
    rw [Nat.zero_add] at h0
    exact h0
  -- the write of batch `k` comes before the commit record that the reader found
  have hwi : (k, w) ∈ (numbered 0 bs).take i := by
    have hp := numbered_commit slot 0 h
    rw [← List.take_append_drop i (numbered 0 bs), List.pairwise_append] at hp
    rw [← List.take_append_drop i (numbered 0 bs)] at hwlog
    rcases List.mem_append.mp hwlog with hw' | hw'
    · exact hw'
    · exact absurd (hp.2.2 _ hmem _ hw' hslot) (Nat.lt_irrefl k)
  have hwj : (k, w) ∈ (numbered 0 bs).take j :=
    (List.take_prefix_take_left hij).subset hwi
  obtain ⟨⟨k', w'⟩, hlast⟩ := exists_lastWrite (fun z : ℕ × ω => slot z.2) hwj
  have hsorted : ((numbered 0 bs).take j).Pairwise (fun a b => a.1 ≤ b.1) :=
    (numbered_pairwise 0 bs).sublist (List.take_sublist j _)
  exact ⟨k', w', hlast, lastWrite_number_le slot hsorted hlast hwj rfl⟩

end publication

end GpuEbpfBridge.Lib
