import Mathlib.Algebra.BigOperators.Group.Finset.Basic
import Mathlib.Algebra.GroupWithZero.Nat
import GpuEbpfBridge.Poller

/-! # What the two folds of a tick compute

A tick folds its samples twice: per (pid, device), then per pid.  This module says what comes out
in terms that know neither loops nor orders: for one key the supremum of each field over the
samples of the key (`keyAgg`, `lookup_perDev`), for one pid a supremum or a sum over the devices
it was sampled on (`PidAggregate`, `exists_lookup_agg`).  Pid 0 has no entry.

The bridge between the two is `entriesOf_perm`: whatever the iteration order, the entries visited
for a pid are the keys of its devices, each once. -/

namespace GpuEbpfBridge

open Lib

/-! ### Vocabulary -/

section vocabulary

variable {β : Type*} [LinearOrder β] [OrderBot β]

/-- The samples of one (pid, device). -/
def keySamples (samples : List ProcessSample) (pid dev : UInt32) : List ProcessSample :=
  samples.filter (fun s => s.pid = pid ∧ s.deviceIndex = dev)

/-- The samples of one pid. -/
def pidSamples (samples : List ProcessSample) (pid : UInt32) : List ProcessSample :=
  samples.filter (fun s => s.pid = pid)

/-- The samples of one device. -/
def deviceSamples (samples : List ProcessSample) (dev : UInt32) : List ProcessSample :=
  samples.filter (fun s => s.deviceIndex = dev)

/-- The devices a pid was sampled on. -/
def pidDevices (samples : List ProcessSample) (pid : UInt32) : Finset UInt32 :=
  ((pidSamples samples pid).map (fun s => s.deviceIndex)).toFinset

/-- The greatest value of a field over some samples, `0` if there are none. -/
def peak (f : ProcessSample → β) (l : List ProcessSample) : β := l.toFinset.sup f

/-- What the samples of one key fold to. -/
def keyAgg (l : List ProcessSample) : PerDevAgg :=
  { ts := peak (fun s => s.timestampNs) l
    usedMem := peak (fun s => s.usedGpuMemory) l
    smMax := peak (fun s => s.smUtilPct) l
    memMax := peak (fun s => s.memUtilPct) l
    encMax := peak (fun s => s.encUtilPct) l
    decMax := peak (fun s => s.decUtilPct) l
    migInst := (l.head?.map (fun s => s.migInstance)).getD 0 }

theorem mem_keySamples {samples : List ProcessSample} {pid dev : UInt32} {s : ProcessSample} :
    s ∈ keySamples samples pid dev ↔ s ∈ samples ∧ s.pid = pid ∧ s.deviceIndex = dev := by
  simp [keySamples]

theorem mem_pidSamples {samples : List ProcessSample} {pid : UInt32} {s : ProcessSample} :
    s ∈ pidSamples samples pid ↔ s ∈ samples ∧ s.pid = pid := by
  simp [pidSamples]

theorem mem_pidDevices {samples : List ProcessSample} {pid dev : UInt32} :
    dev ∈ pidDevices samples pid ↔ keySamples samples pid dev ≠ [] := by
  rw [pidDevices, List.mem_toFinset, List.mem_map]
  constructor
  · rintro ⟨s, hs, hd⟩
    obtain ⟨hm, hp⟩ := mem_pidSamples.mp hs
    exact List.ne_nil_of_mem (mem_keySamples.mpr ⟨hm, hp, hd⟩)
  · intro h
    obtain ⟨s, hs⟩ := List.exists_mem_of_ne_nil _ h
    obtain ⟨hm, hp, hd⟩ := mem_keySamples.mp hs
    exact ⟨s, mem_pidSamples.mpr ⟨hm, hp⟩, hd⟩

theorem mem_pidDevices_iff_exists {samples : List ProcessSample} {pid dev : UInt32} :
    dev ∈ pidDevices samples pid ↔ ∃ s ∈ samples, s.pid = pid ∧ s.deviceIndex = dev := by
  rw [mem_pidDevices]
  constructor
  · intro h
    obtain ⟨s, hs⟩ := List.exists_mem_of_ne_nil _ h
    exact ⟨s, mem_keySamples.mp hs⟩
  · rintro ⟨s, hs⟩
    exact List.ne_nil_of_mem (mem_keySamples.mpr hs)

theorem pidDevices_nonempty {samples : List ProcessSample} {pid : UInt32} :
    (pidDevices samples pid).Nonempty ↔ pidSamples samples pid ≠ [] := by
  rw [pidDevices, List.toFinset_nonempty_iff, ne_eq, List.map_eq_nil_iff]

theorem peak_cons (f : ProcessSample → β) (s : ProcessSample) (l : List ProcessSample) :
    peak f (s :: l) = max (f s) (peak f l) := by
  unfold peak
  rw [List.toFinset_cons, Finset.sup_insert]

theorem peak_concat (f : ProcessSample → β) (l : List ProcessSample) (s : ProcessSample) :
    peak f (l ++ [s]) = max (peak f l) (f s) := by
  unfold peak
  rw [List.toFinset_append, Finset.sup_union]
  simp

theorem lt_peak_iff {f : ProcessSample → β} {l : List ProcessSample} {x : β} :
    x < peak f l ↔ ∃ s ∈ l, x < f s := by
  unfold peak
  rw [Finset.lt_sup_iff]
  simp only [List.mem_toFinset]

/-- The peak of a pid is the greatest of the peaks of its devices. -/
theorem peak_pidSamples (f : ProcessSample → β) (samples : List ProcessSample) (pid : UInt32) :
    peak f (pidSamples samples pid) =
      (pidDevices samples pid).sup (fun d => peak f (keySamples samples pid d)) := by
  apply le_antisymm
  · refine Finset.sup_le (fun s hs => ?_)
    obtain ⟨hm, hp⟩ := mem_pidSamples.mp (List.mem_toFinset.mp hs)
    have hk : s ∈ keySamples samples pid s.deviceIndex := mem_keySamples.mpr ⟨hm, hp, rfl⟩
    have hd : s.deviceIndex ∈ pidDevices samples pid :=
      mem_pidDevices.mpr (List.ne_nil_of_mem hk)
    exact le_trans (Finset.le_sup (f := f) (List.mem_toFinset.mpr hk))
      (Finset.le_sup (f := fun d => peak f (keySamples samples pid d)) hd)
  · refine Finset.sup_le (fun d _ => Finset.sup_le (fun s hs => ?_))
    obtain ⟨hm, hp, -⟩ := mem_keySamples.mp (List.mem_toFinset.mp hs)
    exact Finset.le_sup (List.mem_toFinset.mpr (mem_pidSamples.mpr ⟨hm, hp⟩))

end vocabulary

/-! ### The fold per (pid, device) -/

theorem PerDevAgg.foldl_add (a : PerDevAgg) (l : List ProcessSample) :
    l.foldl PerDevAgg.add a =
      { ts := max a.ts (keyAgg l).ts
        usedMem := max a.usedMem (keyAgg l).usedMem
        smMax := max a.smMax (keyAgg l).smMax
        memMax := max a.memMax (keyAgg l).memMax
        encMax := max a.encMax (keyAgg l).encMax
        decMax := max a.decMax (keyAgg l).decMax
        migInst := a.migInst } := by
  induction l generalizing a with
  | nil => simp [keyAgg, peak]
  | cons s l ih =>
      rw [List.foldl_cons, ih]
      simp only [PerDevAgg.add, raise_eq_max, keyAgg, peak_cons, max_assoc]

/-- A fold that its first sample starts. -/
theorem PerDevAgg.foldl_start (s : ProcessSample) (l : List ProcessSample) :
    (s :: l).foldl PerDevAgg.add (PerDevAgg.start s) = keyAgg (s :: l) := by
  rw [PerDevAgg.foldl_add]
  have hmax {β : Type} [LinearOrder β] [OrderBot β] (f : ProcessSample → β) :
      max (f s) (peak f (s :: l)) = peak f (s :: l) := by
    rw [peak_cons, ← max_assoc, max_self]
  have hbot {β : Type} [LinearOrder β] [OrderBot β] (x : β) : max ⊥ x = x := max_eq_right bot_le
  simp only [PerDevAgg.start, keyAgg, hmax, ← uint32_bot, hbot, List.head?_cons, Option.map_some,
    Option.getD_some]

/-- `perDev` after the sample loop. -/
def perDev (samples : List ProcessSample) : GoMap PidDevKey PerDevAgg :=
  samples.foldl addSample ∅

theorem lookup_addSample (m : GoMap PidDevKey PerDevAgg) (s : ProcessSample) (k : PidDevKey) :
    (addSample m s).lookup k =
      if (⟨s.pid, s.deviceIndex⟩ : PidDevKey) = k then
        if s.pid = 0 then m.lookup k
        else some (((m.lookup k).getD (PerDevAgg.start s)).add s)
      else m.lookup k := by
  unfold addSample
  by_cases h0 : s.pid = 0
  · simp [h0]
  · rw [if_neg h0, GoMap.lookup_insert_eq, if_neg h0]
    split_ifs with hk
    · rw [hk]
    · rfl

/-- **The fold per (pid, device)**: no entry for pid 0 or for a key without samples, and else the
suprema over the samples of the key. -/
theorem lookup_perDev (samples : List ProcessSample) (k : PidDevKey) :
    (perDev samples).lookup k =
      if k.pid = 0 ∨ keySamples samples k.pid k.dev = [] then none
      else some (keyAgg (keySamples samples k.pid k.dev)) := by
  have hfilter : samples.filter
      (fun s => decide ((⟨s.pid, s.deviceIndex⟩ : PidDevKey) = k)) =
        keySamples samples k.pid k.dev := by
    unfold keySamples
    congr 1
    funext s
    cases k
    simp only [PidDevKey.mk.injEq]
  unfold perDev
  rw [GoMap.lookup_foldl (fun s : ProcessSample => (⟨s.pid, s.deviceIndex⟩ : PidDevKey)) addSample
    (fun o s => if s.pid = 0 then o else some ((o.getD (PerDevAgg.start s)).add s))
    lookup_addSample, hfilter, AList.lookup_empty]
  have hpid : ∀ s ∈ keySamples samples k.pid k.dev, s.pid = k.pid :=
    fun s hs => (mem_keySamples.mp hs).2.1
  generalize keySamples samples k.pid k.dev = l at hpid
  by_cases h0 : k.pid = 0
  · rw [if_pos (Or.inl h0)]
    exact foldl_project_const (fun o => o) _ l
      (fun o s hs => by rw [if_pos ((hpid s hs).trans h0)]) none
  · cases l with
    | nil => simp
    | cons s l =>
        have hne : ∀ a ∈ s :: l, ¬ a.pid = 0 := fun a ha h => h0 ((hpid a ha).symm.trans h)
        rw [if_neg (by simp [h0]), ← PerDevAgg.foldl_start, ← foldl_seed]
        exact List.foldl_ext _ _ _ (fun o a ha => by rw [if_neg (hne a ha)])

theorem isSome_lookup_perDev {samples : List ProcessSample} {k : PidDevKey} :
    ((perDev samples).lookup k).isSome ↔ k.pid ≠ 0 ∧ k.dev ∈ pidDevices samples k.pid := by
  rw [lookup_perDev, mem_pidDevices]
  split_ifs with h
  · exact iff_of_false Bool.false_ne_true (fun hk => h.elim hk.1 hk.2)
  · exact iff_of_true rfl (not_or.mp h)

/-! ### The entries of one pid -/

/-- The entries of a pid in the order in which the second loop meets them. -/
def entriesOf (o : RangeOrder (PidDevKey × PerDevAgg)) (samples : List ProcessSample)
    (pid : UInt32) : List (PidDevKey × PerDevAgg) :=
  (GoMap.range o (perDev samples)).filter (fun e => e.1.pid = pid)

/-- The entry of one device of a pid. -/
def deviceEntry (samples : List ProcessSample) (pid dev : UInt32) : PidDevKey × PerDevAgg :=
  (⟨pid, dev⟩, keyAgg (keySamples samples pid dev))

theorem mem_entries {o : RangeOrder (PidDevKey × PerDevAgg)} {samples : List ProcessSample}
    {e : PidDevKey × PerDevAgg} :
    e ∈ GoMap.range o (perDev samples) ↔
      e.1.pid ≠ 0 ∧ e.1.dev ∈ pidDevices samples e.1.pid ∧
        e = deviceEntry samples e.1.pid e.1.dev := by
  obtain ⟨⟨pid, dev⟩, a⟩ := e
  rw [GoMap.mem_range, lookup_perDev, mem_pidDevices]
  by_cases h0 : pid = 0
  · simp [h0]
  · by_cases hk : keySamples samples pid dev = []
    · simp [h0, hk]
    · simp [h0, hk, deviceEntry, eq_comm]

/-- **The entries visited for a pid**, whatever the order: one for each of its devices. -/
theorem entriesOf_perm (o : RangeOrder (PidDevKey × PerDevAgg)) (samples : List ProcessSample)
    {pid : UInt32} (h0 : pid ≠ 0) :
    (entriesOf o samples pid).Perm
      ((pidDevices samples pid).toList.map (deviceEntry samples pid)) := by
  have hinj : Function.Injective (deviceEntry samples pid) := by
    intro d d' h
    have := congrArg (fun e : PidDevKey × PerDevAgg => e.1.dev) h
    exact this
  refine (List.perm_ext_iff_of_nodup ((GoMap.range_nodup o _).filter _)
    ((Finset.nodup_toList _).map hinj)).mpr ?_
  intro e
  rw [List.mem_filter, mem_entries, decide_eq_true_eq, List.mem_map]
  constructor
  · rintro ⟨⟨-, hd, he⟩, rfl⟩
    exact ⟨e.1.dev, Finset.mem_toList.mpr hd, he.symm⟩
  · rintro ⟨d, hd, rfl⟩
    exact ⟨⟨h0, Finset.mem_toList.mp hd, rfl⟩, rfl⟩

theorem entriesOf_toFinset (o : RangeOrder (PidDevKey × PerDevAgg))
    (samples : List ProcessSample) {pid : UInt32} (h0 : pid ≠ 0) :
    (entriesOf o samples pid).toFinset =
      (pidDevices samples pid).image (deviceEntry samples pid) := by
  rw [List.toFinset_eq_of_perm _ _ (entriesOf_perm o samples h0)]
  ext e
  simp

/-! ### The fold per pid -/

theorem AggBuilder.foldl_add (b : AggBuilder) (l : List (PidDevKey × PerDevAgg)) :
    let r := l.foldl (fun b e => b.add e.1 e.2) b
    r.ts = max b.ts (l.toFinset.sup (fun e => e.2.ts)) ∧
      r.usedTotal.toNat =
        (b.usedTotal.toNat + (l.map (fun e => e.2.usedMem.toNat)).sum) % 2 ^ 64 ∧
      r.smMax = max b.smMax (l.toFinset.sup (fun e => e.2.smMax)) ∧
      r.memMax = max b.memMax (l.toFinset.sup (fun e => e.2.memMax)) ∧
      r.firstDev = b.firstDev ∧
      r.devSet = b.devSet ∪ l.toFinset.image (fun e => e.1.dev.toUInt8) := by
  induction l generalizing b with
  | nil => simp
  | cons e l ih =>
      obtain ⟨h1, h2, h3, h4, h5, h6⟩ := ih (b.add e.1 e.2)
      simp only [List.foldl_cons, List.toFinset_cons, Finset.sup_insert, List.map_cons,
        List.sum_cons, Finset.image_insert]
      have hts : (b.add e.1 e.2).ts = max b.ts e.2.ts := raise_eq_max _ _
      have hsm : (b.add e.1 e.2).smMax = max b.smMax e.2.smMax := raise_eq_max _ _
      have hmem : (b.add e.1 e.2).memMax = max b.memMax e.2.memMax := raise_eq_max _ _
      refine ⟨?_, ?_, ?_, ?_, h5, ?_⟩
      · rw [h1, hts, max_assoc]
      · have hadd : (b.add e.1 e.2).usedTotal.toNat =
            (b.usedTotal.toNat + e.2.usedMem.toNat) % 2 ^ 64 := by
          rw [AggBuilder.add, UInt64.toNat_add]
        rw [h2, hadd, Nat.mod_add_mod, Nat.add_assoc]
      · rw [h3, hsm, max_assoc]
      · rw [h4, hmem, max_assoc]
      · rw [h6, AggBuilder.add, Finset.insert_union, Finset.union_insert]

/-- The sum over the devices of a pid of the greatest memory use sampled there. -/
def pidTotal (samples : List ProcessSample) (pid : UInt32) : ℕ :=
  ∑ d ∈ pidDevices samples pid, (peak (fun s => s.usedGpuMemory) (keySamples samples pid d)).toNat

/-- What the builder of a pid holds after the second loop.  Only `firstDev` depends on the
iteration order. -/
structure PidAggregate (samples : List ProcessSample) (pid : UInt32) (b : AggBuilder) : Prop where
  ts : b.ts = peak (fun s => s.timestampNs) (pidSamples samples pid)
  usedTotal : b.usedTotal.toNat = pidTotal samples pid % 2 ^ 64
  smMax : b.smMax = peak (fun s => s.smUtilPct) (pidSamples samples pid)
  memMax : b.memMax = peak (fun s => s.memUtilPct) (pidSamples samples pid)
  firstDev : ∃ d ∈ pidDevices samples pid, b.firstDev = d.toUInt8
  devSet : b.devSet = (pidDevices samples pid).image UInt32.toUInt8

/-- `agg` after the second loop. -/
def agg (o : RangeOrder (PidDevKey × PerDevAgg)) (samples : List ProcessSample) :
    GoMap UInt32 AggBuilder :=
  (GoMap.range o (perDev samples)).foldl addEntry ∅

theorem lookup_agg (o : RangeOrder (PidDevKey × PerDevAgg)) (samples : List ProcessSample)
    (pid : UInt32) :
    (agg o samples).lookup pid =
      (entriesOf o samples pid).foldl
        (fun b e => some ((b.getD (AggBuilder.start e.1 e.2)).add e.1 e.2)) none := by
  unfold agg
  rw [GoMap.lookup_foldl (fun e : PidDevKey × PerDevAgg => e.1.pid) addEntry
    (fun b e => some ((b.getD (AggBuilder.start e.1 e.2)).add e.1 e.2)), AList.lookup_empty]
  · rfl
  · intro m e k
    rw [addEntry, GoMap.lookup_insert_eq]
    split_ifs with hk
    · rw [hk]
    · rfl

/-- A pid without samples, and pid 0, has no builder. -/
theorem lookup_agg_eq_none (o : RangeOrder (PidDevKey × PerDevAgg))
    {samples : List ProcessSample} {pid : UInt32} (h : pid = 0 ∨ pidSamples samples pid = []) :
    (agg o samples).lookup pid = none := by
  have hnil : entriesOf o samples pid = [] := by
    unfold entriesOf
    rw [List.filter_eq_nil_iff]
    rintro e he hp
    obtain ⟨h0, hd, -⟩ := mem_entries.mp he
    rw [decide_eq_true_eq] at hp
    subst hp
    rcases h with h | h
    · exact h0 h
    · exact pidDevices_nonempty.mp ⟨_, hd⟩ h
  rw [lookup_agg, hnil]
  rfl

/-- **The fold per pid**: the builder of a sampled pid. -/
theorem exists_lookup_agg (o : RangeOrder (PidDevKey × PerDevAgg))
    {samples : List ProcessSample} {pid : UInt32} (h0 : pid ≠ 0)
    (hs : pidSamples samples pid ≠ []) :
    ∃ b, (agg o samples).lookup pid = some b ∧ PidAggregate samples pid b := by
  have hperm := entriesOf_perm o samples h0
  have hset := entriesOf_toFinset o samples h0
  have hsum : ((entriesOf o samples pid).map (fun e => e.2.usedMem.toNat)).sum =
      pidTotal samples pid := by
    rw [(hperm.map _).sum_eq, List.map_map, pidTotal, ← Finset.sum_map_toList]
    rfl
  have hsup {β : Type} [LinearOrder β] [OrderBot β] (f : ProcessSample → β)
      (g : PidDevKey × PerDevAgg → β)
      (hg : ∀ d, g (deviceEntry samples pid d) = peak f (keySamples samples pid d)) :
      (entriesOf o samples pid).toFinset.sup g = peak f (pidSamples samples pid) := by
    rw [hset, Finset.sup_image, peak_pidSamples]
    exact Finset.sup_congr rfl (fun d _ => hg d)
  rw [lookup_agg]
  cases he : entriesOf o samples pid with
  | nil =>
      rw [he, List.toFinset_nil, eq_comm, Finset.image_eq_empty] at hset
      exact absurd hset (pidDevices_nonempty.mpr hs).ne_empty
  | cons e l =>
      rw [← he]
      have hseed : (entriesOf o samples pid).foldl
          (fun b e => some ((b.getD (AggBuilder.start e.1 e.2)).add e.1 e.2)) none =
            some ((entriesOf o samples pid).foldl (fun b e => b.add e.1 e.2)
              (AggBuilder.start e.1 e.2)) := by
        rw [he]
        exact foldl_seed (fun e : PidDevKey × PerDevAgg => AggBuilder.start e.1 e.2)
          (fun b e => b.add e.1 e.2) e l
      refine ⟨_, hseed, ?_⟩
      obtain ⟨h1, h2, h3, h4, h5, h6⟩ :=
        AggBuilder.foldl_add (AggBuilder.start e.1 e.2) (entriesOf o samples pid)
      have hmem : e ∈ (entriesOf o samples pid).toFinset := by
        rw [he]
        exact List.mem_toFinset.mpr List.mem_cons_self
      constructor
      · rw [h1]
        have hle := Finset.le_sup (f := fun e : PidDevKey × PerDevAgg => e.2.ts) hmem
        exact (max_eq_right hle).trans (hsup _ _ (fun d => rfl))
      · rw [h2, hsum]
        simp [AggBuilder.start]
      · rw [h3]
        exact (max_eq_right bot_le).trans (hsup _ _ (fun d => rfl))
      · rw [h4]
        exact (max_eq_right bot_le).trans (hsup _ _ (fun d => rfl))
      · rw [hset] at hmem
        obtain ⟨d, hd, rfl⟩ := Finset.mem_image.mp hmem
        exact ⟨d, hd, h5⟩
      · rw [h6, hset, Finset.image_image]
        exact Finset.empty_union _

theorem isSome_lookup_agg {o : RangeOrder (PidDevKey × PerDevAgg)} {samples : List ProcessSample}
    {pid : UInt32} :
    ((agg o samples).lookup pid).isSome ↔ pid ≠ 0 ∧ pidSamples samples pid ≠ [] := by
  by_cases h : pid = 0 ∨ pidSamples samples pid = []
  · rw [lookup_agg_eq_none o h]
    exact iff_of_false Bool.false_ne_true (fun hk => h.elim hk.1 hk.2)
  · rw [not_or] at h
    obtain ⟨b, hb, -⟩ := exists_lookup_agg o h.1 h.2
    rw [hb]
    exact iff_of_true rfl h

/-! ### The record of a pid -/

theorem card_uint8_le (s : Finset UInt8) : s.card ≤ 256 := by
  rw [← Finset.card_range 256]
  refine Finset.card_le_card_of_injOn UInt8.toNat ?_ ?_
  · exact fun d _ => Finset.mem_coe.mpr (Finset.mem_range.mpr d.toNat_lt)
  · exact fun d _ d' _ he => UInt8.toNat_inj.mp he

/-- The device count of a builder with a device: `len(b.devSet)`, which is 256 at most and there
becomes 1. -/
theorem AggBuilder.toNat_devCount {b : AggBuilder} (hne : b.devSet.Nonempty) :
    b.devCount.toNat = if b.devSet.card = 256 then 1 else b.devSet.card := by
  have hpos := Finset.card_pos.mpr hne
  have hle := card_uint8_le b.devSet
  have hof : (UInt8.ofNat b.devSet.card).toNat = b.devSet.card % 256 := UInt8.toNat_ofNat'
  have hzero : UInt8.ofNat b.devSet.card = 0 ↔ b.devSet.card = 256 := by
    rw [← UInt8.toNat_inj, hof]
    change b.devSet.card % 256 = 0 ↔ _
    omega
  unfold AggBuilder.devCount
  by_cases h : b.devSet.card = 256
  · rw [if_pos (hzero.mpr h), if_pos h]
    rfl
  · rw [if_neg (fun hz => h (hzero.mp hz)), if_neg h, hof]
    omega

/-- **The device count of a record** is the number of devices exactly where they have distinct low
bytes and are not 256. -/
theorem PidAggregate.devCount_eq_iff {samples : List ProcessSample} {pid : UInt32} {b : AggBuilder}
    (h : PidAggregate samples pid b) (hs : pidSamples samples pid ≠ []) :
    b.devCount.toNat = (pidDevices samples pid).card ↔
      Set.InjOn UInt32.toUInt8 (pidDevices samples pid : Set UInt32) ∧
        (pidDevices samples pid).card ≠ 256 := by
  have hne : b.devSet.Nonempty := by
    rw [h.devSet]
    exact (pidDevices_nonempty.mpr hs).image _
  have hle : b.devSet.card ≤ (pidDevices samples pid).card := by
    rw [h.devSet]
    exact Finset.card_image_le
  rw [AggBuilder.toNat_devCount hne, ← Finset.card_image_iff, ← h.devSet]
  split_ifs with h256
  · omega
  · omega

/-- The low bytes of device indices below 256 are distinct. -/
theorem toUInt8_injOn {D : Finset UInt32} (hD : ∀ d ∈ D, d.toNat < 256) :
    Set.InjOn UInt32.toUInt8 (D : Set UInt32) := by
  intro d hd d' hd' he
  have hlt := hD d hd
  have hlt' := hD d' hd'
  have he' := congrArg UInt8.toNat he
  rw [UInt32.toNat_toUInt8, UInt32.toNat_toUInt8] at he'
  exact UInt32.toNat_inj.mp (by omega)

theorem PidAggregate.devCount_eq {samples : List ProcessSample} {pid : UInt32} {b : AggBuilder}
    (h : PidAggregate samples pid b) (hs : pidSamples samples pid ≠ [])
    (hd : ∀ d ∈ pidDevices samples pid, d.toNat < maxDevices) :
    b.devCount.toNat = (pidDevices samples pid).card := by
  have hle : (pidDevices samples pid).card ≤ maxDevices := by
    rw [← Finset.card_range maxDevices]
    refine Finset.card_le_card_of_injOn UInt32.toNat ?_ ?_
    · exact fun d hd' => Finset.mem_coe.mpr (Finset.mem_range.mpr (hd d hd'))
    · exact fun d _ d' _ he => UInt32.toNat_inj.mp he
  unfold maxDevices at hd hle
  refine (h.devCount_eq_iff hs).mpr ⟨toUInt8_injOn (fun d hm => ?_), by omega⟩
  exact lt_trans (hd d hm) (by decide)

/-- The primary device of a record whose device count is right: the low byte of the device if there
is one, else `0xFF`. -/
theorem PidAggregate.primary_of_devCount {samples : List ProcessSample} {pid : UInt32}
    {b : AggBuilder} (h : PidAggregate samples pid b)
    (hcount : b.devCount.toNat = (pidDevices samples pid).card) :
    (∀ d, pidDevices samples pid = {d} → b.record.gpuDevicePrimary = d.toUInt8) ∧
      (1 < (pidDevices samples pid).card → b.record.gpuDevicePrimary = devicePrimaryMulti) := by
  have hgt : b.devCount > 1 ↔ 1 < (pidDevices samples pid).card := by
    rw [gt_iff_lt, UInt8.lt_iff_toNat_lt, hcount]
    rfl
  constructor
  · intro d hdev
    have hno : ¬ b.devCount > 1 := by
      rw [hgt, hdev, Finset.card_singleton]
      omega
    obtain ⟨d', hd', hf⟩ := h.firstDev
    rw [hdev, Finset.mem_singleton] at hd'
    rw [AggBuilder.record, if_neg hno, hf, hd']
  · intro hc
    rw [AggBuilder.record, if_pos (hgt.mpr hc)]

theorem PidAggregate.primary_eq {samples : List ProcessSample} {pid : UInt32} {b : AggBuilder}
    (h : PidAggregate samples pid b) (hs : pidSamples samples pid ≠ [])
    (hd : ∀ d ∈ pidDevices samples pid, d.toNat < maxDevices) :
    (∀ d, pidDevices samples pid = {d} → b.record.gpuDevicePrimary = d.toUInt8) ∧
      (1 < (pidDevices samples pid).card → b.record.gpuDevicePrimary = devicePrimaryMulti) :=
  h.primary_of_devCount (h.devCount_eq hs hd)

end GpuEbpfBridge
