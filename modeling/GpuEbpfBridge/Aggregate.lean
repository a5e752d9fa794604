import Mathlib.Algebra.Order.BigOperators.Group.Finset
import GpuEbpfBridge.RealSpec

/-! # The aggregated record of a PID

Whatever samples a backend returns and in whatever order the two maps of a tick are visited, the
tick writes `gpu_per_pid` once for each PID other than 0 that was sampled (`count_aggregate`).
The record is described without loops by `ExactAggregate`; the one field that can be wrong is the
memory total, a sum modulo 2^64: it is exact as long as the sum over the devices stays below
2^64 (`aggregate_exact`), and no longer (`total_sound_iff`). -/

namespace GpuEbpfBridge

open Lib

variable {ε σ : Type}

/-! ### One record for each sampled PID -/

theorem mem_aggregateUpdates_slot {o : RangeOrder (PidDevKey × PerDevAgg)}
    {o' : RangeOrder (UInt32 × AggBuilder)} {samples : List ProcessSample} {pid : UInt32} :
    Slot.gpuPerPid pid ∈ (aggregateUpdates o o' samples).map Update.slot ↔
      pid ≠ 0 ∧ pidSamples samples pid ≠ [] := by
  constructor
  · intro h
    obtain ⟨u, hu, hs⟩ := List.mem_map.mp h
    obtain ⟨e, he, rfl⟩ := List.mem_map.mp hu
    obtain rfl : e.1 = pid := Slot.gpuPerPid.inj hs
    rw [← not_or]
    intro hno
    rw [show e = (e.1, e.2) from rfl, GoMap.mem_range, lookup_agg_eq_none o hno] at he
    cases he
  · rintro ⟨h0, hs⟩
    obtain ⟨b, hb, -⟩ := exists_lookup_agg o h0 hs
    refine List.mem_map.mpr ⟨aggregateUpdate (pid, b), ?_, rfl⟩
    exact List.mem_map_of_mem (GoMap.mem_range.mpr hb)

/-- A tick issues one aggregated record for each PID it sampled, and none for another PID. -/
theorem count_aggregate (S : Source ε σ) (env : TickEnv ε) (s : State σ) (pid : UInt32) :
    ((tick S env s).issued.map (fun x => x.1.slot)).count (.gpuPerPid pid) =
      if pid ≠ 0 ∧ pidSamples (tick S env s).samples pid ≠ [] then 1 else 0 := by
  by_cases hc : (tick S env s).Completed
  · rw [issued_slots S env s hc, count_tickUpdates]
    simp only
    rw [List.Nodup.count (aggregateUpdates_slots_nodup _ _ _)]
    simp only [mem_aggregateUpdates_slot]
  · obtain ⟨hs, hi⟩ := tick_not_completed S env s hc
    rw [hi, hs]
    simp [pidSamples]

/-! ### The record -/

/-- The record of a PID against the samples of the tick: the memory total the sum over the
devices of the PID of the greatest use sampled there, the other measurements the maxima over its
samples, the count that of its devices, and the primary device the only one or `0xFF`. -/
structure ExactAggregate (samples : List ProcessSample) (pid : UInt32)
    (v : PidMetricsAggregated) : Prop where
  usedGpuMemoryTotal : v.usedGpuMemoryTotal.toNat =
    ∑ d ∈ pidDevices samples pid,
      (peak (fun s => s.usedGpuMemory) (keySamples samples pid d)).toNat
  smUtilPctMax : v.smUtilPctMax = peak (fun s => s.smUtilPct) (pidSamples samples pid)
  memUtilPctMax : v.memUtilPctMax = peak (fun s => s.memUtilPct) (pidSamples samples pid)
  timestampNs : v.timestampNs = peak (fun s => s.timestampNs) (pidSamples samples pid)
  deviceCount : v.deviceCount.toNat = (pidDevices samples pid).card
  primary_single : v.deviceCount = 1 →
    ∃ d, pidDevices samples pid = {d} ∧ v.gpuDevicePrimary.toNat = d.toNat
  primary_multi : v.deviceCount ≠ 1 → v.gpuDevicePrimary = 0xFF

theorem PidAggregate.exact {samples : List ProcessSample} {pid : UInt32} {b : AggBuilder}
    (h : PidAggregate samples pid b) (hs : pidSamples samples pid ≠ [])
    (hd : ∀ d ∈ pidDevices samples pid, d.toNat < maxDevices)
    (hov : pidTotal samples pid < 2 ^ 64) : ExactAggregate samples pid b.record := by
  have hcount : b.record.deviceCount.toNat = (pidDevices samples pid).card := h.devCount_eq hs hd
  obtain ⟨hsingle, hmulti⟩ := h.primary_eq hs hd
  have hpos : 0 < (pidDevices samples pid).card :=
    Finset.card_pos.mpr (pidDevices_nonempty.mpr hs)
  have hone : b.record.deviceCount = 1 ↔ (pidDevices samples pid).card = 1 := by
    rw [← hcount, ← UInt8.toNat_inj]
    rfl
  constructor
  · exact h.usedTotal.trans (Nat.mod_eq_of_lt hov)
  · exact h.smMax
  · exact h.memMax
  · exact h.ts
  · exact hcount
  · intro h1
    obtain ⟨d, hdev⟩ := Finset.card_eq_one.mp (hone.mp h1)
    refine ⟨d, hdev, ?_⟩
    have hlt := hd d (hdev ▸ Finset.mem_singleton_self d)
    unfold maxDevices at hlt
    rw [hsingle d hdev, UInt32.toNat_toUInt8]
    omega
  · intro hne
    rw [ne_eq, hone] at hne
    exact hmulti (by omega)

/-- The record of a PID stands in the map once the kernel took it. -/
theorem lookup_of_taken {S : Source ε σ} {env : TickEnv ε} {s : State σ} {pid : UInt32}
    {v : PidMetricsAggregated} (hv : (.gpuPerPid pid v, true) ∈ (tick S env s).issued) :
    (tick S env s).state.objs.gpuPerPid.lookup pid = some v := by
  obtain ⟨w, hw⟩ := exists_lastWrite Update.slot (mem_taken.mpr hv)
  obtain ⟨hmem, hslot⟩ := lastWrite_mem Update.slot hw
  have hw' : w = .gpuPerPid pid v := by
    cases w with
    | gpuPerPid pid' v' =>
        obtain rfl := Slot.gpuPerPid.inj hslot
        obtain ⟨-, -, b, hb, rfl, -⟩ := sampled_of_mem_issued
          (List.mem_map_of_mem (f := Prod.fst) hv)
        obtain ⟨-, -, b', hb', rfl, -⟩ := sampled_of_mem_issued
          (List.mem_map_of_mem (f := Prod.fst) (mem_taken.mp hmem))
        rw [Option.some.inj (hb'.symm.trans hb)]
    | gpuMeta m => cases hslot
    | gpuDevice idx d => cases hslot
    | gpuPerPidPerDevice key p => cases hslot
  rw [← Maps.read_gpuPerPid_eq, read_tick]
  have hlast : lastWrite Update.slot (taken (tick S env s).issued) (.gpuPerPid pid) =
      some (.gpuPerPid pid v) := hw.trans (congrArg some hw')
  rw [hlast]
  rfl

/-- **The aggregate is exact.**  Whatever the backend returns, as long as the device indices are
below 16 and no memory total reaches 2^64, a tick writes `gpu_per_pid` once for each PID other
than 0 that was sampled and for no other key, and what it writes is exact and, without LRU eviction,
stands in the map after the tick if the kernel takes it. -/
theorem aggregate_exact (S : Source ε σ) (env : TickEnv ε) (s : State σ)
    (hdev : ∀ x ∈ (tick S env s).samples, x.deviceIndex.toNat < maxDevices)
    (hov : ∀ pid, ∑ d ∈ pidDevices (tick S env s).samples pid,
      (peak (fun x => x.usedGpuMemory) (keySamples (tick S env s).samples pid d)).toNat <
        2 ^ 64) :
    (∀ pid, ((tick S env s).issued.map (fun x => x.1.slot)).count (.gpuPerPid pid) =
      if pid ≠ 0 ∧ ∃ x ∈ (tick S env s).samples, x.pid = pid then 1 else 0) ∧
    ∀ pid v, .gpuPerPid pid v ∈ (tick S env s).issued.map Prod.fst →
      ExactAggregate (tick S env s).samples pid v ∧
        ((.gpuPerPid pid v, true) ∈ (tick S env s).issued →
          (tick S env s).state.objs.gpuPerPid.lookup pid = some v) := by
  have hsampled : ∀ pid, pidSamples (tick S env s).samples pid ≠ [] ↔
      ∃ x ∈ (tick S env s).samples, x.pid = pid := by
    intro pid
    rw [pidSamples, ne_eq, List.filter_eq_nil_iff]
    simp
  constructor
  · intro pid
    rw [count_aggregate]
    simp only [hsampled]
  · intro pid v hv
    obtain ⟨-, hs, b, -, rfl, hagg⟩ := sampled_of_mem_issued hv
    refine ⟨hagg.exact hs (fun d hd => ?_) (hov pid), lookup_of_taken⟩
    obtain ⟨x, hx, -, rfl⟩ := mem_pidDevices_iff_exists.mp hd
    exact hdev x hx

/-- Noise as NVML reports it: pid 0, a process on two devices that one of them reports twice, and
a process on one device. -/
def noisyTick : TickEnv (List DeviceSnapshot × List ProcessSample) :=
  { source := ([{ index := 0, timestampNs := 5 }, { index := 1, timestampNs := 5 }],
      [{ pid := 0, deviceIndex := 0, timestampNs := 5, usedGpuMemory := 1 },
       { pid := 7, deviceIndex := 0, timestampNs := 5, usedGpuMemory := 100, smUtilPct := 3 },
       { pid := 7, deviceIndex := 1, timestampNs := 5, usedGpuMemory := 40, smUtilPct := 9 },
       { pid := 7, deviceIndex := 0, timestampNs := 6, usedGpuMemory := 70 },
       { pid := 8, deviceIndex := 1, timestampNs := 5, usedGpuMemory := 30 }])
    now := 7 }

theorem aggregate_exact_noisyTick :
    ((tick fakeNvml noisyTick (State.initial () 1)).issued.map (fun x => x.1.slot)).count
        (.gpuPerPid 7) = 1 ∧
      ∃ v, ExactAggregate noisyTick.source.2 7 v ∧
        (tick fakeNvml noisyTick (State.initial () 1)).state.objs.gpuPerPid.lookup 7 = some v := by
  have hpid : ∀ pid, pid = 0 ∨ pid = 7 ∨ pid = 8 ∨
      pidDevices (tick fakeNvml noisyTick (State.initial () 1)).samples pid = ∅ := by
    intro pid
    by_contra hno
    obtain ⟨h0, h7, h8, he⟩ : pid ≠ 0 ∧ pid ≠ 7 ∧ pid ≠ 8 ∧ _ := by simpa only [not_or] using hno
    obtain ⟨d, hd⟩ := Finset.nonempty_iff_ne_empty.mpr he
    obtain ⟨x, hx, rfl, -⟩ := mem_pidDevices_iff_exists.mp hd
    have hall : ∀ x ∈ noisyTick.source.2, x.pid = 0 ∨ x.pid = 7 ∨ x.pid = 8 := by decide
    rcases hall x hx with h | h | h
    · exact h0 h
    · exact h7 h
    · exact h8 h
  obtain ⟨hcount, hrec⟩ := aggregate_exact fakeNvml noisyTick (State.initial () 1)
    (by decide +kernel) (fun pid => by
      rcases hpid pid with rfl | rfl | rfl | he
      · decide +kernel
      · decide +kernel
      · decide +kernel
      · rw [he, Finset.sum_empty]
        decide)
  have hissued : (.gpuPerPid 7
      { timestampNs := 6, usedGpuMemoryTotal := 140, smUtilPctMax := 9, memUtilPctMax := 0
        gpuDevicePrimary := 0xFF, deviceCount := 2 }, true) ∈
      (tick fakeNvml noisyTick (State.initial () 1)).issued := by
    decide +kernel
  obtain ⟨hexact, hlookup⟩ := hrec 7 _ (List.mem_map_of_mem hissued)
  exact ⟨(hcount 7).trans (by decide +kernel), _, hexact, hlookup hissued⟩

/-! ### The memory total -/

/-- The memory total of a record against the detail records of the same tick: it is the sum over
the devices of the PID, and at least what is written for each of them. -/
structure TotalSound (o : Outcome σ) (pid : UInt32) (v : PidMetricsAggregated) : Prop where
  sum_devices : v.usedGpuMemoryTotal.toNat =
    ∑ d ∈ pidDevices o.samples pid,
      (peak (fun s => s.usedGpuMemory) (keySamples o.samples pid d)).toNat
  le_total : ∀ d w, .gpuPerPidPerDevice (perPidPerDeviceKey pid d) w ∈ o.issued.map Prod.fst →
    w.usedGpuMemory ≤ v.usedGpuMemoryTotal

/-- **When the memory total wraps.**  The total written for a PID is sound exactly when the sum
over the devices of the PID of the greatest use sampled there is below 2^64.  That it is at least
what is written for each device holds for a few wrapped sums too: for those that still reach the
greatest use of every device. -/
theorem total_sound_iff (S : Source ε σ) (env : TickEnv ε) (s : State σ) {pid : UInt32}
    {v : PidMetricsAggregated}
    (hv : .gpuPerPid pid v ∈ (tick S env s).issued.map Prod.fst) :
    let samples := (tick S env s).samples
    let used := fun d => (peak (fun x => x.usedGpuMemory) (keySamples samples pid d)).toNat
    (TotalSound (tick S env s) pid v ↔ ∑ d ∈ pidDevices samples pid, used d < 2 ^ 64) ∧
    ((∀ d w, .gpuPerPidPerDevice (perPidPerDeviceKey pid d) w ∈
        (tick S env s).issued.map Prod.fst → w.usedGpuMemory ≤ v.usedGpuMemoryTotal) ↔
      ∀ d ∈ pidDevices samples pid,
        used d ≤ (∑ d ∈ pidDevices samples pid, used d) % 2 ^ 64) := by
  intro samples used
  obtain ⟨h0, -, b, -, rfl, hagg⟩ := sampled_of_mem_issued hv
  have htotal : b.record.usedGpuMemoryTotal.toNat =
      (∑ d ∈ pidDevices samples pid, used d) % 2 ^ 64 := hagg.usedTotal
  have hle : (∀ d w, .gpuPerPidPerDevice (perPidPerDeviceKey pid d) w ∈
        (tick S env s).issued.map Prod.fst → w.usedGpuMemory ≤ b.record.usedGpuMemoryTotal) ↔
      ∀ d ∈ pidDevices samples pid,
        used d ≤ (∑ d ∈ pidDevices samples pid, used d) % 2 ^ 64 := by
    rw [← htotal]
    constructor
    · intro h d hd
      exact UInt64.le_iff_toNat_le.mp (h d _ (exists_detail_issued S env s h0 hd))
    · intro h d w hw
      obtain ⟨-, hd, rfl⟩ := eq_detail_of_mem_issued hw
      exact UInt64.le_iff_toNat_le.mpr (h d hd)
  refine ⟨?_, hle⟩
  constructor
  · intro h
    have hsum := h.sum_devices
    rw [← hsum]
    exact UInt64.toNat_lt _
  · intro hlt
    refine ⟨htotal.trans (Nat.mod_eq_of_lt hlt), hle.mpr (fun d hd => ?_)⟩
    rw [Nat.mod_eq_of_lt hlt]
    exact Finset.single_le_sum (f := used) (fun _ _ => Nat.zero_le _) hd

/-- Two devices list process 7: the first cannot tell its memory and reports
`NVML_VALUE_NOT_AVAILABLE`, the second reports `used` bytes. -/
def sentinelTick (used : UInt64) : TickEnv (NvmlEnv ℕ) :=
  { source :=
      { deviceGetCount := (2, .success)
        deviceGetHandleByIndex := fun i => (i, .success)
        device := fun i =>
          { getComputeRunningProcesses :=
              ([[⟨7, 0xFFFFFFFFFFFFFFFF⟩], [⟨7, used⟩]].getD i [], .success) }
        devicesNow := 8
        samplesNow := 9 }
    now := 10 }

/-- The state in which the poll loop starts on two devices. -/
def twoDeviceState : State (Session ℕ) := State.initial { real := { handles := [0, 1] } } 1

theorem total_sound_sentinelTick :
    TotalSound (tick (realSource ℕ) (sentinelTick 0) twoDeviceState) 7
      { timestampNs := 9, usedGpuMemoryTotal := 0xFFFFFFFFFFFFFFFF, smUtilPctMax := 0
        memUtilPctMax := 0, gpuDevicePrimary := 0xFF, deviceCount := 2 } :=
  (total_sound_iff (realSource ℕ) (sentinelTick 0) twoDeviceState (by decide +kernel)).1.mpr
    (by decide +kernel)

/-- With 4096 bytes on the second device the total published is 4095, less than what the same tick
publishes for either device. -/
theorem sentinel_total_wraps :
    let o := tick (realSource ℕ) (sentinelTick 4096) twoDeviceState
    ∃ v w, .gpuPerPid 7 v ∈ o.issued.map Prod.fst ∧
      .gpuPerPidPerDevice (perPidPerDeviceKey 7 1) w ∈ o.issued.map Prod.fst ∧
      v.usedGpuMemoryTotal = 4095 ∧ w.usedGpuMemory = 4096 ∧ ¬ TotalSound o 7 v := by
  intro o
  have hdetail : .gpuPerPidPerDevice (perPidPerDeviceKey 7 1)
      { timestampNs := 9, usedGpuMemory := 4096, smUtilPct := 0, memUtilPct := 0, encUtilPct := 0
        decUtilPct := 0, gpuDevice := 1, migInstance := 0 } ∈ o.issued.map Prod.fst := by
    decide +kernel
  refine ⟨{ timestampNs := 9, usedGpuMemoryTotal := 4095, smUtilPctMax := 0
            memUtilPctMax := 0, gpuDevicePrimary := 0xFF, deviceCount := 2 }, _,
    by decide +kernel, hdetail, rfl, rfl, ?_⟩
  intro h
  exact absurd (h.le_total 1 _ hdetail) (by decide)

end GpuEbpfBridge
