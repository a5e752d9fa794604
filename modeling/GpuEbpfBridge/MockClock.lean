import Mathlib.Data.List.MinMax
import GpuEbpfBridge.Board
import GpuEbpfBridge.MockFleet

/-! # The synthetic fleet under any clock

`Mock.ProcessSamples` compares the bound it gets with its own clock, and a wall clock may stand
still or go back.  A tick samples the whole fleet if the clock shows more than in all ticks before,
and nothing otherwise (`tick_samples_peak`); so the maps keep the fleet as it was in the tick with
the greatest reading so far, `latest` (`fleet_any_clock`). -/

namespace GpuEbpfBridge

open Lib

namespace Mock

/-! ### The greatest reading -/

/-- What the clock shows in the `ProcessSamples` call of a tick. -/
def reading (e : TickEnv MockEnv) : UInt64 := unixNano e.source.samplesNow

/-- The first of the ticks with the greatest reading, if some reading is positive. -/
def latest (envs : List (TickEnv MockEnv)) : Option (TickEnv MockEnv) :=
  (envs.filter (fun e => 0 < reading e)).argmax reading

/-- The greatest reading, 0 before the first tick. -/
def peakReading (envs : List (TickEnv MockEnv)) : UInt64 := ((latest envs).map reading).getD 0

theorem latest_concat (envs : List (TickEnv MockEnv)) (e : TickEnv MockEnv) :
    latest (envs ++ [e]) = if peakReading envs < reading e then some e else latest envs := by
  unfold peakReading latest
  rw [List.filter_append]
  by_cases h0 : 0 < reading e
  · rw [List.filter_cons_of_pos (by simpa using h0), List.filter_nil, List.argmax_concat]
    cases (envs.filter (fun e => 0 < reading e)).argmax reading with
    | none => exact (if_pos h0).symm
    | some c => rfl
  · rw [List.filter_cons_of_neg (by simpa using h0), List.filter_nil, List.append_nil, if_neg]
    exact fun h => h0 (lt_of_le_of_lt UInt64.zero_le h)

theorem peakReading_concat (envs : List (TickEnv MockEnv)) (e : TickEnv MockEnv) :
    peakReading (envs ++ [e]) = max (peakReading envs) (reading e) := by
  rw [peakReading, latest_concat]
  split_ifs with h
  · exact (max_eq_right (le_of_lt h)).symm
  · exact (max_eq_left (not_lt.mp h)).symm

theorem peakReading_lt_iff (envs : List (TickEnv MockEnv)) (t : UInt64) :
    peakReading envs < t ↔ 0 < t ∧ ∀ e ∈ envs, reading e < t := by
  induction envs using List.reverseRecOn with
  | nil => simp [peakReading, latest]
  | append_singleton envs e ih =>
      rw [peakReading_concat, max_lt_iff, ih, List.forall_mem_append, and_assoc]
      simp

end Mock

namespace Fleet

open Mock

/-! ### What the ticks sample -/

section samples

variable (f : Fleet)

/-- The time stamps of the samples of the fleet. -/
theorem greatest_fleet (env : MockEnv) (d : UInt32) :
    greatest ((List.range f.size).map (f.sample env)) d =
      if d.toNat < f.numDevices then unixNano env.samplesNow else 0 := by
  have hmem : ∀ x, x ∈ deviceSamples ((List.range f.size).map (f.sample env)) d ↔
      ∃ q < f.size, f.sample env q = x ∧ f.device q = d := by
    intro x
    unfold deviceSamples
    rw [List.mem_filter, List.mem_map, decide_eq_true_eq]
    constructor
    · rintro ⟨⟨q, hq, rfl⟩, hd⟩
      exact ⟨q, List.mem_range.mp hq, rfl, hd⟩
    · rintro ⟨q, hq, rfl, hd⟩
      exact ⟨⟨q, List.mem_range.mpr hq, rfl⟩, hd⟩
  unfold greatest
  split_ifs with hd
  · refine peak_eq ?_ (fun x hx => ?_)
    · -- the first process of the device
      have hq : d.toNat * f.pidsPerDevice < f.size :=
        Nat.mul_lt_mul_of_pos_right hd f.pids_pos
      have hdev : f.device (d.toNat * f.pidsPerDevice) = d := by
        apply UInt32.toNat_inj.mp
        rw [toNat_device hq, Nat.mul_div_cancel _ f.pids_pos]
      exact List.ne_nil_of_mem ((hmem _).mpr ⟨_, hq, rfl, hdev⟩)
    · obtain ⟨q, -, rfl, -⟩ := (hmem x).mp hx
      rfl
  · have hnil : deviceSamples ((List.range f.size).map (f.sample env)) d = [] := by
      rw [List.eq_nil_iff_forall_not_mem]
      intro x hx
      obtain ⟨q, hq, -, rfl⟩ := (hmem x).mp hx
      rw [toNat_device hq] at hd
      exact hd (device_lt hq)
    rw [hnil]
    rfl

theorem greatest_append (hist hist' : List ProcessSample) (d : UInt32) :
    greatest (hist ++ hist') d = max (greatest hist d) (greatest hist' d) := by
  unfold greatest deviceSamples peak
  rw [List.filter_append, List.toFinset_append, Finset.sup_union]

variable (env₀ : MockEnv) (helper : UInt32)

/-- One tick, for a bound. -/
theorem tick_samples_bound (pre : List (TickEnv MockEnv)) (env : TickEnv MockEnv) :
    (tick mockSource env (reach (step mockSource) (f.initial env₀ helper) pre)).samples =
      if minLastSeen env.lastSeenOrder
          (reach (step mockSource) (f.initial env₀ helper) pre).lastSeenPerDevice < reading env
      then (List.range f.size).map (f.sample env.source) else [] := by
  have hsource := f.run_source_eq env₀ helper pre
  obtain ⟨hok, hkeep⟩ := f.devices_started env₀ env.source
  rw [tick_devices_ok mockSource env _ (by rw [hsource]; exact hok)]
  change (Mock.processSamples env.source _ (Mock.devices env.source _).2).1.1 = _
  rw [hsource, hkeep]
  split_ifs with h
  · rw [f.processSamples_started env₀ env.source h]
  · have hle : unixNano env.source.samplesNow ≤ minLastSeen env.lastSeenOrder
        (reach (step mockSource) (f.initial env₀ helper) pre).lastSeenPerDevice := not_lt.mp h
    rw [started_eq, Mock.processSamples]
    simp only [ge_iff_le, if_pos hle]

/-- The bound lies below a reading exactly when all readings do. -/
theorem bound_lt_iff {pre : List (TickEnv MockEnv)} (o : RangeOrder (UInt32 × UInt64))
    (hhist : ∀ d, greatest (history (outcomes mockSource (f.initial env₀ helper) pre)) d =
      if d.toNat < f.numDevices then peakReading pre else 0) (t : UInt64) :
    minLastSeen o (reach (step mockSource) (f.initial env₀ helper) pre).lastSeenPerDevice < t ↔
      peakReading pre < t := by
  have hdev : (0 : UInt32).toNat < f.numDevices := f.devices_pos
  rw [(run_lastSeen mockSource (f.initial env₀ helper) rfl pre).minLastSeen_lt_iff]
  constructor
  · rintro ⟨h0, hzero | ⟨d, hpos, hlt⟩⟩
    · have hnone : ¬ 0 < greatest (history (outcomes mockSource (f.initial env₀ helper) pre)) 0 := by
        rw [greatest_pos_iff]
        rintro ⟨y, hy, -, hpos⟩
        rw [hzero y hy] at hpos
        exact lt_irrefl _ hpos
      rw [hhist, if_pos hdev] at hnone
      exact lt_of_le_of_lt (not_lt.mp hnone) h0
    · rw [hhist] at hpos hlt
      split_ifs at hpos hlt
      · exact hlt
      · exact absurd hpos (lt_irrefl _)
  · intro hlt
    refine ⟨lt_of_le_of_lt UInt64.zero_le hlt, ?_⟩
    by_cases h0 : 0 < peakReading pre
    · refine Or.inr ⟨0, ?_⟩
      rw [hhist, if_pos hdev]
      exact ⟨h0, hlt⟩
    · refine Or.inl (fun y hy => ?_)
      by_contra hne
      have hpos := greatest_pos_iff.mpr ⟨y, hy, rfl, UInt64.pos_iff_ne_zero.mpr hne⟩
      rw [hhist] at hpos
      split_ifs at hpos
      · exact h0 hpos
      · exact lt_irrefl _ hpos

/-- **The greatest time stamps of a run** are those of the tick with the greatest reading. -/
theorem greatest_history (envs : List (TickEnv MockEnv)) (d : UInt32) :
    greatest (history (outcomes mockSource (f.initial env₀ helper) envs)) d =
      if d.toNat < f.numDevices then peakReading envs else 0 := by
  induction envs using List.reverseRecOn generalizing d with
  | nil => exact (ite_self _).symm
  | append_singleton envs e ih =>
      have hout : history (outcomes mockSource (f.initial env₀ helper) (envs ++ [e])) =
          history (outcomes mockSource (f.initial env₀ helper) envs) ++
            (tick mockSource e (reach (step mockSource) (f.initial env₀ helper) envs)).samples := by
        rw [outcomes_concat, history, history, List.flatMap_append, List.flatMap_singleton]
      rw [hout, greatest_append, ih, f.tick_samples_bound, peakReading_concat]
      simp only [f.bound_lt_iff env₀ helper e.lastSeenOrder ih]
      by_cases hlt : peakReading envs < reading e
      · rw [if_pos hlt, greatest_fleet]
        split_ifs
        · rfl
        · rfl
      · rw [if_neg hlt, max_eq_left (not_lt.mp hlt)]
        exact max_eq_left UInt64.zero_le

/-- **What a tick samples**: the whole fleet, if the clock shows more than ever, and nothing
otherwise. -/
theorem tick_samples_peak (pre : List (TickEnv MockEnv)) (env : TickEnv MockEnv) :
    (tick mockSource env (reach (step mockSource) (f.initial env₀ helper) pre)).samples =
      if peakReading pre < reading env then (List.range f.size).map (f.sample env.source)
      else [] := by
  rw [f.tick_samples_bound]
  simp only [f.bound_lt_iff env₀ helper env.lastSeenOrder (f.greatest_history env₀ helper pre)]

end samples

/-! ### What the maps keep -/

section maps

variable (f : Fleet)

/-- The record of a process in `gpu_per_pid`. -/
def aggregated (env : MockEnv) (q : ℕ) : PidMetricsAggregated :=
  { timestampNs := (f.sample env q).timestampNs
    usedGpuMemoryTotal := (f.sample env q).usedGpuMemory
    smUtilPctMax := (f.sample env q).smUtilPct
    memUtilPctMax := (f.sample env q).memUtilPct
    gpuDevicePrimary := (f.device q).toUInt8
    deviceCount := 1 }

/-- The record of a process in `gpu_per_pid_per_device`. -/
def detailed (env : MockEnv) (q : ℕ) : PidMetrics := detailRecord (f.device q) [f.sample env q]

/-- The two per-PID maps hold the fleet as it was in a tick, or nothing. -/
structure OnRecord (last : Option (TickEnv MockEnv)) (m : Maps) : Prop where
  aggregate : ∀ q < f.size,
    m.gpuPerPid.lookup (f.pid q) = last.map (fun e => f.aggregated e.source q)
  detail : ∀ q < f.size, ∀ d, m.gpuPerPidPerDevice.lookup (perPidPerDeviceKey (f.pid q) d) =
    if d = f.device q then last.map (fun e => f.detailed e.source q) else none
  others : ∀ p, (∀ q < f.size, f.pid q ≠ p) →
    m.gpuPerPid.lookup p = none ∧
      ∀ d, m.gpuPerPidPerDevice.lookup (perPidPerDeviceKey p d) = none

variable {f} {env : MockEnv} {q : ℕ}

theorem pidRecord_eq (hq : q < f.size) :
    pidRecord ((List.range f.size).map (f.sample env)) (f.pid q) = f.aggregated env q := by
  have htotal : pidTotal ((List.range f.size).map (f.sample env)) (f.pid q) =
      (f.sample env q).usedGpuMemory.toNat := by
    rw [pidTotal, pidDevices_eq hq, Finset.sum_singleton, keySamples_eq hq, peak_cons]
    exact congrArg UInt64.toNat (max_eq_left UInt64.zero_le)
  have hbytes : deviceBytes ((List.range f.size).map (f.sample env)) (f.pid q) =
      {(f.device q).toUInt8} := by
    rw [deviceBytes, pidDevices_eq hq, Finset.image_singleton]
  have hpeak : ∀ {β : Type} [LinearOrder β] [OrderBot β] (g : ProcessSample → β),
      peak g [f.sample env q] = g (f.sample env q) := by
    intro β _ _ g
    rw [peak_cons]
    exact max_bot_right _
  rw [pidRecord, htotal, hbytes, pidSamples_eq hq, Finset.card_singleton, hpeak, hpeak, hpeak,
    UInt64.ofNat_toNat, if_neg (lt_irrefl 1)]
  rfl

/-- One tick of the fleet. -/
theorem OnRecord.tick_fleet {s : State Mock} {env : TickEnv MockEnv} {last : Option (TickEnv MockEnv)}
    (h : f.OnRecord last s.objs) (ht : (tick mockSource env s).AllTaken)
    (hs : (tick mockSource env s).samples = (List.range f.size).map (f.sample env.source)) :
    f.OnRecord (some env) (tick mockSource env s).state.objs := by
  have hother : ∀ p, (∀ q < f.size, f.pid q ≠ p) →
      pidSamples (tick mockSource env s).samples p = [] := by
    intro p hp
    rw [hs, pidSamples, List.filter_eq_nil_iff]
    intro x hx
    obtain ⟨q, hq, rfl⟩ := List.mem_map.mp hx
    exact fun he => hp q (List.mem_range.mp hq) (of_decide_eq_true he)
  have hkeys : ∀ p d, pidSamples (tick mockSource env s).samples p = [] →
      keySamples (tick mockSource env s).samples p d = [] := by
    intro p d hp
    rw [List.eq_nil_iff_forall_not_mem]
    intro x hx
    obtain ⟨hm, hpid, -⟩ := mem_keySamples.mp hx
    exact List.ne_nil_of_mem (mem_pidSamples.mpr ⟨hm, hpid⟩) hp
  constructor
  case aggregate =>
      intro q hq
      have hne : pidSamples (tick mockSource env s).samples (f.pid q) ≠ [] := by
        rw [hs, pidSamples_eq hq]
        exact List.cons_ne_nil _ _
      obtain ⟨b, hb, hagg⟩ := tick_aggregate_of_sampled mockSource env s ht (pid_ne_zero hq) hne
      have hcard : (deviceBytes (tick mockSource env s).samples (f.pid q)).card ≠ 256 := by
        rw [hs, deviceBytes, pidDevices_eq hq, Finset.image_singleton, Finset.card_singleton]
        decide
      rw [hb, hagg.record_eq hne hcard, hs, pidRecord_eq hq]
      rfl
  case detail =>
      intro q hq d
      rw [tick_lookup_detail mockSource env s ht, hs]
      by_cases hd : d = f.device q
      · subst hd
        rw [keySamples_eq hq, if_neg (not_or.mpr ⟨pid_ne_zero hq, List.cons_ne_nil _ _⟩), if_pos rfl]
        rfl
      · have hnil : keySamples ((List.range f.size).map (f.sample env.source)) (f.pid q) d = [] := by
          rw [← not_ne_iff, ← mem_pidDevices, pidDevices_eq hq, Finset.mem_singleton]
          exact hd
        rw [if_pos (Or.inr hnil), if_neg hd, h.detail q hq, if_neg hd]
  case others =>
      intro p hp
      obtain ⟨hagg, hdet⟩ := h.others p hp
      rw [tick_aggregate_of_not_sampled mockSource env s ht (Or.inr (hother p hp))]
      refine ⟨hagg, fun d => ?_⟩
      rw [tick_lookup_detail mockSource env s ht, if_pos (Or.inr (hkeys p d (hother p hp)))]
      exact hdet d

/-- One tick without samples. -/
theorem OnRecord.tick_nothing {s : State Mock} {env : TickEnv MockEnv}
    {last : Option (TickEnv MockEnv)} (h : f.OnRecord last s.objs)
    (ht : (tick mockSource env s).AllTaken) (hs : (tick mockSource env s).samples = []) :
    f.OnRecord last (tick mockSource env s).state.objs := by
  have hagg : ∀ p, (tick mockSource env s).state.objs.gpuPerPid.lookup p =
      s.objs.gpuPerPid.lookup p := by
    intro p
    exact tick_aggregate_of_not_sampled mockSource env s ht (Or.inr (by rw [hs]; rfl))
  have hdet : ∀ p d,
      (tick mockSource env s).state.objs.gpuPerPidPerDevice.lookup (perPidPerDeviceKey p d) =
        s.objs.gpuPerPidPerDevice.lookup (perPidPerDeviceKey p d) := by
    intro p d
    rw [tick_lookup_detail mockSource env s ht, if_pos (Or.inr (by rw [hs]; rfl))]
  constructor
  · intro q hq
    rw [hagg, h.aggregate q hq]
  · intro q hq d
    rw [hdet, h.detail q hq]
  · intro p hp
    rw [hagg]
    simp only [hdet]
    exact h.others p hp

/-- The maps after a run. -/
theorem run_onRecord (f : Fleet) (env₀ : MockEnv) (helper : UInt32) (envs : List (TickEnv MockEnv))
    (ht : ∀ o ∈ outcomes mockSource (f.initial env₀ helper) envs, o.AllTaken) :
    f.OnRecord (latest envs) (reach (step mockSource) (f.initial env₀ helper) envs).objs := by
  revert ht
  refine run_invariant (P := fun es (s : State Mock) =>
    (∀ o ∈ outcomes mockSource (f.initial env₀ helper) es, o.AllTaken) →
      f.OnRecord (latest es) s.objs) ?_ ?_ envs
  · intro _
    constructor
    · exact fun _ _ => rfl
    · exact fun _ _ _ => (ite_self _).symm
    · exact fun _ _ => ⟨rfl, fun _ => rfl⟩
  · intro es e ih ht
    rw [outcomes_concat] at ht
    have hold := ih (fun o ho => ht o (List.mem_append_left _ ho))
    have hnow := ht _ (List.mem_append_right _ List.mem_cons_self)
    have hsamples := f.tick_samples_peak env₀ helper es e
    rw [latest_concat, step]
    split_ifs at hsamples ⊢
    · exact hold.tick_fleet hnow hsamples
    · exact hold.tick_nothing hnow hsamples

end maps

end Fleet

/-- **The synthetic fleet under any clock.**  For every fleet that fits the maps and every run of ticks
whose clock may stand still and go back: a tick samples the whole fleet exactly when the clock shows
more than 0 and more than in all ticks before, and nothing otherwise; and after a run whose updates
succeed, without LRU eviction, the two per-PID maps hold the fleet as the first tick with the greatest
reading sampled it. -/
theorem fleet_any_clock (f : Fleet) (env₀ : MockEnv) (helper : UInt32) :
    (∀ pre env,
      (tick mockSource env (reach (step mockSource) (f.initial env₀ helper) pre)).samples =
        if 0 < Mock.reading env ∧ ∀ e ∈ pre, Mock.reading e < Mock.reading env then
          (List.range f.size).map (f.sample env.source)
        else []) ∧
    ∀ envs, (∀ o ∈ outcomes mockSource (f.initial env₀ helper) envs, o.AllTaken) →
      f.OnRecord (Mock.latest envs)
        (reach (step mockSource) (f.initial env₀ helper) envs).objs := by
  constructor
  · intro pre env
    rw [f.tick_samples_peak]
    exact if_congr (Mock.peakReading_lt_iff pre _) rfl rfl
  · exact f.run_onRecord env₀ helper

/-- A clock that goes back by a second after the first tick. -/
def steppedBack : List (TickEnv MockEnv) :=
  [ { source := { devicesNow := 1750000001000000000, samplesNow := 1750000001000000001 }
      now := 1750000001000000002 },
    { source := { devicesNow := 1750000000000000000, samplesNow := 1750000000000000001 }
      now := 1750000000000000002 } ]

/-- After `steppedBack` the maps hold the fleet as in the first tick. -/
theorem fleet_any_clock_steppedBack :
    defaultFleet.OnRecord (some steppedBack[0])
      (reach (step mockSource) (defaultFleet.initial { devicesNow := 0, samplesNow := 0 } 1)
        steppedBack).objs := by
  have hrun := (fleet_any_clock defaultFleet { devicesNow := 0, samplesNow := 0 } 1).2 steppedBack
    (by decide +kernel)
  have hlatest : Mock.latest steppedBack = some steppedBack[0] := rfl
  rwa [hlatest] at hrun

end GpuEbpfBridge
