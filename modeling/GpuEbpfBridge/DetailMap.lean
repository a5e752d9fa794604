import GpuEbpfBridge.TickSpec

/-! # The detail map over runs

`gpu_per_pid_per_device` outlives the ticks and nothing is removed from it, so after a run the
entry of a key is the record of the last tick that sampled the key (`run_lookup_detail`).  Two
runs that sample a key alike leave the same entry, whatever else they sample. -/

namespace GpuEbpfBridge

open Lib

variable {ε σ : Type}

/-- The ticks that sampled a key, in order. -/
def sampledTicks (os : List (Outcome σ)) (pid dev : UInt32) : List (Outcome σ) :=
  os.filter (fun o => keySamples o.samples pid dev ≠ [])

theorem mem_sampledTicks {os : List (Outcome σ)} {pid dev : UInt32} {o : Outcome σ} :
    o ∈ sampledTicks os pid dev ↔ o ∈ os ∧ keySamples o.samples pid dev ≠ [] := by
  simp [sampledTicks]

theorem sampledTicks_concat (os : List (Outcome σ)) (o : Outcome σ) (pid dev : UInt32) :
    sampledTicks (os ++ [o]) pid dev =
      if keySamples o.samples pid dev = [] then sampledTicks os pid dev
      else sampledTicks os pid dev ++ [o] := by
  unfold sampledTicks
  rw [List.filter_append]
  by_cases h : keySamples o.samples pid dev = []
  · simp [h]
  · simp [h]

@[simp] theorem outcomes_concat (S : Source ε σ) (s : State σ) (envs : List (TickEnv ε))
    (env : TickEnv ε) :
    outcomes S s (envs ++ [env]) =
      outcomes S s envs ++ [tick S env (reach (step S) s envs)] :=
  outputs_concat _ _ _ _ _

/-- The state that the tick after a run leaves is that of the longer run. -/
theorem tick_state (S : Source ε σ) (s : State σ) (envs : List (TickEnv ε)) (env : TickEnv ε) :
    (tick S env (reach (step S) s envs)).state = reach (step S) s (envs ++ [env]) :=
  (reach_concat (step S) s envs env).symm

/-- **The detail entry after a run**: that of the last tick that sampled the key. -/
theorem run_lookup_detail (S : Source ε σ) (source : σ) (helper : UInt32)
    (envs : List (TickEnv ε))
    (ht : ∀ o ∈ outcomes S (State.initial source helper) envs, o.AllTaken) (pid dev : UInt32) :
    (reach (step S) (State.initial source helper) envs).objs.gpuPerPidPerDevice.lookup
        (perPidPerDeviceKey pid dev) =
      if pid = 0 then none
      else (sampledTicks (outcomes S (State.initial source helper) envs) pid dev).getLast?.map
        (fun o => detailRecord dev (keySamples o.samples pid dev)) := by
  revert ht
  refine run_invariant (P := fun es (st : State σ) =>
    (∀ o ∈ outcomes S (State.initial source helper) es, o.AllTaken) →
      st.objs.gpuPerPidPerDevice.lookup (perPidPerDeviceKey pid dev) =
        if pid = 0 then none
        else (sampledTicks (outcomes S (State.initial source helper) es) pid dev).getLast?.map
          (fun o => detailRecord dev (keySamples o.samples pid dev))) ?_ ?_ envs
  · intro _
    simp [State.initial, Maps.empty, outcomes, outputs, sampledTicks]
  · intro es e ih ht
    rw [outcomes_concat] at ht ⊢
    have htick := ht _ (List.mem_append_right _ (List.mem_singleton.mpr rfl))
    have hstep := tick_lookup_detail S e (reach (step S) (State.initial source helper) es) htick
      pid dev
    rw [step, hstep, ih (fun o ho => ht o (List.mem_append_left _ ho)), sampledTicks_concat]
    by_cases h0 : pid = 0
    · simp [h0]
    · by_cases hk : keySamples
        (tick S e (reach (step S) (State.initial source helper) es)).samples pid dev = []
      · simp [h0, hk]
      · simp [h0, hk]

/-- **The detail entries after a run**: one for each key ever sampled. -/
theorem run_detail_isSome (S : Source ε σ) (source : σ) (helper : UInt32)
    (envs : List (TickEnv ε))
    (ht : ∀ o ∈ outcomes S (State.initial source helper) envs, o.AllTaken) (pid dev : UInt32) :
    ((reach (step S) (State.initial source helper) envs).objs.gpuPerPidPerDevice.lookup
        (perPidPerDeviceKey pid dev)).isSome ↔
      pid ≠ 0 ∧ ∃ o ∈ outcomes S (State.initial source helper) envs,
        ∃ s ∈ o.samples, s.pid = pid ∧ s.deviceIndex = dev := by
  have hkey : (∃ o ∈ outcomes S (State.initial source helper) envs,
      ∃ s ∈ o.samples, s.pid = pid ∧ s.deviceIndex = dev) ↔
        sampledTicks (outcomes S (State.initial source helper) envs) pid dev ≠ [] := by
    constructor
    · rintro ⟨o, ho, s, hs, hp, hd⟩
      exact List.ne_nil_of_mem (mem_sampledTicks.mpr
        ⟨ho, List.ne_nil_of_mem (mem_keySamples.mpr ⟨hs, hp, hd⟩)⟩)
    · intro h
      obtain ⟨o, ho⟩ := List.exists_mem_of_ne_nil _ h
      obtain ⟨hm, hk⟩ := mem_sampledTicks.mp ho
      obtain ⟨s, hs⟩ := List.exists_mem_of_ne_nil _ hk
      exact ⟨o, hm, s, mem_keySamples.mp hs⟩
  rw [hkey, run_lookup_detail S source helper envs ht]
  by_cases h0 : pid = 0
  · simp [h0]
  · rw [if_neg h0, Option.isSome_map, List.getLast?_isSome]
    exact (and_iff_right h0).symm

/-- The last tick that sampled a key, where the run is split there. -/
theorem getLast_sampledTicks {pre post : List (Outcome σ)} {o : Outcome σ} {pid dev : UInt32}
    (ho : keySamples o.samples pid dev ≠ [])
    (hpost : ∀ o' ∈ post, keySamples o'.samples pid dev = []) :
    (sampledTicks (pre ++ o :: post) pid dev).getLast? = some o := by
  have hnil : sampledTicks post pid dev = [] := by
    unfold sampledTicks
    rw [List.filter_eq_nil_iff]
    intro o' ho'
    simp [hpost o' ho']
  have hsplit : sampledTicks (pre ++ o :: post) pid dev =
      sampledTicks pre pid dev ++ [o] ++ sampledTicks post pid dev := by
    simp [sampledTicks, ho]
  rw [hsplit, hnil, List.append_nil, List.getLast?_concat]

theorem sampledTicks_map_keySamples (os : List (Outcome σ)) (pid dev : UInt32) :
    (sampledTicks os pid dev).map (fun o => keySamples o.samples pid dev) =
      (os.map (fun o => keySamples o.samples pid dev)).filter (fun l => l ≠ []) := by
  unfold sampledTicks
  rw [List.filter_map]
  rfl

/-- **The detail map holds, per key, the field-wise maximum of the last tick that sampled the
key**, if the kernel evicts nothing.  In order: which keys are present; what their entry is; no key is written twice in a
tick; the entry of a key is determined by the samples of that key alone, tick by tick; and the
dump decodes the stored keys to exactly these pairs, without collisions. -/
theorem detail_map_exact (S : Source ε σ) (source : σ) (helper : UInt32)
    (envs : List (TickEnv ε))
    (ht : ∀ o ∈ outcomes S (State.initial source helper) envs, o.AllTaken) :
    let os := outcomes S (State.initial source helper) envs
    let m := (reach (step S) (State.initial source helper) envs).objs
    (∀ p d, (m.gpuPerPidPerDevice.lookup (perPidPerDeviceKey p d)).isSome ↔
      p ≠ 0 ∧ ∃ o ∈ os, ∃ s ∈ o.samples, s.pid = p ∧ s.deviceIndex = d) ∧
    (∀ p d pre o post, p ≠ 0 → os = pre ++ o :: post → keySamples o.samples p d ≠ [] →
      (∀ o' ∈ post, keySamples o'.samples p d = []) →
      m.gpuPerPidPerDevice.lookup (perPidPerDeviceKey p d) =
        some (detailRecord d (keySamples o.samples p d))) ∧
    (∀ o ∈ os, ∀ key,
      (o.issued.map (fun x => x.1.slot)).count (.gpuPerPidPerDevice key) ≤ 1) ∧
    (∀ (S' : Source ε σ) (source' : σ) (helper' : UInt32) (envs' : List (TickEnv ε)),
      (∀ o ∈ outcomes S' (State.initial source' helper') envs', o.AllTaken) → ∀ p d,
      (outcomes S' (State.initial source' helper') envs').map (fun o => keySamples o.samples p d) =
        os.map (fun o => keySamples o.samples p d) →
      (reach (step S') (State.initial source' helper') envs').objs.gpuPerPidPerDevice.lookup
          (perPidPerDeviceKey p d) =
        m.gpuPerPidPerDevice.lookup (perPidPerDeviceKey p d)) ∧
    (∀ order, ((dumpPerPidPerDevice order m).map Prod.fst).Nodup ∧
      ∀ p d, (p, d) ∈ (dumpPerPidPerDevice order m).map Prod.fst ↔
        p ≠ 0 ∧ ∃ o ∈ os, ∃ s ∈ o.samples, s.pid = p ∧ s.deviceIndex = d) := by
  intro os m
  have hlook := run_lookup_detail S source helper envs ht
  have hpresent : ∀ p d, (m.gpuPerPidPerDevice.lookup (perPidPerDeviceKey p d)).isSome ↔
      p ≠ 0 ∧ ∃ o ∈ os, ∃ s ∈ o.samples, s.pid = p ∧ s.deviceIndex = d :=
    run_detail_isSome S source helper envs ht
  refine ⟨hpresent, ?_, ?_, ?_, ?_⟩
  · intro p d pre o post h0 hos ho hpost
    have hl : m.gpuPerPidPerDevice.lookup (perPidPerDeviceKey p d) = _ := hlook p d
    rw [if_neg h0, show outcomes S (State.initial source helper) envs = pre ++ o :: post from hos,
      getLast_sampledTicks ho hpost] at hl
    exact hl
  · intro o ho key
    obtain ⟨pre, e, post, -, rfl⟩ := exists_of_mem_outputs ho
    exact count_detail_le_one S e _ key
  · intro S' source' helper' envs' ht' p d hsame
    have hl : m.gpuPerPidPerDevice.lookup (perPidPerDeviceKey p d) = _ := hlook p d
    rw [run_lookup_detail S' source' helper' envs' ht' p d, hl]
    have hmap := congrArg (List.filter (fun l => l ≠ [])) hsame
    rw [← sampledTicks_map_keySamples, ← sampledTicks_map_keySamples] at hmap
    have hlast := congrArg (fun l => l.getLast?.map (detailRecord d)) hmap
    simp only [List.getLast?_map, Option.map_map] at hlast
    rw [show (fun o : Outcome σ => detailRecord d (keySamples o.samples p d)) =
      detailRecord d ∘ fun o => keySamples o.samples p d from rfl, hlast]
  · intro order
    refine ⟨dumpPerPidPerDevice_nodup order m, fun p d => ?_⟩
    rw [← hpresent, Option.isSome_iff_exists, List.mem_map]
    constructor
    · rintro ⟨⟨k, v⟩, hm, rfl⟩
      exact ⟨v, mem_dumpPerPidPerDevice.mp hm⟩
    · rintro ⟨v, hv⟩
      exact ⟨((p, d), v), mem_dumpPerPidPerDevice.mpr hv, rfl⟩

/-- A process that holds memory on two devices, sampled twice on the first of them, and in the
next tick on the second alone. -/
def shrinkingProcess : List (TickEnv (List DeviceSnapshot × List ProcessSample)) :=
  [ { source :=
        ([{ index := 0, timestampNs := 5 }, { index := 1, timestampNs := 5 }],
          [{ pid := 7, deviceIndex := 0, timestampNs := 5, usedGpuMemory := 10, migInstance := 2 },
            { pid := 0, deviceIndex := 0, timestampNs := 5, usedGpuMemory := 99 },
            { pid := 7, deviceIndex := 0, timestampNs := 4, smUtilPct := 3, migInstance := 1 },
            { pid := 7, deviceIndex := 1, timestampNs := 5, usedGpuMemory := 20 }])
      now := 6 },
    { source :=
        ([{ index := 0, timestampNs := 8 }, { index := 1, timestampNs := 8 }],
          [{ pid := 7, deviceIndex := 1, timestampNs := 8, usedGpuMemory := 30 }])
      now := 9 } ]

theorem detail_map_exact_shrinkingProcess :
    let m := (reach (step fakeNvml) (State.initial () 1) shrinkingProcess).objs
    m.gpuPerPidPerDevice.lookup (perPidPerDeviceKey 7 0) =
        some { timestampNs := 5, usedGpuMemory := 10, smUtilPct := 3, memUtilPct := 0
               encUtilPct := 0, decUtilPct := 0, gpuDevice := 0, migInstance := 2 } ∧
      (m.gpuPerPidPerDevice.lookup (perPidPerDeviceKey 0 0)).isSome = false := by
  have h := detail_map_exact fakeNvml () 1 shrinkingProcess (by decide +kernel)
  constructor
  · exact h.2.1 7 0 [] (tick fakeNvml shrinkingProcess[0] (State.initial () 1)) _
      (by decide) rfl (by decide +kernel) (by decide +kernel)
  · exact Bool.eq_false_iff.mpr (fun hs => ((h.1 0 0).mp hs).1 rfl)

end GpuEbpfBridge
