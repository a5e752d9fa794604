import GpuEbpfBridge.DetailMap

/-! # The two per-PID maps over runs

A tick rewrites the aggregated record of every PID it sampled from the samples of that tick
alone, and rewrites the detail records of the (PID, device) pairs it sampled.  Nothing but an LRU
eviction removes an entry: `DeletePerPid` and `DeletePerPidPerDevice` have no caller.  So, without
eviction, the entries after a run are
those of every key ever sampled (`run_detail_isSome`, `run_aggregate_isSome`), and the two
properties of this module hold after a tick exactly when the tick sampled again what the ticks
before it had sampled: the agreement of the two maps on a PID (`pid_maps_agree_iff`), and
that every entry is vouched for by the last tick (`entries_current_iff`). -/

namespace GpuEbpfBridge

open Lib

variable {ε σ : Type}

/-! ### The detail entries of a PID -/

/-- The entries (PID, d) of `gpu_per_pid_per_device` for one PID, as pairs of d and record. -/
def pidEntries (m : Maps) (pid : UInt32) : List (UInt32 × PidMetrics) :=
  ((GoMap.pairs m.gpuPerPidPerDevice).filter (fun e => (splitKey e.1).1 = pid)).map
    (fun e => ((splitKey e.1).2, e.2))

theorem mem_pidEntries {m : Maps} {pid dev : UInt32} {v : PidMetrics} :
    (dev, v) ∈ pidEntries m pid ↔
      m.gpuPerPidPerDevice.lookup (perPidPerDeviceKey pid dev) = some v := by
  unfold pidEntries
  rw [List.mem_map]
  constructor
  · rintro ⟨⟨key, w⟩, hm, he⟩
    rw [List.mem_filter, decide_eq_true_eq, GoMap.mem_pairs] at hm
    obtain ⟨hl, hp⟩ := hm
    obtain ⟨hd, rfl⟩ := Prod.mk.inj he
    rw [← perPidPerDeviceKey_splitKey key, hp, hd] at hl
    exact hl
  · intro h
    refine ⟨(perPidPerDeviceKey pid dev, v), ?_, ?_⟩
    · rw [List.mem_filter, decide_eq_true_eq, GoMap.mem_pairs, splitKey_perPidPerDeviceKey]
      exact ⟨h, rfl⟩
    · rw [splitKey_perPidPerDeviceKey]

/-- A device has one entry at most. -/
theorem pidEntries_nodup (m : Maps) (pid : UInt32) :
    ((pidEntries m pid).map Prod.fst).Nodup := by
  unfold pidEntries
  rw [List.map_map]
  have hkeys : ((GoMap.pairs m.gpuPerPidPerDevice).filter
      (fun e => (splitKey e.1).1 = pid)).Nodup :=
    (GoMap.pairs_keys_nodup _).of_map.filter _
  refine List.Nodup.map_on ?_ hkeys
  rintro ⟨k, v⟩ hk ⟨k', v'⟩ hk' h
  rw [List.mem_filter, decide_eq_true_eq, GoMap.mem_pairs] at hk hk'
  have hkk : k = k' := splitKey_injective (Prod.ext (hk.2.trans hk'.2.symm) h)
  subst hkk
  rw [Option.some.inj (hk.1.symm.trans hk'.1)]

theorem pidEntries_devices {m : Maps} {pid : UInt32} {D : Finset UInt32}
    (hD : ∀ d, (m.gpuPerPidPerDevice.lookup (perPidPerDeviceKey pid d)).isSome ↔ d ∈ D) :
    (pidEntries m pid).length = D.card := by
  have hset : ((pidEntries m pid).map Prod.fst).toFinset = D := by
    ext d
    rw [List.mem_toFinset, List.mem_map, ← hD, Option.isSome_iff_exists]
    constructor
    · rintro ⟨⟨d, v⟩, hm, rfl⟩
      exact ⟨v, mem_pidEntries.mp hm⟩
    · rintro ⟨v, hv⟩
      exact ⟨(d, v), mem_pidEntries.mpr hv, rfl⟩
  rw [← hset, List.toFinset_card_of_nodup (pidEntries_nodup m pid), List.length_map]

theorem pidEntries_perm {m : Maps} {pid : UInt32} {D : Finset UInt32} {f : UInt32 → PidMetrics}
    (hD : ∀ d, m.gpuPerPidPerDevice.lookup (perPidPerDeviceKey pid d) =
      if d ∈ D then some (f d) else none) :
    (pidEntries m pid).Perm (D.toList.map (fun d => (d, f d))) := by
  have hinj : Function.Injective (fun d : UInt32 => (d, f d)) := fun d d' h => (Prod.mk.inj h).1
  refine (List.perm_ext_iff_of_nodup (pidEntries_nodup m pid).of_map
    ((Finset.nodup_toList _).map hinj)).mpr ?_
  rintro ⟨d, v⟩
  rw [mem_pidEntries, hD, List.mem_map]
  constructor
  · intro h
    split_ifs at h with hd
    obtain rfl := Option.some.inj h
    exact ⟨d, Finset.mem_toList.mpr hd, rfl⟩
  · rintro ⟨d', hd', he⟩
    obtain ⟨rfl, rfl⟩ := Prod.mk.inj he
    rw [if_pos (Finset.mem_toList.mp hd')]

/-! ### Agreement of the two maps -/

/-- The aggregated record of a PID against the detail entries of the PID. -/
structure PidRecordAgrees (r : PidMetricsAggregated) (es : List (UInt32 × PidMetrics)) : Prop where
  deviceCount : r.deviceCount.toNat = es.length
  usedGpuMemoryTotal :
    r.usedGpuMemoryTotal.toNat = (es.map (fun e => e.2.usedGpuMemory.toNat)).sum
  smUtilPctMax : r.smUtilPctMax = es.toFinset.sup (fun e => e.2.smUtilPct)
  memUtilPctMax : r.memUtilPctMax = es.toFinset.sup (fun e => e.2.memUtilPct)
  gpuDevicePrimary :
    (∀ e, es = [e] → r.gpuDevicePrimary.toNat = e.1.toNat) ∧
      (1 < es.length → r.gpuDevicePrimary = devicePrimaryMulti)

/-- The two maps agree on a PID: it has an aggregated record, and the record fits the detail
entries. -/
def PidMapsAgree (m : Maps) (pid : UInt32) : Prop :=
  ∃ r, m.gpuPerPid.lookup pid = some r ∧ PidRecordAgrees r (pidEntries m pid)

/-- The record built from some samples fits the detail records built from the same samples. -/
theorem PidAggregate.agrees {samples : List ProcessSample} {pid : UInt32} {b : AggBuilder}
    (h : PidAggregate samples pid b) (hs : pidSamples samples pid ≠ [])
    (hd : ∀ d ∈ pidDevices samples pid, d.toNat < maxDevices)
    (hov : pidTotal samples pid < 2 ^ 64) {es : List (UInt32 × PidMetrics)}
    (hes : es.Perm ((pidDevices samples pid).toList.map
      (fun d => (d, detailRecord d (keySamples samples pid d))))) :
    PidRecordAgrees b.record es := by
  have hlen : es.length = (pidDevices samples pid).card := by
    rw [hes.length_eq, List.length_map, Finset.length_toList]
  have hset : es.toFinset = (pidDevices samples pid).image
      (fun d => (d, detailRecord d (keySamples samples pid d))) := by
    rw [List.toFinset_eq_of_perm _ _ hes]
    ext e
    simp
  have hsup {β : Type} [LinearOrder β] [OrderBot β] (f : ProcessSample → β)
      (g : UInt32 × PidMetrics → β)
      (hg : ∀ d, g (d, detailRecord d (keySamples samples pid d)) =
        peak f (keySamples samples pid d)) :
      es.toFinset.sup g = peak f (pidSamples samples pid) := by
    rw [hset, Finset.sup_image, peak_pidSamples]
    exact Finset.sup_congr rfl (fun d _ => hg d)
  obtain ⟨hone, hmulti⟩ := h.primary_eq hs hd
  constructor
  · rw [hlen]
    exact h.devCount_eq hs hd
  · have htotal : b.record.usedGpuMemoryTotal.toNat = pidTotal samples pid :=
      h.usedTotal.trans (Nat.mod_eq_of_lt hov)
    rw [htotal, (hes.map _).sum_eq, List.map_map, pidTotal, ← Finset.sum_map_toList]
    rfl
  · exact h.smMax.trans (hsup _ _ (fun _ => rfl)).symm
  · exact h.memMax.trans (hsup _ _ (fun _ => rfl)).symm
  · constructor
    · rintro ⟨d, v⟩ he
      have hmem : ∀ d', d' ∈ pidDevices samples pid → d' = d := by
        intro d' hd'
        have hm : (d', detailRecord d' (keySamples samples pid d')) ∈ es.toFinset := by
          rw [hset]
          exact Finset.mem_image_of_mem _ hd'
        rw [he, List.mem_toFinset, List.mem_singleton] at hm
        exact (Prod.mk.inj hm).1
      have hdev : pidDevices samples pid = {d} :=
        Finset.eq_singleton_iff_nonempty_unique_mem.mpr ⟨pidDevices_nonempty.mpr hs, hmem⟩
      have hlt := hd d (by rw [hdev]; exact Finset.mem_singleton_self d)
      rw [hone d hdev, UInt32.toNat_toUInt8]
      unfold maxDevices at hlt
      exact Nat.mod_eq_of_lt (by omega)
    · rw [hlen]
      exact hmulti

/-! ### One tick -/

/-- The aggregated record of a PID that a tick sampled. -/
theorem tick_aggregate_of_sampled (S : Source ε σ) (env : TickEnv ε) (s : State σ)
    (ht : (tick S env s).AllTaken) {pid : UInt32} (h0 : pid ≠ 0)
    (hs : pidSamples (tick S env s).samples pid ≠ []) :
    ∃ b, (tick S env s).state.objs.gpuPerPid.lookup pid = some b.record ∧
      PidAggregate (tick S env s).samples pid b := by
  obtain ⟨b, hb, hagg⟩ := exists_lookup_agg env.perDevOrder h0 hs
  refine ⟨b, ?_, hagg⟩
  rw [tick_lookup_aggregate S env s ht, hb]
  rfl

/-- The aggregated record of any other PID stays what it was. -/
theorem tick_aggregate_of_not_sampled (S : Source ε σ) (env : TickEnv ε) (s : State σ)
    (ht : (tick S env s).AllTaken) {pid : UInt32}
    (h : pid = 0 ∨ pidSamples (tick S env s).samples pid = []) :
    (tick S env s).state.objs.gpuPerPid.lookup pid = s.objs.gpuPerPid.lookup pid := by
  rw [tick_lookup_aggregate S env s ht, lookup_agg_eq_none env.perDevOrder h]
  rfl

/-- **Agreement after one tick** on a PID it sampled: no device but those of the tick has an
entry. -/
theorem tick_agree_iff (S : Source ε σ) (env : TickEnv ε) (s : State σ)
    (ht : (tick S env s).AllTaken) {pid : UInt32} (h0 : pid ≠ 0)
    (hs : pidSamples (tick S env s).samples pid ≠ [])
    (hd : ∀ d ∈ pidDevices (tick S env s).samples pid, d.toNat < maxDevices)
    (hov : pidTotal (tick S env s).samples pid < 2 ^ 64) {D : Finset UInt32}
    (hD : ∀ d, ((tick S env s).state.objs.gpuPerPidPerDevice.lookup
      (perPidPerDeviceKey pid d)).isSome ↔ d ∈ D) :
    PidMapsAgree (tick S env s).state.objs pid ↔
      D ⊆ pidDevices (tick S env s).samples pid := by
  obtain ⟨b, hb, hagg⟩ := tick_aggregate_of_sampled S env s ht h0 hs
  have hnow : ∀ d ∈ pidDevices (tick S env s).samples pid,
      (tick S env s).state.objs.gpuPerPidPerDevice.lookup (perPidPerDeviceKey pid d) =
        some (detailRecord d (keySamples (tick S env s).samples pid d)) := by
    intro d hd
    rw [tick_lookup_detail S env s ht, if_neg]
    rw [not_or]
    exact ⟨h0, mem_pidDevices.mp hd⟩
  have hsub : pidDevices (tick S env s).samples pid ⊆ D := by
    intro d hd
    rw [← hD, hnow d hd]
    rfl
  constructor
  · rintro ⟨r, hr, hagree⟩
    obtain rfl : b.record = r := Option.some.inj (hb.symm.trans hr)
    have hcard : (pidDevices (tick S env s).samples pid).card = D.card := by
      rw [← hagg.devCount_eq hs hd, ← pidEntries_devices hD]
      exact hagree.deviceCount
    rw [Finset.eq_of_subset_of_card_le hsub hcard.ge]
  · intro h
    obtain rfl := Finset.Subset.antisymm h hsub
    refine ⟨b.record, hb, hagg.agrees hs hd hov (pidEntries_perm (fun d => ?_))⟩
    split_ifs with hm
    · exact hnow d hm
    · exact Option.not_isSome_iff_eq_none.mp (fun hsome => hm ((hD d).mp hsome))

/-! ### Runs -/

theorem outcomes_split (S : Source ε σ) (s : State σ) (pre post : List (TickEnv ε))
    (env : TickEnv ε) :
    outcomes S s (pre ++ env :: post) =
      outcomes S s pre ++ tick S env (reach (step S) s pre) ::
        outcomes S (step S (reach (step S) s pre) env) post :=
  outputs_append _ _ _ _ _

/-- The devices on which some tick sampled a PID. -/
def runDevices (os : List (Outcome σ)) (pid : UInt32) : Finset UInt32 :=
  pidDevices (os.flatMap (fun o => o.samples)) pid

theorem mem_runDevices {os : List (Outcome σ)} {pid dev : UInt32} :
    dev ∈ runDevices os pid ↔
      ∃ o ∈ os, ∃ s ∈ o.samples, s.pid = pid ∧ s.deviceIndex = dev := by
  unfold runDevices
  rw [mem_pidDevices_iff_exists]
  constructor
  · rintro ⟨s, hs, h⟩
    obtain ⟨o, ho, hs⟩ := List.mem_flatMap.mp hs
    exact ⟨o, ho, s, hs, h⟩
  · rintro ⟨o, ho, s, hs, h⟩
    exact ⟨s, List.mem_flatMap.mpr ⟨o, ho, hs⟩, h⟩

/-- The ticks up to one of a run. -/
theorem allTaken_upto {S : Source ε σ} {s : State σ} {pre : List (TickEnv ε)} {env : TickEnv ε}
    {os : List (Outcome σ)}
    (ht : ∀ o ∈ outcomes S s pre ++ tick S env (reach (step S) s pre) :: os, o.AllTaken) :
    ∀ o ∈ outcomes S s (pre ++ [env]), o.AllTaken := by
  intro o ho
  rw [outcomes_concat] at ho
  rcases List.mem_append.mp ho with ho | ho
  · exact ht o (List.mem_append_left _ ho)
  · obtain rfl := List.mem_singleton.mp ho
    exact ht _ (List.mem_append_right _ List.mem_cons_self)

/-- **The aggregated entries after a run**: one for each PID ever sampled. -/
theorem run_aggregate_isSome (S : Source ε σ) (source : σ) (helper : UInt32)
    (envs : List (TickEnv ε))
    (ht : ∀ o ∈ outcomes S (State.initial source helper) envs, o.AllTaken) (pid : UInt32) :
    ((reach (step S) (State.initial source helper) envs).objs.gpuPerPid.lookup pid).isSome ↔
      pid ≠ 0 ∧ ∃ o ∈ outcomes S (State.initial source helper) envs,
        ∃ s ∈ o.samples, s.pid = pid := by
  revert ht
  refine run_invariant (P := fun es (st : State σ) =>
    (∀ o ∈ outcomes S (State.initial source helper) es, o.AllTaken) →
      ((st.objs.gpuPerPid.lookup pid).isSome ↔
        pid ≠ 0 ∧ ∃ o ∈ outcomes S (State.initial source helper) es,
          ∃ s ∈ o.samples, s.pid = pid)) ?_ ?_ envs
  · intro _
    simp [State.initial, Maps.empty, outcomes, outputs]
  · intro es e ih ht
    rw [outcomes_concat] at ht ⊢
    have htick := ht _ (List.mem_append_right _ (List.mem_singleton.mpr rfl))
    have hold := ih (fun o ho => ht o (List.mem_append_left _ ho))
    have hmem : (∃ s ∈ (tick S e (reach (step S) (State.initial source helper) es)).samples,
        s.pid = pid) ↔
          pidSamples (tick S e (reach (step S) (State.initial source helper) es)).samples pid ≠
            [] := by
      constructor
      · rintro ⟨s, hs, hp⟩
        exact List.ne_nil_of_mem (mem_pidSamples.mpr ⟨hs, hp⟩)
      · intro h
        obtain ⟨s, hs⟩ := List.exists_mem_of_ne_nil _ h
        exact ⟨s, mem_pidSamples.mp hs⟩
    simp only [List.mem_append, List.mem_singleton, or_and_right, exists_or, exists_eq_left, hmem]
    rw [step]
    by_cases h : pid = 0 ∨ pidSamples
        (tick S e (reach (step S) (State.initial source helper) es)).samples pid = []
    · rw [tick_aggregate_of_not_sampled S e _ htick h, hold]
      rcases h with h | h
      · simp [h]
      · simp [h]
    · rw [not_or] at h
      obtain ⟨b, hb, -⟩ := tick_aggregate_of_sampled S e _ htick h.1 h.2
      rw [hb]
      simp [h.1, h.2]

/-- **When the two per-PID maps agree.**  In a run from empty maps in which every update
succeeds, no entry is evicted, device indices are in range and no sum overflows, the maps agree on a PID that a tick
sampled exactly when the PID is not 0 and the tick sampled it again on every device on which
an earlier tick had sampled it. -/
theorem pid_maps_agree_iff (S : Source ε σ) (source : σ) (helper : UInt32)
    (envs : List (TickEnv ε))
    (ht : ∀ o ∈ outcomes S (State.initial source helper) envs, o.AllTaken)
    (hdev : ∀ o ∈ outcomes S (State.initial source helper) envs,
      ∀ s ∈ o.samples, s.deviceIndex.toNat < maxDevices)
    (hov : ∀ o ∈ outcomes S (State.initial source helper) envs,
      ∀ s ∈ o.samples, pidTotal o.samples s.pid < 2 ^ 64) :
    ∀ pre env post, envs = pre ++ env :: post →
      let o := tick S env (reach (step S) (State.initial source helper) pre)
      ∀ s ∈ o.samples,
        (PidMapsAgree o.state.objs s.pid ↔
          s.pid ≠ 0 ∧ ∀ o' ∈ outcomes S (State.initial source helper) pre, ∀ s' ∈ o'.samples,
            s'.pid = s.pid → ∃ s'' ∈ o.samples, s''.pid = s.pid ∧
              s''.deviceIndex = s'.deviceIndex) := by
  intro pre env post henvs o s hs
  rw [henvs, outcomes_split] at ht hdev hov
  have hmem : o ∈ outcomes S (State.initial source helper) pre ++ o ::
      outcomes S (step S (reach (step S) (State.initial source helper) pre) env) post :=
    List.mem_append_right _ List.mem_cons_self
  have hrun := allTaken_upto ht
  have hstate : o.state = reach (step S) (State.initial source helper) (pre ++ [env]) :=
    tick_state S (State.initial source helper) pre env
  by_cases h0 : s.pid = 0
  · refine iff_of_false ?_ (fun h => h.1 h0)
    rintro ⟨r, hr, -⟩
    have := (run_aggregate_isSome S source helper (pre ++ [env]) hrun s.pid).mp
      (by rw [← hstate, hr]; rfl)
    exact this.1 h0
  · have hD : ∀ d, (o.state.objs.gpuPerPidPerDevice.lookup
        (perPidPerDeviceKey s.pid d)).isSome ↔
          d ∈ runDevices (outcomes S (State.initial source helper) (pre ++ [env])) s.pid := by
      intro d
      rw [hstate, run_detail_isSome S source helper (pre ++ [env]) hrun, and_iff_right h0,
        mem_runDevices]
    rw [and_iff_right h0, tick_agree_iff S env _ (ht o hmem) h0
      (List.ne_nil_of_mem (mem_pidSamples.mpr ⟨hs, rfl⟩)) ?_ (hov o hmem s hs) hD,
      outcomes_concat]
    · constructor
      · intro h o' ho' s' hs' hp
        exact mem_pidDevices_iff_exists.mp
          (h (mem_runDevices.mpr ⟨o', List.mem_append_left _ ho', s', hs', hp, rfl⟩))
      · intro h d hd
        obtain ⟨o', ho', s', hs', hp, rfl⟩ := mem_runDevices.mp hd
        rcases List.mem_append.mp ho' with ho' | ho'
        · exact mem_pidDevices_iff_exists.mpr (h o' ho' s' hs' hp)
        · obtain rfl := List.mem_singleton.mp ho'
          exact mem_pidDevices_iff_exists.mpr ⟨s', hs', hp, rfl⟩
    · intro d hd
      obtain ⟨s', hm, -, rfl⟩ := mem_pidDevices_iff_exists.mp hd
      exact hdev o hmem s' hm

/-- After its first tick the process of `shrinkingProcess` is on record alike in both maps. -/
theorem pid_maps_agree_iff_shrinkingProcess :
    PidMapsAgree (tick fakeNvml shrinkingProcess[0] (State.initial () 1)).state.objs 7 :=
  (pid_maps_agree_iff fakeNvml () 1 shrinkingProcess (by decide +kernel) (by decide +kernel)
    (by decide +kernel) [] shrinkingProcess[0] _ rfl
    { pid := 7, deviceIndex := 1, timestampNs := 5, usedGpuMemory := 20 } (by decide +kernel)).mpr
    ⟨by decide, by decide +kernel⟩

/-- The second tick of `shrinkingProcess` counts one device for the process and leaves two detail
entries. -/
theorem pid_maps_disagree :
    (∀ o ∈ outcomes fakeNvml (State.initial () 1) shrinkingProcess, o.AllTaken) ∧
      (∀ o ∈ outcomes fakeNvml (State.initial () 1) shrinkingProcess,
        ∀ s ∈ o.samples, s.deviceIndex.toNat < maxDevices) ∧
      7 ∈ (tick fakeNvml shrinkingProcess[1]
        (reach (step fakeNvml) (State.initial () 1) [shrinkingProcess[0]])).samples.map
          (fun s => s.pid) ∧
      ¬ PidMapsAgree (reach (step fakeNvml) (State.initial () 1) shrinkingProcess).objs 7 := by
  refine ⟨by decide +kernel, by decide +kernel, by decide +kernel, ?_⟩
  rintro ⟨r, hr, hagree⟩
  have hcount : ((reach (step fakeNvml) (State.initial () 1) shrinkingProcess).objs.gpuPerPid.lookup
      7).map (fun r => r.deviceCount) = some 1 := by decide +kernel
  have hlen : (pidEntries (reach (step fakeNvml) (State.initial () 1) shrinkingProcess).objs
      7).length = 2 := by decide +kernel
  rw [hr, Option.map_some, Option.some.injEq] at hcount
  have h := hagree.deviceCount
  rw [hcount, hlen] at h
  cases h

/-! ### Entries of processes that are gone -/

/-- Every entry of the two per-PID maps is for a PID, or a (PID, device) pair, among the samples. -/
structure EntriesCurrent (m : Maps) (samples : List ProcessSample) : Prop where
  perPid : ∀ p, (m.gpuPerPid.lookup p).isSome → ∃ s ∈ samples, s.pid = p
  perPidPerDevice : ∀ p d,
    (m.gpuPerPidPerDevice.lookup (perPidPerDeviceKey p d)).isSome →
      ∃ s ∈ samples, s.pid = p ∧ s.deviceIndex = d

/-- **When the entries are those of the last tick.**  In a run from empty maps in which every
update succeeds and no LRU eviction takes place, every entry present after a tick is for a PID or
pair that the tick sampled exactly when the tick sampled again every pair, of a PID other than 0,
that an earlier tick had sampled. -/
theorem entries_current_iff (S : Source ε σ) (source : σ) (helper : UInt32)
    (envs : List (TickEnv ε))
    (ht : ∀ o ∈ outcomes S (State.initial source helper) envs, o.AllTaken) :
    ∀ pre env post, envs = pre ++ env :: post →
      let o := tick S env (reach (step S) (State.initial source helper) pre)
      (EntriesCurrent o.state.objs o.samples ↔
        ∀ o' ∈ outcomes S (State.initial source helper) pre, ∀ s' ∈ o'.samples, s'.pid ≠ 0 →
          ∃ s ∈ o.samples, s.pid = s'.pid ∧ s.deviceIndex = s'.deviceIndex) := by
  intro pre env post henvs o
  rw [henvs, outcomes_split] at ht
  have hrun := allTaken_upto ht
  have hstate : o.state = reach (step S) (State.initial source helper) (pre ++ [env]) :=
    tick_state S (State.initial source helper) pre env
  have hdetail := run_detail_isSome S source helper (pre ++ [env]) hrun
  have haggregate := run_aggregate_isSome S source helper (pre ++ [env]) hrun
  rw [← hstate, outcomes_concat] at hdetail haggregate
  constructor
  · intro h o' ho' s' hs' h0
    exact h.perPidPerDevice s'.pid s'.deviceIndex
      ((hdetail _ _).mpr ⟨h0, o', List.mem_append_left _ ho', s', hs', rfl, rfl⟩)
  · intro h
    constructor
    · intro p hp
      obtain ⟨h0, o', ho', s', hs', rfl⟩ := (haggregate p).mp hp
      rcases List.mem_append.mp ho' with ho' | ho'
      · obtain ⟨s, hs, he, -⟩ := h o' ho' s' hs' h0
        exact ⟨s, hs, he⟩
      · obtain rfl := List.mem_singleton.mp ho'
        exact ⟨s', hs', rfl⟩
    · intro p d hp
      obtain ⟨h0, o', ho', s', hs', rfl, rfl⟩ := (hdetail p d).mp hp
      rcases List.mem_append.mp ho' with ho' | ho'
      · exact h o' ho' s' hs' h0
      · obtain rfl := List.mem_singleton.mp ho'
        exact ⟨s', hs', rfl, rfl⟩

/-- A process that one tick samples and the next one does not. -/
def exitingProcess : List (TickEnv (List DeviceSnapshot × List ProcessSample)) :=
  [ { source := ([{ index := 0, timestampNs := 5 }],
        [{ pid := 7, deviceIndex := 0, timestampNs := 5, usedGpuMemory := 10 }])
      now := 6 },
    { source := ([{ index := 0, timestampNs := 8 }], [])
      now := 9 } ]

/-- After the first tick of `exitingProcess` every entry is current. -/
theorem entries_current_iff_exitingProcess :
    EntriesCurrent (tick fakeNvml exitingProcess[0] (State.initial () 1)).state.objs
      [{ pid := 7, deviceIndex := 0, timestampNs := 5, usedGpuMemory := 10 }] :=
  (entries_current_iff fakeNvml () 1 exitingProcess (by decide +kernel) [] exitingProcess[0] _
    rfl).mpr (by decide +kernel)

/-- After its second tick both maps still hold the process, and `gpu_meta` is that of the second
tick. -/
theorem entries_outlive_process :
    (∀ o ∈ outcomes fakeNvml (State.initial () 1) exitingProcess, o.AllTaken ∧ o.err = none) ∧
      (reach (step fakeNvml) (State.initial () 1) exitingProcess).objs.gpuMeta.lastUpdateNs = 9 ∧
      ¬ EntriesCurrent (reach (step fakeNvml) (State.initial () 1) exitingProcess).objs
        (tick fakeNvml exitingProcess[1]
          (reach (step fakeNvml) (State.initial () 1) [exitingProcess[0]])).samples := by
  refine ⟨by decide +kernel, by decide +kernel, ?_⟩
  intro h
  obtain ⟨s, hs, -⟩ := h.perPid 7 (by decide +kernel)
  cases hs

end GpuEbpfBridge
