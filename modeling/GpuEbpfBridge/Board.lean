import GpuEbpfBridge.DetailMap

/-! # What a run publishes

Seen from outside, the maps are a board with a place for every entry, and a tick is a report: what
the backend told it, and at which places the kernel let it write.  `Report.publication` says what a
report puts at each place, in terms of the samples alone, without loops, Go maps or orders.

`tick_board` is the simulation of one tick: at the places it wrote the board shows the publication,
elsewhere what stood there.  Along a run the maps are the board that its reports leave
(`run_board`), whatever calls and updates fail. -/

namespace GpuEbpfBridge

open Lib

variable {ε σ : Type}

/-! ### Boards and reports -/

/-- What stands at each entry, given as the update that puts it there. -/
abbrev Board := Slot → Option Update

/-- What a tick was told, and the entries it wrote. -/
structure Report where
  devs : List DeviceSnapshot
  samples : List ProcessSample
  now : ℤ
  helper : UInt32
  wrote : Slot → Bool

/-- The low bytes of the devices of a pid. -/
def deviceBytes (samples : List ProcessSample) (pid : UInt32) : Finset UInt8 :=
  (pidDevices samples pid).image UInt32.toUInt8

/-- The record of a pid in `gpu_per_pid`, from its samples. -/
def pidRecord (samples : List ProcessSample) (pid : UInt32) : PidMetricsAggregated :=
  { timestampNs := peak (fun s => s.timestampNs) (pidSamples samples pid)
    usedGpuMemoryTotal := UInt64.ofNat (pidTotal samples pid)
    smUtilPctMax := peak (fun s => s.smUtilPct) (pidSamples samples pid)
    memUtilPctMax := peak (fun s => s.memUtilPct) (pidSamples samples pid)
    gpuDevicePrimary :=
      if 1 < (deviceBytes samples pid).card then devicePrimaryMulti
      else ((pidSamples samples pid).head?.map (fun s => s.deviceIndex.toUInt8)).getD 0
    deviceCount := UInt8.ofNat (deviceBytes samples pid).card }

/-- What a report puts at each entry. -/
def Report.publication (r : Report) : Board
  | .gpuMeta =>
      some (.gpuMeta
        { schemaVersion := schemaVersion
          nDevices := UInt32.ofNat r.devs.length
          lastUpdateNs := unixNano r.now
          helperPid := r.helper })
  | .gpuDevice idx => (r.devs.filter (fun d => d.index = idx)).getLast?.map deviceUpdate
  | .gpuPerPid pid =>
      if pid = 0 ∨ pidSamples r.samples pid = [] then none
      else some (.gpuPerPid pid (pidRecord r.samples pid))
  | .gpuPerPidPerDevice key =>
      if (splitKey key).1 = 0 ∨ keySamples r.samples (splitKey key).1 (splitKey key).2 = [] then none
      else some (.gpuPerPidPerDevice key
        (detailRecord (splitKey key).2 (keySamples r.samples (splitKey key).1 (splitKey key).2)))

/-- The board after a report. -/
def Report.post (r : Report) (m : Board) : Board :=
  fun k => if r.wrote k then r.publication k else m k

/-- The board after some reports. -/
def postAll (rs : List Report) (m : Board) : Board := rs.foldl (fun m r => r.post m) m

/-- The devices of a report are distinct, and no process is on devices with all 256 low bytes, where
`device_count` would come out as 1. -/
structure Report.Regular (r : Report) : Prop where
  devices : (r.devs.map (fun d => d.index)).Nodup
  bytes : ∀ pid, (deviceBytes r.samples pid).card ≠ 256

/-- The report of a tick. -/
def tickReport (S : Source ε σ) (env : TickEnv ε) (s : State σ) : Report :=
  { devs := (tick S env s).devs
    samples := (tick S env s).samples
    now := env.now
    helper := s.helper
    wrote := fun k => (tick S env s).issued.any (fun x => x.2 && decide (x.1.slot = k)) }

/-- The reports of the ticks of a run. -/
def reports (S : Source ε σ) (s : State σ) (envs : List (TickEnv ε)) : List Report :=
  outputs (step S) (fun s env => tickReport S env s) s envs

theorem tickReport_wrote {S : Source ε σ} {env : TickEnv ε} {s : State σ} {k : Slot} :
    (tickReport S env s).wrote k = true ↔ ∃ u, (u, true) ∈ (tick S env s).issued ∧ u.slot = k := by
  simp [tickReport]

/-! ### The publication of a tick -/

/-- The record that the builder of a pid makes is the one made of its samples. -/
theorem PidAggregate.record_eq {samples : List ProcessSample} {pid : UInt32} {b : AggBuilder}
    (h : PidAggregate samples pid b) (hs : pidSamples samples pid ≠ [])
    (hbytes : (deviceBytes samples pid).card ≠ 256) : b.record = pidRecord samples pid := by
  have hset : b.devSet = deviceBytes samples pid := h.devSet
  have hne : b.devSet.Nonempty := by
    rw [h.devSet]
    exact (pidDevices_nonempty.mpr hs).image _
  have htoNat := AggBuilder.toNat_devCount hne
  rw [hset, if_neg hbytes] at htoNat
  have hcount : b.devCount = UInt8.ofNat (deviceBytes samples pid).card := by
    rw [← htoNat, UInt8.ofNat_toNat]
  have htotal : b.usedTotal = UInt64.ofNat (pidTotal samples pid) := by
    apply UInt64.toNat_inj.mp
    rw [h.usedTotal, UInt64.toNat_ofNat']
  have hgt : b.devCount > 1 ↔ 1 < (deviceBytes samples pid).card := by
    rw [gt_iff_lt, UInt8.lt_iff_toNat_lt, htoNat]
    rfl
  have hprimary : (if b.devCount > 1 then devicePrimaryMulti else b.firstDev) =
      (pidRecord samples pid).gpuDevicePrimary := by
    rw [pidRecord]
    by_cases hc : 1 < (deviceBytes samples pid).card
    · rw [if_pos (hgt.mpr hc), if_pos hc]
    · rw [if_neg (fun h' => hc (hgt.mp h')), if_neg hc]
      -- all devices of the pid have the same low byte
      obtain ⟨d, hd, hfirst⟩ := h.firstDev
      obtain ⟨x, l, hx⟩ := List.exists_cons_of_ne_nil hs
      have hxd : x.deviceIndex ∈ pidDevices samples pid := by
        rw [pidDevices, hx]
        simp
      have hle : (deviceBytes samples pid).card ≤ 1 := by omega
      rw [hx, hfirst]
      exact Finset.card_le_one.mp hle _ (Finset.mem_image_of_mem _ hd) _
        (Finset.mem_image_of_mem _ hxd)
  rw [AggBuilder.record, hprimary, htotal, hcount, h.ts, h.smMax, h.memMax]
  rfl

/-- The snapshot that the device loop leaves at an index. -/
theorem lastWrite_device (env : TickEnv ε) (helper : UInt32) (devs : List DeviceSnapshot)
    (samples : List ProcessSample) (idx : UInt32) :
    lastWrite Update.slot (tickUpdates env helper devs samples) (.gpuDevice idx) =
      (devs.filter (fun d => d.index = idx)).getLast?.map deviceUpdate := by
  unfold tickUpdates dataUpdates detailUpdates aggregateUpdates
  rw [lastWrite_concat, if_neg (by simp [Update.slot]), lastWrite_append, lastWrite_append,
    lastWrite_map_eq_none Update.slot (fun _ => by simp [aggregateUpdate, Update.slot]),
    lastWrite_map_eq_none Update.slot (fun _ => by simp [detailUpdate, Update.slot]),
    Option.none_or, Option.none_or, lastWrite_map]
  simp [lastWrite, deviceUpdate, Update.slot]

/-- What the updates of a tick leave at each entry is its publication. -/
theorem lastWrite_publication (env : TickEnv ε) (r : Report) (hnow : r.now = env.now)
    (hr : r.Regular) (k : Slot) :
    lastWrite Update.slot (tickUpdates env r.helper r.devs r.samples) k = r.publication k := by
  cases k with
  | gpuMeta =>
      have hslot : (Update.gpuMeta (metaRecord env r.helper r.devs)).slot = .gpuMeta := rfl
      rw [tickUpdates, lastWrite_concat, if_pos hslot, metaRecord, ← hnow]
      rfl
  | gpuDevice idx => exact lastWrite_device env r.helper r.devs r.samples idx
  | gpuPerPid pid =>
      rw [lastWrite_aggregate, Report.publication]
      split_ifs with h
      · rw [lookup_agg_eq_none env.perDevOrder h]
        rfl
      · obtain ⟨h0, hs⟩ := not_or.mp h
        obtain ⟨b, hb, hagg⟩ := exists_lookup_agg env.perDevOrder h0 hs
        rw [hb, Option.map_some, hagg.record_eq hs (hr.bytes pid)]
  | gpuPerPidPerDevice key =>
      have hl := lastWrite_detail env r.helper r.devs r.samples (splitKey key).1 (splitKey key).2
      rw [perPidPerDeviceKey_splitKey] at hl
      exact hl

/-- Over distinct devices a tick issues at most one update for each entry. -/
theorem taken_slots_nodup {S : Source ε σ} {env : TickEnv ε} {s : State σ}
    (hnd : ((tick S env s).devs.map (fun d => d.index)).Nodup) :
    ((taken (tick S env s).issued).map Update.slot).Nodup := by
  have hall : ((tick S env s).issued.map (fun x => x.1.slot)).Nodup := by
    by_cases hc : (tick S env s).Completed
    · rw [issued_slots S env s hc]
      exact tickUpdates_slots_nodup env s.helper _ _ hnd
    · rw [(tick_not_completed S env s hc).2]
      exact List.nodup_nil
  have hmap : (taken (tick S env s).issued).map Update.slot =
      ((tick S env s).issued.filter (fun x => x.2)).map (fun x => x.1.slot) := by
    rw [taken, List.map_map]
    rfl
  rw [hmap]
  exact hall.sublist (List.filter_sublist.map _)

/-! ### The simulation -/

/-- **A tick posts its report.** -/
theorem tick_board (S : Source ε σ) (env : TickEnv ε) (s : State σ)
    (hr : (tickReport S env s).Regular) :
    (tick S env s).state.objs.read = (tickReport S env s).post s.objs.read := by
  funext k
  rw [read_tick, Report.post]
  split_ifs with hw
  · obtain ⟨u, hu, rfl⟩ := tickReport_wrote.mp hw
    have hc : (tick S env s).Completed := List.ne_nil_of_mem hu
    have hmem : u ∈ tickUpdates env s.helper (tick S env s).devs (tick S env s).samples := by
      rw [← tick_updates S env s hc]
      exact List.mem_map_of_mem hu
    rw [lastWrite_of_nodup Update.slot (taken_slots_nodup hr.devices) (mem_taken.mpr hu),
      Option.some_or, ← lastWrite_publication env (tickReport S env s) rfl hr]
    exact (lastWrite_of_nodup Update.slot
      (tickUpdates_slots_nodup env s.helper _ _ hr.devices) hmem).symm
  · have hnone : lastWrite Update.slot (taken (tick S env s).issued) k = none := by
      rw [lastWrite_eq_none_iff]
      intro u hu hs
      exact hw (tickReport_wrote.mpr ⟨u, mem_taken.mp hu, hs⟩)
    rw [hnone, Option.none_or]

@[simp] theorem reports_concat (S : Source ε σ) (s : State σ) (envs : List (TickEnv ε))
    (env : TickEnv ε) :
    reports S s (envs ++ [env]) =
      reports S s envs ++ [tickReport S env (reach (step S) s envs)] :=
  outputs_concat _ _ _ _ _

/-- The maps after a run are the board that its reports leave. -/
theorem run_posts (S : Source ε σ) (s₀ : State σ) (envs : List (TickEnv ε))
    (hr : ∀ r ∈ reports S s₀ envs, r.Regular) :
    (reach (step S) s₀ envs).objs.read = postAll (reports S s₀ envs) s₀.objs.read := by
  revert hr
  refine run_invariant (P := fun es (st : State σ) => (∀ r ∈ reports S s₀ es, r.Regular) →
    st.objs.read = postAll (reports S s₀ es) s₀.objs.read) ?_ ?_ envs
  · intro _
    rfl
  · intro es e ih hr
    rw [reports_concat] at hr ⊢
    have htick := hr _ (List.mem_append_right _ (List.mem_singleton.mpr rfl))
    rw [step, tick_board S e _ htick, ih (fun r hm => hr r (List.mem_append_left _ hm)), postAll,
      postAll, List.foldl_append]
    rfl

/-- Each place shows what the last report that wrote it published there. -/
theorem postAll_apply (rs : List Report) (m : Board) (k : Slot) :
    postAll rs m k =
      ((rs.filter (fun r => r.wrote k)).getLast?.map (fun r => r.publication k)).getD (m k) := by
  unfold postAll
  rw [foldl_project (fun m : Board => m k) (fun r : Report => r.wrote k) (fun m r => r.post m)
    (fun _ r => r.publication k) (fun m r => rfl)]
  induction rs.filter (fun r => r.wrote k) using List.reverseRecOn with
  | nil => rfl
  | append_singleton l r _ => simp

/-- **A run publishes its reports.**  For every run of ticks over any backend, from any maps and
whatever calls and updates fail, without LRU eviction: each entry shows in the end what the last tick
that wrote it published there, and where no tick wrote it what it showed before the run. -/
theorem run_board (S : Source ε σ) (s₀ : State σ) (envs : List (TickEnv ε))
    (hr : ∀ r ∈ reports S s₀ envs, r.Regular) (k : Slot) :
    (reach (step S) s₀ envs).objs.read k =
      (((reports S s₀ envs).filter (fun r => r.wrote k)).getLast?.map
        (fun r => r.publication k)).getD (s₀.objs.read k) := by
  rw [run_posts S s₀ envs hr, postAll_apply]

/-- A report with fewer than 256 samples of distinct devices is regular. -/
theorem Report.regular_of_length {r : Report} (hnd : (r.devs.map (fun d => d.index)).Nodup)
    (hlen : r.samples.length < 256) : r.Regular := by
  refine ⟨hnd, fun pid h => ?_⟩
  have hbytes : (deviceBytes r.samples pid).card ≤ (pidDevices r.samples pid).card :=
    Finset.card_image_le
  have hdevs : (pidDevices r.samples pid).card ≤ (pidSamples r.samples pid).length := by
    rw [← List.length_map (f := fun s : ProcessSample => s.deviceIndex)]
    exact List.toFinset_card_le _
  have hfilter : (pidSamples r.samples pid).length ≤ r.samples.length := List.length_filter_le _ _
  omega

/-- Two ticks with one process on two devices.  In the second one its detail record on device 1 is
refused. -/
def refusedDetail : List (TickEnv (List DeviceSnapshot × List ProcessSample)) :=
  [ { source := ([{ index := 0, timestampNs := 5 }],
        [{ pid := 7, deviceIndex := 0, timestampNs := 5, usedGpuMemory := 10 },
         { pid := 7, deviceIndex := 1, timestampNs := 5, usedGpuMemory := 20 }])
      now := 6 },
    { source := ([{ index := 0, timestampNs := 8 }],
        [{ pid := 7, deviceIndex := 0, timestampNs := 8, usedGpuMemory := 30 },
         { pid := 7, deviceIndex := 1, timestampNs := 8, usedGpuMemory := 40 }])
      now := 9, faults := fun i => i = 1 } ]

/-- The aggregate shows the second tick, the refused record the first. -/
theorem run_board_refusedDetail :
    let m := (reach (step fakeNvml) (State.initial () 1) refusedDetail).objs
    (∃ v, m.read (.gpuPerPid 7) = some (.gpuPerPid 7 v) ∧ v.usedGpuMemoryTotal = 70) ∧
      ∃ v, m.read (.gpuPerPidPerDevice (perPidPerDeviceKey 7 1)) =
        some (.gpuPerPidPerDevice (perPidPerDeviceKey 7 1) v) ∧ v.usedGpuMemory = 20 := by
  have hr : ∀ r ∈ reports fakeNvml (State.initial () 1) refusedDetail, r.Regular := by
    intro r hr
    have hlen : r.samples.length < 256 ∧ (r.devs.map (fun d => d.index)).Nodup := by
      revert r
      decide +kernel
    exact Report.regular_of_length hlen.2 hlen.1
  have h := run_board fakeNvml (State.initial () 1) refusedDetail hr
  refine ⟨⟨pidRecord refusedDetail[1].source.2 7, (h _).trans ?_, ?_⟩,
    ⟨detailRecord 1 (keySamples refusedDetail[0].source.2 7 1), (h _).trans ?_, ?_⟩⟩
  · decide +kernel
  · decide +kernel
  · decide +kernel
  · decide +kernel

end GpuEbpfBridge
