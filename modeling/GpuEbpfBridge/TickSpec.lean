import GpuEbpfBridge.SampleFold

/-! # What one tick does

`tick_cases` is the inversion of `tick`: a tick either stops at a failed `Devices` call and
changes nothing but the state of the backend, or issues exactly `tickUpdates`, of which the
kernel takes some.  Everything later modules say about ticks and runs of ticks is derived
from it.

The second half reads `tickUpdates` slot by slot: which entries a tick writes, how often, and
what it writes there (`lastWrite_detail`, `lastWrite_aggregate`). -/

namespace GpuEbpfBridge

open Lib

variable {ε σ : Type}

/-! ### The updates of a tick -/

def deviceUpdate (d : DeviceSnapshot) : Update := .gpuDevice d.index (deviceSnapshotToMap d)

def detailUpdate (e : PidDevKey × PerDevAgg) : Update :=
  .gpuPerPidPerDevice (perPidPerDeviceKey e.1.pid e.1.dev) (PerDevAgg.detail e.1 e.2)

def aggregateUpdate (e : UInt32 × AggBuilder) : Update := .gpuPerPid e.1 e.2.record

/-- The detail records of a tick, in the order of the second loop. -/
def detailUpdates (o : RangeOrder (PidDevKey × PerDevAgg)) (samples : List ProcessSample) :
    List Update :=
  (GoMap.range o (perDev samples)).map detailUpdate

/-- The aggregated records of a tick, in the order of the third loop. -/
def aggregateUpdates (o : RangeOrder (PidDevKey × PerDevAgg))
    (o' : RangeOrder (UInt32 × AggBuilder)) (samples : List ProcessSample) : List Update :=
  (GoMap.range o' (agg o samples)).map aggregateUpdate

/-- The data records of a tick, everything but `gpu_meta`. -/
def dataUpdates (env : TickEnv ε) (devs : List DeviceSnapshot) (samples : List ProcessSample) :
    List Update :=
  devs.map deviceUpdate ++ (detailUpdates env.perDevOrder samples ++
    aggregateUpdates env.perDevOrder env.aggOrder samples)

/-- All updates of a tick in order. -/
def tickUpdates (env : TickEnv ε) (helper : UInt32) (devs : List DeviceSnapshot)
    (samples : List ProcessSample) : List Update :=
  dataUpdates env devs samples ++ [.gpuMeta (metaRecord env helper devs)]

theorem writeDevices_eq (faults : Faults) (devs : List DeviceSnapshot) (b : Bridge) :
    writeDevices faults devs b = b.updateAll faults (devs.map deviceUpdate) := by
  unfold writeDevices Bridge.updateAll
  rw [List.foldl_map]
  rfl

theorem foldl_groupEntry (faults : Faults) (l : List (PidDevKey × PerDevAgg)) (b : Bridge)
    (m : GoMap UInt32 AggBuilder) :
    l.foldl (groupEntry faults) (b, m) =
      (b.updateAll faults (l.map detailUpdate), l.foldl addEntry m) := by
  induction l generalizing b m with
  | nil => rfl
  | cons e l ih =>
      rw [List.foldl_cons, groupEntry, ih]
      rfl

theorem writeAggregates_eq (faults : Faults) (o : RangeOrder (UInt32 × AggBuilder))
    (m : GoMap UInt32 AggBuilder) (b : Bridge) :
    writeAggregates faults o m b =
      b.updateAll faults ((GoMap.range o m).map aggregateUpdate) := by
  unfold writeAggregates Bridge.updateAll
  rw [List.foldl_map]
  rfl

theorem Bridge.updateAll_append (faults : Faults) (b : Bridge) (us vs : List Update) :
    b.updateAll faults (us ++ vs) = (b.updateAll faults us).updateAll faults vs :=
  List.foldl_append

/-- The watermark table after the samples of a tick. -/
def advanceAll (table : GoMap UInt32 UInt64) (samples : List ProcessSample) :
    GoMap UInt32 UInt64 :=
  samples.foldl (fun t s => advanceLastSeen t s.deviceIndex s.timestampNs) table

/-- A tick whose `Devices` call returned `devs` and whose `ProcessSamples` call returned
`samples`, leaving the backend in state `source`: the outcome. -/
def completedOutcome (env : TickEnv ε) (s : State σ) (devs : List DeviceSnapshot)
    (samples : List ProcessSample) (source : σ) : Outcome σ :=
  let b := (Bridge.mk s.objs []).updateAll env.faults (dataUpdates env devs samples)
  let r := b.updateMeta env.faults (metaRecord env s.helper devs)
  { state :=
      { s with
        source := source
        lastSeenPerDevice := advanceAll s.lastSeenPerDevice samples
        objs := r.1.objs }
    devs := devs, samples := samples, issued := r.1.issued
    err := r.2.map (.wrapf "UpdateMeta: %w") }

/-- **Inversion of a tick.** -/
theorem tick_cases (S : Source ε σ) (env : TickEnv ε) (s : State σ) :
    (∃ devs err source, S.devices env.source s.source = ((devs, some err), source) ∧
      tick S env s =
        { state := { s with source := source }, devs := [], samples := [], issued := []
          err := some (.wrapf "devices: %w" err) }) ∨
    (∃ devs source samples err source',
      S.devices env.source s.source = ((devs, none), source) ∧
      S.processSamples env.source (minLastSeen env.lastSeenOrder s.lastSeenPerDevice) source =
        ((samples, err), source') ∧
      tick S env s = completedOutcome env s devs samples source') := by
  rcases hdev : S.devices env.source s.source with ⟨⟨devs, derr⟩, source⟩
  cases derr with
  | some err =>
      refine Or.inl ⟨devs, err, source, rfl, ?_⟩
      unfold tick
      rw [hdev]
  | none =>
      rcases hs : S.processSamples env.source
        (minLastSeen env.lastSeenOrder s.lastSeenPerDevice) source with ⟨⟨samples, serr⟩, source'⟩
      refine Or.inr ⟨devs, source, samples, serr, source', rfl, hs, ?_⟩
      unfold tick
      rw [hdev]
      simp only [hs, writeDevices_eq, foldl_groupEntry, writeAggregates_eq]
      rw [← Bridge.updateAll_append, ← Bridge.updateAll_append]
      rfl

/-- A tick whose `Devices` call succeeds. -/
theorem tick_devices_ok (S : Source ε σ) (env : TickEnv ε) (s : State σ)
    (h : (S.devices env.source s.source).1.2 = none) :
    let r := S.processSamples env.source (minLastSeen env.lastSeenOrder s.lastSeenPerDevice)
      (S.devices env.source s.source).2
    tick S env s = completedOutcome env s (S.devices env.source s.source).1.1 r.1.1 r.2 := by
  rcases tick_cases S env s with ⟨_, _, _, hd, -⟩ | ⟨devs, source, samples, err, source', hd, hs, ho⟩
  · rw [hd] at h
    cases h
  · rw [ho, hd]
    simp only [hs]

/-! ### The state and the updates of an outcome -/

theorem completedOutcome_issued (env : TickEnv ε) (s : State σ) (devs : List DeviceSnapshot)
    (samples : List ProcessSample) (source : σ) :
    (completedOutcome env s devs samples source).issued =
      attempts env.faults 0 (tickUpdates env s.helper devs samples) := by
  unfold completedOutcome tickUpdates
  rw [Bridge.updateAll_eq, attempts_append]
  simp [Bridge.updateMeta, Bridge.update_fst, Bridge.takes, attempts]

theorem completedOutcome_objs (env : TickEnv ε) (s : State σ) (devs : List DeviceSnapshot)
    (samples : List ProcessSample) (source : σ) :
    (completedOutcome env s devs samples source).state.objs =
      s.objs.storeAll (taken (attempts env.faults 0 (tickUpdates env s.helper devs samples))) := by
  have h := Bridge.updateAll_eq env.faults ⟨s.objs, []⟩ (tickUpdates env s.helper devs samples)
  unfold tickUpdates at h ⊢
  rw [Bridge.updateAll_append] at h
  exact congrArg Bridge.objs h

/-- The maps after a tick are the maps before it with the updates that succeeded. -/
theorem tick_objs (S : Source ε σ) (env : TickEnv ε) (s : State σ) :
    (tick S env s).state.objs = s.objs.storeAll (taken (tick S env s).issued) := by
  rcases tick_cases S env s with ⟨_, _, _, _, h⟩ | ⟨_, _, _, _, _, _, _, h⟩
  · rw [h]
    rfl
  · rw [h, completedOutcome_issued, completedOutcome_objs]

/-- The watermark table after a tick. -/
theorem tick_lastSeen (S : Source ε σ) (env : TickEnv ε) (s : State σ) :
    (tick S env s).state.lastSeenPerDevice =
      advanceAll s.lastSeenPerDevice (tick S env s).samples := by
  rcases tick_cases S env s with ⟨_, _, _, _, h⟩ | ⟨_, _, _, _, _, _, _, h⟩
  · rw [h]
    rfl
  · rw [h]
    rfl

theorem tick_helper (S : Source ε σ) (env : TickEnv ε) (s : State σ) :
    (tick S env s).state.helper = s.helper := by
  rcases tick_cases S env s with ⟨_, _, _, _, h⟩ | ⟨_, _, _, _, _, _, _, h⟩
  · rw [h]
  · rw [h]
    rfl

/-- A property of the backend that sampling keeps is kept by a tick. -/
theorem tick_source (S : Source ε σ) {P : σ → Prop}
    (hdev : ∀ e source, P source → P (S.devices e source).2)
    (hsamples : ∀ e n source, P source → P (S.processSamples e n source).2)
    (env : TickEnv ε) {s : State σ} (h : P s.source) : P (tick S env s).state.source := by
  rcases tick_cases S env s with
    ⟨_, _, source, hd, ho⟩ | ⟨_, source, _, _, source', hd, hs, ho⟩
  · have hP := hdev env.source s.source h
    rw [hd] at hP
    rw [ho]
    exact hP
  · have hP := hdev env.source s.source h
    rw [hd] at hP
    have hP' := hsamples env.source (minLastSeen env.lastSeenOrder s.lastSeenPerDevice) source hP
    rw [hs] at hP'
    rw [ho]
    exact hP'

/-- A property of the backend that sampling keeps is kept by a run of ticks. -/
theorem run_source (S : Source ε σ) {P : σ → Prop}
    (hdev : ∀ e source, P source → P (S.devices e source).2)
    (hsamples : ∀ e n source, P source → P (S.processSamples e n source).2)
    {s : State σ} (h : P s.source) (envs : List (TickEnv ε)) :
    P (reach (step S) s envs).source :=
  run_invariant (P := fun _ (s : State σ) => P s.source) h
    (fun _ env ih => tick_source S hdev hsamples env ih) envs

/-- The tick got past `Devices`. -/
def Outcome.Completed (o : Outcome σ) : Prop := o.issued ≠ []

instance (o : Outcome σ) : Decidable o.Completed :=
  inferInstanceAs (Decidable (o.issued ≠ []))

/-- A tick that gets past `Devices` issues at least the update of `gpu_meta`. -/
theorem completedOutcome_completed (env : TickEnv ε) (s : State σ) (devs : List DeviceSnapshot)
    (samples : List ProcessSample) (source : σ) :
    (completedOutcome env s devs samples source).Completed := by
  intro h
  have hlen := congrArg List.length h
  rw [completedOutcome_issued, attempts_length, tickUpdates, List.length_append] at hlen
  simp at hlen

/-- The updates of a completed tick. -/
theorem tick_issued (S : Source ε σ) (env : TickEnv ε) (s : State σ)
    (h : (tick S env s).Completed) :
    (tick S env s).issued =
      attempts env.faults 0
        (tickUpdates env s.helper (tick S env s).devs (tick S env s).samples) := by
  rcases tick_cases S env s with ⟨_, _, _, _, ho⟩ | ⟨_, _, _, _, _, _, _, ho⟩
  · rw [ho] at h
    exact absurd rfl h
  · rw [ho, completedOutcome_issued]
    rfl

theorem tick_updates (S : Source ε σ) (env : TickEnv ε) (s : State σ)
    (h : (tick S env s).Completed) :
    (tick S env s).issued.map Prod.fst =
      tickUpdates env s.helper (tick S env s).devs (tick S env s).samples := by
  rw [tick_issued S env s h, attempts_map_fst]

/-- A tick that is not completed had no samples and issued no update. -/
theorem tick_not_completed (S : Source ε σ) (env : TickEnv ε) (s : State σ)
    (h : ¬ (tick S env s).Completed) :
    (tick S env s).samples = [] ∧ (tick S env s).issued = [] := by
  unfold Outcome.Completed at h
  rw [not_not] at h
  refine ⟨?_, h⟩
  rcases tick_cases S env s with ⟨_, _, _, _, ho⟩ | ⟨_, _, _, _, _, _, _, ho⟩
  · rw [ho]
  · rw [ho, completedOutcome_issued] at h
    have := congrArg List.length h
    rw [attempts_length, tickUpdates, List.length_append] at this
    simp at this

/-- `tick` returns no error exactly when it completed and the `gpu_meta` update succeeded. -/
theorem tick_err_eq_none_iff (S : Source ε σ) (env : TickEnv ε) (s : State σ) :
    (tick S env s).err = none ↔
      (Update.gpuMeta (metaRecord env s.helper (tick S env s).devs), true) ∈
        (tick S env s).issued := by
  rcases tick_cases S env s with ⟨_, _, _, _, h⟩ | ⟨devs, _, samples, _, source, _, _, h⟩
  · rw [h]
    simp
  · rw [h]
    have herr : (completedOutcome env s devs samples source).err = none ↔
        (Bridge.takes env.faults ((Bridge.mk s.objs []).updateAll env.faults
          (dataUpdates env devs samples)) (.gpuMeta (metaRecord env s.helper devs))) = true := by
      rw [← Bridge.update_snd_eq_none_iff]
      exact Option.map_eq_none_iff
    have hdata : ∀ b, (Update.gpuMeta (metaRecord env s.helper devs), b) ∉
        attempts env.faults 0 (dataUpdates env devs samples) := by
      intro b hb
      have hm := List.mem_map_of_mem (f := Prod.fst) hb
      rw [attempts_map_fst] at hm
      simp [dataUpdates, detailUpdates, aggregateUpdates, deviceUpdate, detailUpdate,
        aggregateUpdate] at hm
    have hdevs : (completedOutcome env s devs samples source).devs = devs := rfl
    rw [herr, hdevs, completedOutcome_issued, tickUpdates, attempts_append, List.mem_append,
      or_iff_right (hdata true), Bridge.takes, Bridge.updateAll_eq]
    simp [attempts]

/-! ### Which entries a tick writes -/

/-- The detail record of a key, from the samples of the key: each field the greatest value
sampled, the MIG instance that of the first sample, the device index modulo 256. -/
def detailRecord (dev : UInt32) (l : List ProcessSample) : PidMetrics :=
  { timestampNs := peak (fun s => s.timestampNs) l
    usedGpuMemory := peak (fun s => s.usedGpuMemory) l
    smUtilPct := peak (fun s => s.smUtilPct) l
    memUtilPct := peak (fun s => s.memUtilPct) l
    encUtilPct := peak (fun s => s.encUtilPct) l
    decUtilPct := peak (fun s => s.decUtilPct) l
    gpuDevice := UInt8.ofNat (dev.toNat % 256)
    migInstance := (l.head?.map (fun s => s.migInstance)).getD 0 }

theorem detail_keyAgg (pid dev : UInt32) (l : List ProcessSample) :
    PerDevAgg.detail ⟨pid, dev⟩ (keyAgg l) = detailRecord dev l := by
  have h : dev.toUInt8 = UInt8.ofNat (dev.toNat % 256) := by
    apply UInt8.toNat_inj.mp
    rw [UInt32.toNat_toUInt8, UInt8.toNat_ofNat']
    omega
  simp only [PerDevAgg.detail, keyAgg, detailRecord, h]

theorem detailUpdates_slots_nodup (o : RangeOrder (PidDevKey × PerDevAgg))
    (samples : List ProcessSample) : ((detailUpdates o samples).map Update.slot).Nodup := by
  unfold detailUpdates
  rw [List.map_map]
  refine List.Nodup.map_on ?_ (GoMap.range_nodup o _)
  intro e he e' he' h
  obtain ⟨hp, hd⟩ := perPidPerDeviceKey_inj (Slot.gpuPerPidPerDevice.inj h)
  rw [(mem_entries.mp he).2.2, (mem_entries.mp he').2.2, hp, hd]

theorem aggregateUpdates_slots_nodup (o : RangeOrder (PidDevKey × PerDevAgg))
    (o' : RangeOrder (UInt32 × AggBuilder)) (samples : List ProcessSample) :
    ((aggregateUpdates o o' samples).map Update.slot).Nodup := by
  have h : (aggregateUpdates o o' samples).map Update.slot =
      ((GoMap.range o' (agg o samples)).map Prod.fst).map Slot.gpuPerPid := by
    simp [aggregateUpdates, aggregateUpdate, Update.slot, Function.comp_def]
  rw [h]
  exact (GoMap.range_keys_nodup o' _).map (fun _ _ he => Slot.gpuPerPid.inj he)

/-- What the detail loop issues for a key. -/
theorem lastWrite_detailUpdates (o : RangeOrder (PidDevKey × PerDevAgg))
    (samples : List ProcessSample) (pid dev : UInt32) :
    lastWrite Update.slot (detailUpdates o samples)
        (.gpuPerPidPerDevice (perPidPerDeviceKey pid dev)) =
      if pid = 0 ∨ keySamples samples pid dev = [] then none
      else some (.gpuPerPidPerDevice (perPidPerDeviceKey pid dev)
        (detailRecord dev (keySamples samples pid dev))) := by
  split_ifs with h
  · rw [lastWrite_eq_none_iff]
    intro u hu hs
    obtain ⟨e, he, rfl⟩ := List.mem_map.mp hu
    obtain ⟨h0, hd, -⟩ := mem_entries.mp he
    obtain ⟨rfl, rfl⟩ := perPidPerDeviceKey_inj (Slot.gpuPerPidPerDevice.inj hs)
    rcases h with h | h
    · exact h0 h
    · exact mem_pidDevices.mp hd h
  · rw [not_or] at h
    have hmem : detailUpdate (deviceEntry samples pid dev) ∈ detailUpdates o samples :=
      List.mem_map_of_mem (mem_entries.mpr ⟨h.1, mem_pidDevices.mpr h.2, rfl⟩)
    have := lastWrite_of_nodup Update.slot (detailUpdates_slots_nodup o samples) hmem
    rw [detailUpdate, deviceEntry, detail_keyAgg] at this
    exact this

/-- What the aggregate loop issues for a pid. -/
theorem lastWrite_aggregateUpdates (o : RangeOrder (PidDevKey × PerDevAgg))
    (o' : RangeOrder (UInt32 × AggBuilder)) (samples : List ProcessSample) (pid : UInt32) :
    lastWrite Update.slot (aggregateUpdates o o' samples) (.gpuPerPid pid) =
      ((agg o samples).lookup pid).map (fun b => .gpuPerPid pid b.record) := by
  cases h : (agg o samples).lookup pid with
  | none =>
      rw [Option.map_none, lastWrite_eq_none_iff]
      intro u hu hs
      obtain ⟨e, he, rfl⟩ := List.mem_map.mp hu
      obtain rfl : e.1 = pid := Slot.gpuPerPid.inj hs
      rw [show e = (e.1, e.2) from rfl, GoMap.mem_range, h] at he
      cases he
  | some b =>
      have hmem : aggregateUpdate (pid, b) ∈ aggregateUpdates o o' samples :=
        List.mem_map_of_mem (GoMap.mem_range.mpr h)
      exact lastWrite_of_nodup Update.slot (aggregateUpdates_slots_nodup o o' samples) hmem

section slots

variable (env : TickEnv ε) (helper : UInt32) (devs : List DeviceSnapshot)
  (samples : List ProcessSample)

theorem lastWrite_detail (pid dev : UInt32) :
    lastWrite Update.slot (tickUpdates env helper devs samples)
        (.gpuPerPidPerDevice (perPidPerDeviceKey pid dev)) =
      if pid = 0 ∨ keySamples samples pid dev = [] then none
      else some (.gpuPerPidPerDevice (perPidPerDeviceKey pid dev)
        (detailRecord dev (keySamples samples pid dev))) := by
  unfold tickUpdates dataUpdates aggregateUpdates
  rw [lastWrite_concat, if_neg (by simp [Update.slot]), lastWrite_append, lastWrite_append,
    lastWrite_map_eq_none Update.slot (fun _ => by simp [aggregateUpdate, Update.slot]),
    lastWrite_map_eq_none Update.slot (fun _ => by simp [deviceUpdate, Update.slot]),
    lastWrite_detailUpdates, Option.none_or, Option.or_none]

theorem lastWrite_aggregate (pid : UInt32) :
    lastWrite Update.slot (tickUpdates env helper devs samples) (.gpuPerPid pid) =
      ((agg env.perDevOrder samples).lookup pid).map (fun b => .gpuPerPid pid b.record) := by
  unfold tickUpdates dataUpdates detailUpdates
  rw [lastWrite_concat, if_neg (by simp [Update.slot]), lastWrite_append, lastWrite_append,
    lastWrite_map_eq_none Update.slot (fun _ => by simp [detailUpdate, Update.slot]),
    lastWrite_map_eq_none Update.slot (fun _ => by simp [deviceUpdate, Update.slot]),
    lastWrite_aggregateUpdates, Option.or_none, Option.or_none]

/-- How often a tick writes an entry: each of the four maps is written by one part of the tick. -/
theorem count_tickUpdates (k : Slot) :
    ((tickUpdates env helper devs samples).map Update.slot).count k =
      match k with
      | .gpuDevice i => (devs.map (fun d => d.index)).count i
      | .gpuPerPidPerDevice key =>
          ((detailUpdates env.perDevOrder samples).map Update.slot).count (.gpuPerPidPerDevice key)
      | .gpuPerPid pid =>
          ((aggregateUpdates env.perDevOrder env.aggOrder samples).map Update.slot).count
            (.gpuPerPid pid)
      | .gpuMeta => 1 := by
  have hdevs : (devs.map deviceUpdate).map Update.slot =
      (devs.map (fun d => d.index)).map Slot.gpuDevice := by
    simp [deviceUpdate, Update.slot, Function.comp_def]
  rw [tickUpdates, dataUpdates, List.map_append, List.map_append, List.map_append,
    List.count_append, List.count_append, List.count_append]
  cases k with
  | gpuDevice i =>
      unfold detailUpdates aggregateUpdates
      rw [hdevs, List.count_map_of_injective _ _ (fun _ _ h => Slot.gpuDevice.inj h),
        count_slot_map_eq_zero Update.slot (fun _ => by simp [detailUpdate, Update.slot]),
        count_slot_map_eq_zero Update.slot (fun _ => by simp [aggregateUpdate, Update.slot])]
      simp [Update.slot]
  | gpuPerPidPerDevice key =>
      unfold aggregateUpdates
      rw [count_slot_map_eq_zero Update.slot (fun _ => by simp [deviceUpdate, Update.slot]),
        count_slot_map_eq_zero Update.slot (fun _ => by simp [aggregateUpdate, Update.slot])]
      simp [Update.slot]
  | gpuPerPid pid =>
      unfold detailUpdates
      rw [count_slot_map_eq_zero Update.slot (fun _ => by simp [deviceUpdate, Update.slot]),
        count_slot_map_eq_zero Update.slot (fun _ => by simp [detailUpdate, Update.slot])]
      simp [Update.slot]
  | gpuMeta =>
      unfold detailUpdates aggregateUpdates
      rw [count_slot_map_eq_zero Update.slot (fun _ => by simp [deviceUpdate, Update.slot]),
        count_slot_map_eq_zero Update.slot (fun _ => by simp [detailUpdate, Update.slot]),
        count_slot_map_eq_zero Update.slot (fun _ => by simp [aggregateUpdate, Update.slot])]
      simp [Update.slot]

/-- Over distinct devices a tick writes no entry twice. -/
theorem tickUpdates_slots_nodup (hnd : (devs.map (fun d => d.index)).Nodup) :
    ((tickUpdates env helper devs samples).map Update.slot).Nodup := by
  rw [List.nodup_iff_count_le_one]
  intro k
  rw [count_tickUpdates]
  cases k with
  | gpuDevice i => exact List.nodup_iff_count_le_one.mp hnd i
  | gpuPerPidPerDevice key =>
      exact List.nodup_iff_count_le_one.mp (detailUpdates_slots_nodup _ _) _
  | gpuPerPid pid => exact List.nodup_iff_count_le_one.mp (aggregateUpdates_slots_nodup _ _ _) _
  | gpuMeta => exact le_refl 1

end slots

/-- The entries a completed tick writes, in order. -/
theorem issued_slots (S : Source ε σ) (env : TickEnv ε) (s : State σ)
    (h : (tick S env s).Completed) :
    (tick S env s).issued.map (fun x => x.1.slot) =
      (tickUpdates env s.helper (tick S env s).devs (tick S env s).samples).map Update.slot := by
  rw [← tick_updates S env s h, List.map_map]
  rfl

/-- A tick issues at most one update for each detail entry. -/
theorem count_detail_le_one (S : Source ε σ) (env : TickEnv ε) (s : State σ) (key : UInt64) :
    ((tick S env s).issued.map (fun x => x.1.slot)).count (.gpuPerPidPerDevice key) ≤ 1 := by
  by_cases hc : (tick S env s).Completed
  · rw [issued_slots S env s hc, count_tickUpdates]
    exact List.nodup_iff_count_le_one.mp (detailUpdates_slots_nodup _ _) _
  · rw [(tick_not_completed S env s hc).2]
    simp

/-! ### The maps after a tick whose updates all succeed -/

/-- All updates of the tick succeeded. -/
def Outcome.AllTaken (o : Outcome σ) : Prop := ∀ x ∈ o.issued, x.2 = true

instance (o : Outcome σ) : Decidable o.AllTaken :=
  inferInstanceAs (Decidable (∀ x ∈ o.issued, x.2 = true))

/-- An update that succeeded was in range. -/
theorem tick_inRange (S : Source ε σ) (env : TickEnv ε) (s : State σ) {u : Update}
    (hu : (u, true) ∈ (tick S env s).issued) : u.inRange = true := by
  by_cases hc : (tick S env s).Completed
  · rw [tick_issued S env s hc] at hu
    exact inRange_of_mem_attempts hu
  · rw [(tick_not_completed S env s hc).2] at hu
    cases hu

theorem read_tick (S : Source ε σ) (env : TickEnv ε) (s : State σ) (k : Slot) :
    (tick S env s).state.objs.read k =
      (lastWrite Update.slot (taken (tick S env s).issued) k).or (s.objs.read k) := by
  rw [tick_objs]
  exact Maps.read_storeAll s.objs (fun u hu => tick_inRange S env s (mem_taken.mp hu)) k

/-- The updates that a tick made, when all of them succeeded. -/
theorem taken_tick (S : Source ε σ) (env : TickEnv ε) (s : State σ)
    (ht : (tick S env s).AllTaken) (hc : (tick S env s).Completed) :
    taken (tick S env s).issued =
      tickUpdates env s.helper (tick S env s).devs (tick S env s).samples := by
  rw [taken_eq_map ht, tick_updates S env s hc]

/-- **The detail entry after a tick.** -/
theorem tick_lookup_detail (S : Source ε σ) (env : TickEnv ε) (s : State σ)
    (ht : (tick S env s).AllTaken) (pid dev : UInt32) :
    (tick S env s).state.objs.gpuPerPidPerDevice.lookup (perPidPerDeviceKey pid dev) =
      if pid = 0 ∨ keySamples (tick S env s).samples pid dev = [] then
        s.objs.gpuPerPidPerDevice.lookup (perPidPerDeviceKey pid dev)
      else some (detailRecord dev (keySamples (tick S env s).samples pid dev)) := by
  have hread := read_tick S env s (.gpuPerPidPerDevice (perPidPerDeviceKey pid dev))
  have hinj : Function.Injective (Update.gpuPerPidPerDevice (perPidPerDeviceKey pid dev)) :=
    fun _ _ h => (Update.gpuPerPidPerDevice.inj h).2
  apply Option.map_injective hinj
  by_cases hc : (tick S env s).Completed
  · rw [taken_tick S env s ht hc, lastWrite_detail] at hread
    split_ifs at hread ⊢ with h
    · exact hread
    · exact hread
  · obtain ⟨hs, hi⟩ := tick_not_completed S env s hc
    rw [hi] at hread
    have hk : keySamples (tick S env s).samples pid dev = [] := by rw [hs]; rfl
    rw [if_pos (Or.inr hk)]
    exact hread

/-- **The aggregated entry after a tick.** -/
theorem tick_lookup_aggregate (S : Source ε σ) (env : TickEnv ε) (s : State σ)
    (ht : (tick S env s).AllTaken) (pid : UInt32) :
    (tick S env s).state.objs.gpuPerPid.lookup pid =
      (((agg env.perDevOrder (tick S env s).samples).lookup pid).map AggBuilder.record).or
        (s.objs.gpuPerPid.lookup pid) := by
  have hread := read_tick S env s (.gpuPerPid pid)
  have hinj : Function.Injective (Update.gpuPerPid pid) :=
    fun _ _ h => (Update.gpuPerPid.inj h).2
  apply Option.map_injective hinj
  by_cases hc : (tick S env s).Completed
  · rw [taken_tick S env s ht hc, lastWrite_aggregate] at hread
    cases hl : (agg env.perDevOrder (tick S env s).samples).lookup pid with
    | none =>
        rw [hl] at hread
        exact hread
    | some b =>
        rw [hl] at hread
        exact hread
  · obtain ⟨hs, hi⟩ := tick_not_completed S env s hc
    rw [hi] at hread
    rw [hs, lookup_agg_eq_none env.perDevOrder (Or.inr rfl)]
    exact hread

/-! ### The updates of a tick by kind -/

theorem mem_tickUpdates {env : TickEnv ε} {helper : UInt32} {devs : List DeviceSnapshot}
    {samples : List ProcessSample} {u : Update} :
    u ∈ tickUpdates env helper devs samples ↔
      (∃ d ∈ devs, deviceUpdate d = u) ∨
      (∃ e ∈ GoMap.range env.perDevOrder (perDev samples), detailUpdate e = u) ∨
      (∃ e ∈ GoMap.range env.aggOrder (agg env.perDevOrder samples), aggregateUpdate e = u) ∨
      u = .gpuMeta (metaRecord env helper devs) := by
  simp only [tickUpdates, dataUpdates, detailUpdates, aggregateUpdates, List.mem_append,
    List.mem_map, List.mem_singleton, or_assoc]

/-- **Inversion of an update.** -/
theorem issued_cases {S : Source ε σ} {env : TickEnv ε} {s : State σ} {u : Update} {b : Bool}
    (hu : (u, b) ∈ (tick S env s).issued) :
    (∃ d ∈ (tick S env s).devs, deviceUpdate d = u) ∨
    (∃ e ∈ GoMap.range env.perDevOrder (perDev (tick S env s).samples), detailUpdate e = u) ∨
    (∃ e ∈ GoMap.range env.aggOrder (agg env.perDevOrder (tick S env s).samples),
      aggregateUpdate e = u) ∨
    u = .gpuMeta (metaRecord env s.helper (tick S env s).devs) := by
  have hc : (tick S env s).Completed := List.ne_nil_of_mem hu
  rw [← mem_tickUpdates, ← tick_updates S env s hc]
  exact List.mem_map_of_mem hu

/-- A tick issues one `gpu_meta` record. -/
theorem eq_meta_of_mem_issued {S : Source ε σ} {env : TickEnv ε} {s : State σ} {u : Update}
    {b : Bool} (hu : (u, b) ∈ (tick S env s).issued) (hs : u.slot = .gpuMeta) :
    u = .gpuMeta (metaRecord env s.helper (tick S env s).devs) := by
  rcases issued_cases hu with ⟨d, -, rfl⟩ | ⟨e, -, rfl⟩ | ⟨e, -, rfl⟩ | rfl
  · cases hs
  · cases hs
  · cases hs
  · rfl

/-- The device records a tick issues are those of the snapshots it was given. -/
theorem eq_device_of_mem_issued {S : Source ε σ} {env : TickEnv ε} {s : State σ} {u : Update}
    {b : Bool} {idx : UInt32} (hu : (u, b) ∈ (tick S env s).issued) (hs : u.slot = .gpuDevice idx) :
    ∃ d ∈ (tick S env s).devs, u = deviceUpdate d ∧ d.index = idx := by
  rcases issued_cases hu with ⟨d, hd, rfl⟩ | ⟨e, -, rfl⟩ | ⟨e, -, rfl⟩ | rfl
  · exact ⟨d, hd, rfl, Slot.gpuDevice.inj hs⟩
  · cases hs
  · cases hs
  · cases hs

/-- The aggregated records a tick issues are those of its builders. -/
theorem mem_issued_aggregate (S : Source ε σ) (env : TickEnv ε) (s : State σ) (pid : UInt32)
    (v : PidMetricsAggregated) :
    .gpuPerPid pid v ∈ (tick S env s).issued.map Prod.fst ↔
      ∃ b, (agg env.perDevOrder (tick S env s).samples).lookup pid = some b ∧ b.record = v := by
  constructor
  · intro h
    obtain ⟨⟨u, b⟩, hu, h⟩ := List.mem_map.mp h
    rcases issued_cases hu with ⟨d, -, rfl⟩ | ⟨e, -, rfl⟩ | ⟨e, he, rfl⟩ | rfl
    · cases h
    · cases h
    · obtain ⟨rfl, rfl⟩ := Update.gpuPerPid.inj h
      exact ⟨e.2, GoMap.mem_range.mp he, rfl⟩
    · cases h
  · rintro ⟨b, hb, rfl⟩
    have hc : (tick S env s).Completed := by
      by_contra hc
      rw [(tick_not_completed S env s hc).1, lookup_agg_eq_none env.perDevOrder (Or.inr rfl)] at hb
      cases hb
    rw [tick_updates S env s hc, mem_tickUpdates]
    exact Or.inr (Or.inr (Or.inl ⟨(pid, b), GoMap.mem_range.mpr hb, rfl⟩))

/-- A PID a tick issues a record for was sampled, and the record is made of its samples. -/
theorem sampled_of_mem_issued {S : Source ε σ} {env : TickEnv ε} {s : State σ} {pid : UInt32}
    {v : PidMetricsAggregated} (h : .gpuPerPid pid v ∈ (tick S env s).issued.map Prod.fst) :
    pid ≠ 0 ∧ pidSamples (tick S env s).samples pid ≠ [] ∧
      ∃ b, (agg env.perDevOrder (tick S env s).samples).lookup pid = some b ∧ b.record = v ∧
        PidAggregate (tick S env s).samples pid b := by
  obtain ⟨b, hb, hv⟩ := (mem_issued_aggregate S env s pid v).mp h
  have hno : ¬ (pid = 0 ∨ pidSamples (tick S env s).samples pid = []) := by
    intro hno
    rw [lookup_agg_eq_none env.perDevOrder hno] at hb
    cases hb
  obtain ⟨h0, hs⟩ := not_or.mp hno
  obtain ⟨b', hb', hagg⟩ := exists_lookup_agg env.perDevOrder h0 hs
  obtain rfl : b = b' := Option.some.inj (hb.symm.trans hb')
  exact ⟨h0, hs, b, hb, hv, hagg⟩

theorem exists_mem_issued (S : Source ε σ) (env : TickEnv ε) (s : State σ) {pid : UInt32}
    (h0 : pid ≠ 0) (hs : pidSamples (tick S env s).samples pid ≠ []) :
    ∃ v, .gpuPerPid pid v ∈ (tick S env s).issued.map Prod.fst := by
  obtain ⟨b, hb, -⟩ := exists_lookup_agg env.perDevOrder h0 hs
  exact ⟨b.record, (mem_issued_aggregate S env s pid b.record).mpr ⟨b, hb, rfl⟩⟩

/-- The detail records a tick issues are made of the samples of their key. -/
theorem eq_detail_of_mem_issued {S : Source ε σ} {env : TickEnv ε} {s : State σ}
    {pid dev : UInt32} {v : PidMetrics}
    (h : .gpuPerPidPerDevice (perPidPerDeviceKey pid dev) v ∈ (tick S env s).issued.map Prod.fst) :
    pid ≠ 0 ∧ dev ∈ pidDevices (tick S env s).samples pid ∧
      v = detailRecord dev (keySamples (tick S env s).samples pid dev) := by
  obtain ⟨⟨u, b⟩, hu, h⟩ := List.mem_map.mp h
  rcases issued_cases hu with ⟨d, -, rfl⟩ | ⟨e, he, rfl⟩ | ⟨e, -, rfl⟩ | rfl
  · cases h
  · obtain ⟨hk, rfl⟩ := Update.gpuPerPidPerDevice.inj h
    obtain ⟨rfl, rfl⟩ := perPidPerDeviceKey_inj hk
    obtain ⟨h0, hd, he⟩ := mem_entries.mp he
    refine ⟨h0, hd, ?_⟩
    rw [he]
    exact detail_keyAgg e.1.pid e.1.dev _
  · cases h
  · cases h

theorem exists_detail_issued (S : Source ε σ) (env : TickEnv ε) (s : State σ) {pid dev : UInt32}
    (h0 : pid ≠ 0) (hd : dev ∈ pidDevices (tick S env s).samples pid) :
    .gpuPerPidPerDevice (perPidPerDeviceKey pid dev)
        (detailRecord dev (keySamples (tick S env s).samples pid dev)) ∈
      (tick S env s).issued.map Prod.fst := by
  have hc : (tick S env s).Completed := by
    by_contra hc
    rw [(tick_not_completed S env s hc).1] at hd
    exact absurd rfl (mem_pidDevices.mp hd)
  rw [tick_updates S env s hc, mem_tickUpdates]
  refine Or.inr (Or.inl ⟨deviceEntry (tick S env s).samples pid dev,
    mem_entries.mpr ⟨h0, hd, rfl⟩, ?_⟩)
  rw [detailUpdate, deviceEntry, detail_keyAgg]

/-- **The `gpu_meta` record after a tick**: that of the tick if it returned no error. -/
theorem tick_meta (S : Source ε σ) (env : TickEnv ε) (s : State σ) :
    (tick S env s).state.objs.gpuMeta =
      if (tick S env s).err = none then metaRecord env s.helper (tick S env s).devs
      else s.objs.gpuMeta := by
  rw [← Maps.read_gpuMeta_eq, read_tick]
  split_ifs with h
  · rw [tick_err_eq_none_iff] at h
    obtain ⟨w, hw⟩ := exists_lastWrite Update.slot (mem_taken.mpr h)
    obtain ⟨hmem, hslot⟩ := lastWrite_mem _ hw
    rw [← eq_meta_of_mem_issued (mem_taken.mp hmem) hslot,
      show Slot.gpuMeta = (Update.gpuMeta
        (metaRecord env s.helper (tick S env s).devs)).slot from rfl, hw]
    rfl
  · have hnone : lastWrite Update.slot (taken (tick S env s).issued) .gpuMeta = none := by
      rw [lastWrite_eq_none_iff]
      intro u hu hs
      rw [mem_taken] at hu
      rw [eq_meta_of_mem_issued hu hs] at hu
      exact h ((tick_err_eq_none_iff S env s).mpr hu)
    rw [hnone]
    rfl

end GpuEbpfBridge
