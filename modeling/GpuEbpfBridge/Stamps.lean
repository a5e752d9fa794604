import GpuEbpfBridge.Mock
import GpuEbpfBridge.RealSpec

/-! # Time stamps

A tick reads the wall clock three times: in `Devices`, in `ProcessSamples` and for `gpu_meta`.
Both backends stamp everything they return in one call with one reading (`Stamped`), so every
record a tick writes carries one of the three readings (`issued_stamp`).  If the clock never
goes back, the stamp of `gpu_meta` after a successful tick is therefore at least that of every
record, and a record written in a tick is stamped no earlier than `gpu_meta` was before it
(`stamps_separate`). -/

namespace GpuEbpfBridge

open Lib

variable {ε σ : Type}

/-- The time stamp of a record. -/
def Update.timestampNs : Update → UInt64
  | gpuMeta m => m.lastUpdateNs
  | gpuDevice _ d => d.timestampNs
  | gpuPerPid _ p => p.timestampNs
  | gpuPerPidPerDevice _ p => p.timestampNs

/-! ### Backends that stamp what they return -/

/-- Every slice of `S` is stamped with a clock reading of the call that returned it. -/
structure Stamped (S : Source ε σ) (devicesNow samplesNow : ε → ℤ) : Prop where
  devices : ∀ e s, ∀ d ∈ (S.devices e s).1.1, d.timestampNs = unixNano (devicesNow e)
  samples : ∀ e n s, ∀ x ∈ (S.processSamples e n s).1.1, x.timestampNs = unixNano (samplesNow e)

theorem timestampNs_of_mem_keyOut {tsNs : UInt64} {dev pid : UInt32} {mem : Option UInt64}
    {l : List UtilSample} {x : ProcessSample} (h : x ∈ keyOut tsNs dev pid mem l) :
    x.timestampNs = tsNs := by
  cases l with
  | nil =>
      obtain ⟨u, -, rfl⟩ := List.mem_map.mp h
      rfl
  | cons s l =>
      rcases List.mem_cons.mp h with rfl | h
      · rfl
      · obtain ⟨y, -, rfl⟩ := List.mem_map.mp h
        rfl

theorem realSource_stamped (δ : Type) :
    Stamped (realSource δ) NvmlEnv.devicesNow NvmlEnv.samplesNow := by
  constructor
  case devices =>
      intro e s d hd
      obtain ⟨h, -, rfl⟩ := List.mem_map.mp hd
      rfl
  case samples =>
      intro e n s x hx
      have hk : x ∈ keySamples (s.processSamples e n).1.1 x.pid x.deviceIndex :=
        mem_keySamples.mpr ⟨hx, rfl, rfl⟩
      rw [keySamples_processSamples] at hk
      cases hh : handleAt s x.deviceIndex with
      | none =>
          rw [hh] at hk
          cases hk
      | some h =>
          rw [hh] at hk
          simp only at hk
          split_ifs at hk
          · cases hk
          · exact timestampNs_of_mem_keyOut hk

/-- One round of the process loop of the synthetic backend. -/
theorem addProcess_stamped (e : MockEnv) {t : UInt64} (dev : DeviceSnapshot)
    {st : UInt32 × List ProcessSample} (hst : ∀ y ∈ st.2, y.timestampNs = t) (j : ℕ) :
    ∀ y ∈ (Mock.addProcess e t dev st j).2, y.timestampNs = t := by
  intro y hy
  rcases List.mem_append.mp hy with hy | hy
  · exact hst y hy
  · rw [List.mem_singleton.mp hy]

/-- Its two loops. -/
theorem foldl_addProcess_stamped (e : MockEnv) (t : UInt64) (n : ℕ) (devs : List DeviceSnapshot)
    (pid : UInt32) :
    ∀ y ∈ (devs.foldl (fun st dev => (List.range n).foldl (Mock.addProcess e t dev) st)
      (pid, [])).2, y.timestampNs = t := by
  refine List.foldlRecOn devs _ (motive := fun st : UInt32 × List ProcessSample =>
    ∀ y ∈ st.2, y.timestampNs = t) (fun y hy => by cases hy) ?_
  intro st hst dev _
  exact List.foldlRecOn (List.range n) _ (motive := fun st : UInt32 × List ProcessSample =>
    ∀ y ∈ st.2, y.timestampNs = t) hst (fun _ hst j _ => addProcess_stamped e dev hst j)

theorem mockSource_stamped : Stamped mockSource MockEnv.devicesNow MockEnv.samplesNow := by
  constructor
  case devices =>
      intro e m d hd
      change d ∈ (Mock.devices e m).1.1 at hd
      unfold Mock.devices at hd
      cases hdevs : m.devs with
      | none =>
          rw [hdevs] at hd
          cases hd
      | some devs =>
          rw [hdevs] at hd
          obtain ⟨b, -, rfl⟩ := List.mem_map.mp hd
          rfl
  case samples =>
      intro e n m x hx
      change x ∈ (Mock.processSamples e n m).1.1 at hx
      unfold Mock.processSamples at hx
      cases hdevs : m.devs with
      | none =>
          rw [hdevs] at hx
          cases hx
      | some devs =>
          rw [hdevs] at hx
          simp only at hx
          split_ifs at hx
          · cases hx
          · exact foldl_addProcess_stamped e _ _ devs m.firstPid x hx

/-! ### The records of one tick -/

/-- The greatest of equal values. -/
theorem peak_eq {f : ProcessSample → UInt64} {l : List ProcessSample} {t : UInt64} (hne : l ≠ [])
    (h : ∀ s ∈ l, f s = t) : peak f l = t := by
  apply le_antisymm
  · exact Finset.sup_le (fun s hs => le_of_eq (h s (List.mem_toFinset.mp hs)))
  · obtain ⟨s, hs⟩ := List.exists_mem_of_ne_nil l hne
    rw [← h s hs]
    exact Finset.le_sup (f := f) (List.mem_toFinset.mpr hs)

section tick

variable {S : Source ε σ} {devicesNow samplesNow : ε → ℤ}

/-- The slices of a tick come from its two calls. -/
theorem tick_slices (hS : Stamped S devicesNow samplesNow) (env : TickEnv ε) (s : State σ) :
    (∀ d ∈ (tick S env s).devs, d.timestampNs = unixNano (devicesNow env.source)) ∧
      ∀ x ∈ (tick S env s).samples, x.timestampNs = unixNano (samplesNow env.source) := by
  rcases tick_cases S env s with ⟨_, _, _, _, ho⟩ | ⟨devs, source, samples, _, _, hd, hs, ho⟩
  · rw [ho]
    exact ⟨nofun, nofun⟩
  · rw [ho]
    have hdevs := hS.devices env.source s.source
    have hsamples := hS.samples env.source (minLastSeen env.lastSeenOrder s.lastSeenPerDevice) source
    rw [hd] at hdevs
    rw [hs] at hsamples
    exact ⟨hdevs, hsamples⟩

/-- **The stamp of a record**: one of the three readings of the tick. -/
theorem issued_stamp (hS : Stamped S devicesNow samplesNow) {env : TickEnv ε} {s : State σ}
    {u : Update} {b : Bool} (hu : (u, b) ∈ (tick S env s).issued) :
    u.timestampNs = unixNano (devicesNow env.source) ∨
      u.timestampNs = unixNano (samplesNow env.source) ∨ u.timestampNs = unixNano env.now := by
  obtain ⟨hdevs, hsamples⟩ := tick_slices hS env s
  rcases issued_cases hu with ⟨d, hd, rfl⟩ | ⟨e, he, rfl⟩ | ⟨e, he, rfl⟩ | rfl
  · exact Or.inl (hdevs d hd)
  · obtain ⟨-, hdev, he⟩ := mem_entries.mp he
    refine Or.inr (Or.inl ?_)
    have hts : e.2.ts =
        peak (fun x => x.timestampNs) (keySamples (tick S env s).samples e.1.pid e.1.dev) := by
      rw [he]
      rfl
    exact hts.trans (peak_eq (mem_pidDevices.mp hdev)
      (fun x hx => hsamples x (mem_keySamples.mp hx).1))
  · have hv : .gpuPerPid e.1 e.2.record ∈ (tick S env s).issued.map Prod.fst :=
      List.mem_map_of_mem hu
    obtain ⟨-, hne, builder, -, hrec, hagg⟩ := sampled_of_mem_issued hv
    refine Or.inr (Or.inl ?_)
    have hts : e.2.record.timestampNs = builder.ts := by
      rw [← hrec]
      rfl
    exact hts.trans (hagg.ts.trans (peak_eq hne
      (fun x hx => hsamples x (mem_pidSamples.mp hx).1)))
  · exact Or.inr (Or.inr rfl)

end tick

/-! ### Runs -/

/-- No record of the three data maps is stamped later than `t`. -/
structure RecordsUpTo (m : Maps) (t : UInt64) : Prop where
  gpuDevice : ∀ i, (m.gpuDevice i).timestampNs ≤ t
  gpuPerPid : ∀ pid v, m.gpuPerPid.lookup pid = some v → v.timestampNs ≤ t
  gpuPerPidPerDevice : ∀ key v, m.gpuPerPidPerDevice.lookup key = some v → v.timestampNs ≤ t

theorem RecordsUpTo.empty (t : UInt64) : RecordsUpTo Maps.empty t :=
  ⟨fun _ => UInt64.zero_le, fun _ _ h => (by cases h), fun _ _ h => (by cases h)⟩

theorem RecordsUpTo.mono {m : Maps} {t t' : UInt64} (h : RecordsUpTo m t) (hle : t ≤ t') :
    RecordsUpTo m t' :=
  ⟨fun i => le_trans (h.gpuDevice i) hle, fun pid v hv => le_trans (h.gpuPerPid pid v hv) hle,
    fun key v hv => le_trans (h.gpuPerPidPerDevice key v hv) hle⟩

theorem RecordsUpTo.store {m : Maps} {t : UInt64} (h : RecordsUpTo m t) {u : Update}
    (hu : u.timestampNs ≤ t) : RecordsUpTo (m.store u) t := by
  cases u with
  | gpuMeta v => exact ⟨h.gpuDevice, h.gpuPerPid, h.gpuPerPidPerDevice⟩
  | gpuDevice idx v =>
      refine ⟨fun i => ?_, h.gpuPerPid, h.gpuPerPidPerDevice⟩
      simp only [Maps.store]
      split_ifs
      · exact hu
      · exact h.gpuDevice i
  | gpuPerPid pid v =>
      refine ⟨h.gpuDevice, fun pid' w hw => ?_, h.gpuPerPidPerDevice⟩
      simp only [Maps.store, GoMap.lookup_insert_eq] at hw
      split_ifs at hw
      · exact Option.some.inj hw ▸ hu
      · exact h.gpuPerPid pid' w hw
  | gpuPerPidPerDevice key v =>
      refine ⟨h.gpuDevice, h.gpuPerPid, fun key' w hw => ?_⟩
      simp only [Maps.store, GoMap.lookup_insert_eq] at hw
      split_ifs at hw
      · exact Option.some.inj hw ▸ hu
      · exact h.gpuPerPidPerDevice key' w hw

theorem RecordsUpTo.storeAll {m : Maps} {t : UInt64} (h : RecordsUpTo m t) {us : List Update}
    (hus : ∀ u ∈ us, u.timestampNs ≤ t) : RecordsUpTo (m.storeAll us) t :=
  List.foldlRecOn us Maps.store (motive := fun m => RecordsUpTo m t) h
    (fun _ hm u hu => hm.store (hus u hu))

/-- The clock readings of a tick, as they are stored. -/
def TickEnv.readings (devicesNow samplesNow : ε → ℤ) (env : TickEnv ε) : List UInt64 :=
  [unixNano (devicesNow env.source), unixNano (samplesNow env.source), unixNano env.now]

/-- The wall clock never goes back: no reading of the run is below an earlier one. -/
def ClockForward (devicesNow samplesNow : ε → ℤ) (envs : List (TickEnv ε)) : Prop :=
  (envs.flatMap (TickEnv.readings devicesNow samplesNow)).Pairwise (fun a b => a ≤ b)

/-- What stamps tell a reader of a run: after each tick that publishes `gpu_meta` no record is
stamped later, and what a tick writes is stamped no earlier than `gpu_meta` was when it began. -/
def StampsSeparate (S : Source ε σ) (s₀ : State σ) (envs : List (TickEnv ε)) : Prop :=
  ∀ pre env post, envs = pre ++ env :: post →
    let s := reach (step S) s₀ pre
    let o := tick S env s
    (o.err = none → RecordsUpTo o.state.objs o.state.objs.gpuMeta.lastUpdateNs) ∧
      ∀ u b, (u, b) ∈ o.issued → s.objs.gpuMeta.lastUpdateNs ≤ u.timestampNs

section runs

variable {S : Source ε σ} {devicesNow samplesNow : ε → ℤ}

/-- One tick keeps all stamps, that of `gpu_meta` among them, below the clock. -/
theorem tick_stamps (hS : Stamped S devicesNow samplesNow) {env : TickEnv ε} {s : State σ}
    {t : UInt64} (hdev : unixNano (devicesNow env.source) ≤ t)
    (hsamp : unixNano (samplesNow env.source) ≤ t) (hnow : unixNano env.now ≤ t)
    (h : RecordsUpTo s.objs t) (hmeta : s.objs.gpuMeta.lastUpdateNs ≤ t) :
    RecordsUpTo (tick S env s).state.objs t ∧
      (tick S env s).state.objs.gpuMeta.lastUpdateNs ≤ t := by
  constructor
  · rw [tick_objs]
    refine h.storeAll (fun u hu => ?_)
    rcases issued_stamp hS (mem_taken.mp hu) with he | he | he
    · exact he ▸ hdev
    · exact he ▸ hsamp
    · exact he ▸ hnow
  · rw [tick_meta]
    split_ifs
    · exact hnow
    · exact hmeta

/-- After a run all stamps are below every later clock reading. -/
theorem run_stamps (hS : Stamped S devicesNow samplesNow) (source : σ) (helper : UInt32)
    (envs : List (TickEnv ε)) (t : UInt64)
    (ht : ∀ r ∈ envs.flatMap (TickEnv.readings devicesNow samplesNow), r ≤ t) :
    RecordsUpTo (reach (step S) (State.initial source helper) envs).objs t ∧
      (reach (step S) (State.initial source helper) envs).objs.gpuMeta.lastUpdateNs ≤ t := by
  refine run_invariant (P := fun es (s : State σ) =>
    (∀ r ∈ es.flatMap (TickEnv.readings devicesNow samplesNow), r ≤ t) →
      RecordsUpTo s.objs t ∧ s.objs.gpuMeta.lastUpdateNs ≤ t) ?_ ?_ envs ht
  · exact fun _ => ⟨RecordsUpTo.empty t, UInt64.zero_le⟩
  · intro es env ih hle
    rw [List.flatMap_append] at hle
    obtain ⟨h, hmeta⟩ := ih (fun r hr => hle r (List.mem_append_left _ hr))
    have hread : ∀ r ∈ env.readings devicesNow samplesNow, r ≤ t :=
      fun r hr => hle r (List.mem_append_right _ (by simpa using hr))
    exact tick_stamps hS (hread _ (by simp [TickEnv.readings])) (hread _ (by simp [TickEnv.readings]))
      (hread _ (by simp [TickEnv.readings])) h hmeta

/-- Over a backend that stamps what it returns, and a clock that never goes back. -/
theorem Stamped.separate (hS : Stamped S devicesNow samplesNow) (source : σ) (helper : UInt32)
    {envs : List (TickEnv ε)} (hclock : ClockForward devicesNow samplesNow envs) :
    StampsSeparate S (State.initial source helper) envs := by
  rintro pre env post rfl
  intro s o
  unfold ClockForward at hclock
  rw [List.flatMap_append, List.flatMap_cons, List.pairwise_append, List.pairwise_append] at hclock
  obtain ⟨-, ⟨hown, -, -⟩, hpre⟩ := hclock
  simp only [TickEnv.readings, List.pairwise_cons, List.mem_cons, List.not_mem_nil, or_false,
    forall_eq_or_imp, forall_eq] at hown
  obtain ⟨⟨hds, hdn⟩, hsn, -⟩ := hown
  have hbefore : ∀ r ∈ pre.flatMap (TickEnv.readings devicesNow samplesNow),
      r ≤ unixNano (devicesNow env.source) := by
    intro r hr
    refine hpre r hr _ (List.mem_append_left _ ?_)
    exact List.mem_cons_self
  obtain ⟨hrec, hmeta⟩ := run_stamps hS source helper pre _ hbefore
  constructor
  · intro herr
    have hafter := tick_stamps hS hdn hsn (le_refl _) (hrec.mono hdn) (le_trans hmeta hdn)
    have hlast : o.state.objs.gpuMeta.lastUpdateNs = unixNano env.now := by
      rw [tick_meta, if_pos herr]
      rfl
    rw [hlast]
    exact hafter.1
  · intro u b hu
    rcases issued_stamp hS hu with he | he | he
    · rw [he]
      exact hmeta
    · rw [he]
      exact le_trans hmeta hds
    · rw [he]
      exact le_trans hmeta hdn

end runs

/-- **Time stamps separate live from old records.**  In every run from empty maps over either
backend, under a wall clock that never goes back and whatever calls and updates fail: right after
a successful `gpu_meta` update no record is stamped later than `gpu_meta`, and every record
written in a tick is stamped no earlier than `gpu_meta` was when the tick began. -/
theorem stamps_separate (δ : Type) (helper : UInt32) :
    (∀ (session : Session δ) (envs : List (TickEnv (NvmlEnv δ))),
      ClockForward NvmlEnv.devicesNow NvmlEnv.samplesNow envs →
        StampsSeparate (realSource δ) (State.initial session helper) envs) ∧
    ∀ (mock : Mock) (envs : List (TickEnv MockEnv)),
      ClockForward MockEnv.devicesNow MockEnv.samplesNow envs →
        StampsSeparate mockSource (State.initial mock helper) envs :=
  ⟨fun session _ h => (realSource_stamped δ).separate session helper h,
    fun mock _ h => mockSource_stamped.separate mock helper h⟩

/-- Times after 1970, up to the greatest that `UnixNano` has, are stored as they are. -/
theorem toNat_unixNano {t : ℤ} (h0 : 0 ≤ t) (hlt : t < 2 ^ 63) : (unixNano t).toNat = t.toNat := by
  unfold unixNano UInt64.ofInt
  rw [UInt64.toNat_ofNat']
  omega

/-- A clock that shows such times and never goes back stores readings that never go back. -/
theorem unixNano_mono {a b : ℤ} (ha : 0 ≤ a) (hab : a ≤ b) (hb : b < 2 ^ 63) :
    unixNano a ≤ unixNano b := by
  rw [UInt64.le_iff_toNat_le, toNat_unixNano ha (lt_of_le_of_lt hab hb),
    toNat_unixNano (le_trans ha hab) hb]
  omega

theorem unixNano_lt {a b : ℤ} (ha : 0 ≤ a) (hab : a < b) (hb : b < 2 ^ 63) :
    unixNano a < unixNano b := by
  rw [UInt64.lt_iff_toNat_lt, toNat_unixNano ha (lt_trans hab hb),
    toNat_unixNano (le_of_lt (lt_of_le_of_lt ha hab)) hb]
  omega

/-- The stamp of an entry. -/
def Maps.stamp (m : Maps) (k : Slot) : Option UInt64 := (m.read k).map Update.timestampNs

/-- Two ticks of the synthetic backend on a clock that advances; the first loses all its updates. -/
def mockTicks (t : ℤ) : List (TickEnv MockEnv) :=
  [ { source := { devicesNow := t, samplesNow := t + 1 }, now := t + 2, faults := fun _ => true },
    { source := { devicesNow := t + 5, samplesNow := t + 6 }, now := t + 7 } ]

/-- A synthetic fleet of one device and process 7, initialised. -/
def oneProcessMock : Mock :=
  (Mock.init { devicesNow := 0, samplesNow := 0 }
    { numDevices := 1, pidsPerDevice := 1, firstPid := 7 }).2

/-- Two ticks of the real backend on such a clock: its device samples process 7 in the first and
process 8 in the second. -/
def realTicks (t : ℤ) : List (TickEnv (NvmlEnv ℕ)) :=
  let sampled (pid : UInt32) (t : ℤ) : NvmlEnv ℕ :=
    { deviceGetCount := (1, .success)
      deviceGetHandleByIndex := fun i => (i, .success)
      device := fun _ =>
        { getProcessUtilization := fun _ => ([{ pid := pid, timeStamp := 4, smUtil := 30 }], .success) }
      devicesNow := t
      samplesNow := t + 1 }
  [ { source := sampled 7 t, now := t + 2 }, { source := sampled 8 (t + 5), now := t + 7 } ]

/-- Over either backend the records of the second tick are stamped between the first and the second
stamp of `gpu_meta`, and that of process 7, which the real backend samples in the first tick only,
before the first. -/
theorem stamps_separate_written :
    let t : ℤ := 1750000000000000000
    let mock := State.initial oneProcessMock 1
    let real : State (Session ℕ) := State.initial { real := { handles := [0] } } 1
    StampsSeparate mockSource mock (mockTicks t) ∧
      StampsSeparate (realSource ℕ) real (realTicks t) ∧
      [.gpuDevice 0, .gpuPerPid 7, .gpuPerPidPerDevice (perPidPerDeviceKey 7 0), .gpuMeta].map
          (reach (step mockSource) mock (mockTicks t)).objs.stamp =
        [t + 5, t + 6, t + 6, t + 7].map (fun r => some (unixNano r)) ∧
      [.gpuDevice 0, .gpuPerPid 7, .gpuPerPidPerDevice (perPidPerDeviceKey 7 0), .gpuPerPid 8,
          .gpuMeta].map (reach (step (realSource ℕ)) real (realTicks t)).objs.stamp =
        [t + 5, t + 1, t + 1, t + 6, t + 7].map (fun r => some (unixNano r)) := by
  intro t mock real
  have hmock : ClockForward MockEnv.devicesNow MockEnv.samplesNow (mockTicks t) := by
    unfold ClockForward
    decide +kernel
  have hreal : ClockForward NvmlEnv.devicesNow NvmlEnv.samplesNow (realTicks t) := by
    unfold ClockForward
    decide +kernel
  refine ⟨(stamps_separate ℕ 1).2 _ _ hmock, (stamps_separate ℕ 1).1 _ _ hreal, ?_, ?_⟩
  · decide +kernel
  · decide +kernel

end GpuEbpfBridge
