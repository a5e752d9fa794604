import GpuEbpfBridge.Aggregate
import GpuEbpfBridge.Eviction
import GpuEbpfBridge.PidMaps
import GpuEbpfBridge.Stamps
import GpuEbpfBridge.Watermark

/-! # The synthetic fleet on record

`Mock.ProcessSamples` counts PIDs up through two nested loops, over the devices and over the
processes of each; `Fleet.sample` is the sample of the process with a number, and
`processSamples_started` the closed form of the loops.  The poller feeds its watermark back into
the call, and the watermark stays behind the clock (`fleet_bound_lt`), so each tick of a run
samples the whole fleet and writes it again (`fleet_republished`).

That is over a kernel that evicts nothing.  Room for all entries does not keep a real one from it: a
fleet that fills `gpu_per_pid` can lose processes while it rewrites them (`fleet_loses_processes`). -/

namespace GpuEbpfBridge

open Lib

/-- A configuration of `Mock` whose PIDs are 32-bit numbers and whose entries fit the maps. -/
structure Fleet where
  numDevices : ℕ
  pidsPerDevice : ℕ
  firstPid : UInt32
  devices_pos : 1 ≤ numDevices
  devices_le : numDevices ≤ maxDevices
  pids_pos : 1 ≤ pidsPerDevice
  first_pos : 1 ≤ firstPid.toNat
  fits : numDevices * pidsPerDevice ≤ maxEntries
  pids_le : firstPid.toNat + numDevices * pidsPerDevice ≤ 2 ^ 32

namespace Fleet

variable (f : Fleet)

/-- The number of processes. -/
def size : ℕ := f.numDevices * f.pidsPerDevice

/-- The PID of a process. -/
def pid (q : ℕ) : UInt32 := f.firstPid + UInt32.ofNat q

/-- The index of the device of a process. -/
def device (q : ℕ) : UInt32 := UInt32.ofNat (q / f.pidsPerDevice)

/-- The sample of a process. -/
def sample (env : MockEnv) (q : ℕ) : ProcessSample :=
  { pid := f.pid q
    deviceIndex := f.device q
    timestampNs := unixNano env.samplesNow
    usedGpuMemory := 256 * 1024 * 1024 + UInt64.ofNat (q % f.pidsPerDevice) * 128 * 1024 * 1024
    smUtilPct := (env.processWave (f.device q) (q % f.pidsPerDevice)).1
    memUtilPct := (env.processWave (f.device q) (q % f.pidsPerDevice)).2 }

/-- The backend after `Init`. -/
def started (env : MockEnv) : Mock :=
  (Mock.init env
    { numDevices := f.numDevices, pidsPerDevice := f.pidsPerDevice, firstPid := f.firstPid }).2

theorem started_eq (env : MockEnv) :
    f.started env =
      { numDevices := f.numDevices
        pidsPerDevice := f.pidsPerDevice
        firstPid := f.firstPid
        devs := some ((List.range f.numDevices).map Mock.baseDevice) } := by
  have hd : ¬ (f.numDevices : ℤ) ≤ 0 := by
    have := f.devices_pos
    omega
  have hp : ¬ (f.pidsPerDevice : ℤ) ≤ 0 := by
    have := f.pids_pos
    omega
  have h0 : f.firstPid ≠ 0 := by
    intro h
    have := f.first_pos
    rw [h] at this
    simp at this
  simp only [started, Mock.init, if_neg hd, if_neg hp, if_neg h0, Int.toNat_natCast]

/-! ### The processes -/

variable {f}

theorem toNat_pid {q : ℕ} (hq : q < f.size) : (f.pid q).toNat = f.firstPid.toNat + q := by
  have hle := f.pids_le
  unfold size at hq
  rw [pid, UInt32.toNat_add, UInt32.toNat_ofNat']
  omega

theorem pid_ne_zero {q : ℕ} (hq : q < f.size) : f.pid q ≠ 0 := by
  intro h
  have hpid := toNat_pid hq
  have := f.first_pos
  rw [h] at hpid
  change 0 = _ at hpid
  omega

theorem pid_inj {q q' : ℕ} (hq : q < f.size) (hq' : q' < f.size) : f.pid q = f.pid q' ↔ q = q' := by
  constructor
  · intro h
    have hpid := congrArg UInt32.toNat h
    rw [toNat_pid hq, toNat_pid hq'] at hpid
    omega
  · rintro rfl
    rfl

/-- The PIDs of the fleet are the numbers from the first one on. -/
theorem exists_pid_iff (p : UInt32) :
    (∃ q < f.size, f.pid q = p) ↔
      f.firstPid.toNat ≤ p.toNat ∧ p.toNat < f.firstPid.toNat + f.size := by
  constructor
  · rintro ⟨q, hq, rfl⟩
    rw [toNat_pid hq]
    omega
  · rintro ⟨hle, hlt⟩
    have hq : p.toNat - f.firstPid.toNat < f.size := by omega
    refine ⟨_, hq, UInt32.toNat_inj.mp ?_⟩
    rw [toNat_pid hq]
    omega

/-- A table with one entry for each process, under a key that tells its PID. -/
theorem length_entries {κ ν : Type} [DecidableEq κ] {m : GoMap κ ν} (key : ℕ → κ) (pidOf : κ → UInt32)
    (hpid : ∀ q, pidOf (key q) = f.pid q)
    (h : ∀ k, (m.lookup k).isSome ↔ ∃ q < f.size, key q = k) : m.entries.length = f.size := by
  have hkeys : ∀ k, (m.lookup k).isSome ↔ k ∈ (Finset.range f.size).image key := by
    intro k
    rw [h, Finset.mem_image]
    simp only [Finset.mem_range]
  rw [GoMap.length_entries_eq hkeys, Finset.card_image_of_injOn, Finset.card_range]
  intro q hq q' hq' he
  have hpids := congrArg pidOf he
  rw [hpid, hpid] at hpids
  exact (pid_inj (Finset.mem_range.mp hq) (Finset.mem_range.mp hq')).mp hpids

theorem device_lt {q : ℕ} (hq : q < f.size) : q / f.pidsPerDevice < f.numDevices := by
  apply Nat.div_lt_of_lt_mul
  rw [Nat.mul_comm]
  exact hq

theorem toNat_device {q : ℕ} (hq : q < f.size) : (f.device q).toNat = q / f.pidsPerDevice := by
  have hlt := device_lt hq
  have hle := f.devices_le
  unfold maxDevices at hle
  rw [device, UInt32.toNat_ofNat', Nat.mod_eq_of_lt (by omega)]

/-- The memory of a process, in MiB: 256 and 128 for each process before it on its device. -/
theorem toNat_used (env : MockEnv) (q : ℕ) :
    (f.sample env q).usedGpuMemory.toNat = (256 + 128 * (q % f.pidsPerDevice)) * 2 ^ 20 := by
  have hmod := Nat.mod_lt q f.pids_pos
  have hP : f.pidsPerDevice ≤ maxEntries :=
    le_trans (Nat.le_mul_of_pos_left _ f.devices_pos) f.fits
  unfold maxEntries at hP
  generalize hj : q % f.pidsPerDevice = j at hmod
  have hlt : j < 4096 := by omega
  simp only [sample, hj, UInt64.toNat_add, UInt64.toNat_mul, UInt64.toNat_ofNat',
    UInt64.reduceToNat]
  omega

/-! ### The two loops of `ProcessSamples` -/

/-- The inner loop, on the device at position `i`. -/
theorem foldl_addProcess (f : Fleet) (env : MockEnv) (i n : ℕ) (hn : n ≤ f.pidsPerDevice)
    (out : List ProcessSample) :
    (List.range n).foldl (Mock.addProcess env (unixNano env.samplesNow) (Mock.baseDevice i))
        (f.pid (i * f.pidsPerDevice), out) =
      (f.pid (i * f.pidsPerDevice + n),
        out ++ (List.range n).map (fun j => f.sample env (i * f.pidsPerDevice + j))) := by
  induction n with
  | zero => simp
  | succ n ih =>
      have hpos : 0 < f.pidsPerDevice := f.pids_pos
      have hdiv : (i * f.pidsPerDevice + n) / f.pidsPerDevice = i := by
        rw [Nat.add_comm, Nat.add_mul_div_right _ _ hpos, Nat.div_eq_of_lt hn, Nat.zero_add]
      have hmod : (i * f.pidsPerDevice + n) % f.pidsPerDevice = n := by
        rw [Nat.add_comm, Nat.add_mul_mod_self_right, Nat.mod_eq_of_lt hn]
      have hnext : f.pid (i * f.pidsPerDevice + n) + 1 = f.pid (i * f.pidsPerDevice + (n + 1)) := by
        rw [pid, pid, UInt32.add_assoc, ← Nat.add_assoc, UInt32.ofNat_add _ 1]
        rfl
      rw [List.range_succ, List.foldl_append, ih (Nat.le_of_succ_le hn), List.foldl_cons,
        List.foldl_nil, Mock.addProcess, hnext, List.map_append, List.append_assoc]
      simp only [sample, device, hdiv, hmod, Mock.baseDevice, List.map_cons, List.map_nil]

/-- The outer loop, over the first `n` devices. -/
theorem foldl_baseDevice (f : Fleet) (env : MockEnv) (n : ℕ) :
    ((List.range n).map Mock.baseDevice).foldl
        (fun st dev => (List.range f.pidsPerDevice).foldl
          (Mock.addProcess env (unixNano env.samplesNow) dev) st) (f.firstPid, []) =
      (f.pid (n * f.pidsPerDevice), (List.range (n * f.pidsPerDevice)).map (f.sample env)) := by
  induction n with
  | zero => simp [pid]
  | succ n ih =>
      rw [List.range_succ, List.map_append, List.foldl_append, ih, List.map_singleton,
        List.foldl_cons, List.foldl_nil, foldl_addProcess f env n _ (le_refl _), Nat.succ_mul,
        List.range_add, List.map_append, List.map_map]
      rfl

/-- **What the synthetic backend returns** if its clock is past the bound: one sample for each
process, in the order of the PIDs. -/
theorem processSamples_started (f : Fleet) (env₀ env : MockEnv) {n : UInt64}
    (hn : n < unixNano env.samplesNow) :
    Mock.processSamples env n (f.started env₀) =
      (((List.range f.size).map (f.sample env), none), f.started env₀) := by
  rw [started_eq, Mock.processSamples]
  simp only [ge_iff_le, if_neg (not_le.mpr hn), Int.toNat_natCast, foldl_baseDevice]
  rfl

/-! ### The samples of one process -/

variable {f : Fleet} {env : MockEnv} {q : ℕ}

theorem pidSamples_eq (hq : q < f.size) :
    pidSamples ((List.range f.size).map (f.sample env)) (f.pid q) = [f.sample env q] := by
  have hfilter : (List.range f.size).filter (fun i => (f.sample env i).pid = f.pid q) =
      (List.range f.size).filter (fun i => i = q) := by
    apply List.filter_congr
    intro i hi
    rw [decide_eq_decide]
    exact pid_inj (List.mem_range.mp hi) hq
  rw [pidSamples, List.filter_map, Function.comp_def, hfilter, List.filter_eq,
    List.nodup_range.count, if_pos (List.mem_range.mpr hq), List.replicate_one, List.map_singleton]

theorem pidDevices_eq (hq : q < f.size) :
    pidDevices ((List.range f.size).map (f.sample env)) (f.pid q) = {f.device q} := by
  rw [pidDevices, pidSamples_eq hq]
  rfl

theorem keySamples_eq (hq : q < f.size) :
    keySamples ((List.range f.size).map (f.sample env)) (f.pid q) (f.device q) =
      [f.sample env q] := by
  have hboth : keySamples ((List.range f.size).map (f.sample env)) (f.pid q) (f.device q) =
      (pidSamples ((List.range f.size).map (f.sample env)) (f.pid q)).filter
        (fun x => x.deviceIndex = f.device q) := by
    unfold keySamples pidSamples
    rw [List.filter_filter]
    congr 1
    funext x
    rw [← Bool.decide_and, decide_eq_decide]
    exact and_comm
  rw [hboth, pidSamples_eq hq]
  simp [sample]

theorem mem_pidDevices_iff (p d : UInt32) :
    d ∈ pidDevices ((List.range f.size).map (f.sample env)) p ↔
      ∃ q < f.size, f.pid q = p ∧ f.device q = d := by
  rw [mem_pidDevices_iff_exists]
  constructor
  · rintro ⟨x, hx, rfl, rfl⟩
    obtain ⟨q, hq, rfl⟩ := List.mem_map.mp hx
    exact ⟨q, List.mem_range.mp hq, rfl, rfl⟩
  · rintro ⟨q, hq, rfl, rfl⟩
    exact ⟨f.sample env q, List.mem_map_of_mem (List.mem_range.mpr hq), rfl, rfl⟩

/-- A tick writes one detail record for each process. -/
theorem length_detailUpdates (o : RangeOrder (PidDevKey × PerDevAgg)) :
    (detailUpdates o ((List.range f.size).map (f.sample env))).length = f.size := by
  rw [detailUpdates, List.length_map, GoMap.length_range]
  refine length_entries (fun q => ⟨f.pid q, f.device q⟩) PidDevKey.pid (fun q => rfl) (fun k => ?_)
  obtain ⟨p, d⟩ := k
  rw [isSome_lookup_perDev, mem_pidDevices_iff]
  constructor
  · rintro ⟨-, q, hq, hp, hd⟩
    exact ⟨q, hq, congrArg₂ PidDevKey.mk hp hd⟩
  · rintro ⟨q, hq, he⟩
    obtain ⟨rfl, rfl⟩ := PidDevKey.mk.inj he
    exact ⟨pid_ne_zero hq, q, hq, rfl, rfl⟩

/-- And one aggregated record. -/
theorem length_aggregateUpdates (o : RangeOrder (PidDevKey × PerDevAgg))
    (o' : RangeOrder (UInt32 × AggBuilder)) :
    (aggregateUpdates o o' ((List.range f.size).map (f.sample env))).length = f.size := by
  rw [aggregateUpdates, List.length_map, GoMap.length_range]
  refine length_entries f.pid id (fun q => rfl) (fun p => ?_)
  rw [isSome_lookup_agg, ← pidDevices_nonempty]
  constructor
  · rintro ⟨-, d, hd⟩
    obtain ⟨q, hq, hp, -⟩ := (mem_pidDevices_iff p d).mp hd
    exact ⟨q, hq, hp⟩
  · rintro ⟨q, hq, rfl⟩
    exact ⟨pid_ne_zero hq, f.device q, (mem_pidDevices_iff _ _).mpr ⟨q, hq, rfl, rfl⟩⟩

/-- **The record of a process**, made of the samples of the fleet. -/
theorem record_eq {b : AggBuilder} (hq : q < f.size)
    (h : PidAggregate ((List.range f.size).map (f.sample env)) (f.pid q) b) :
    b.record.deviceCount = 1 ∧ b.record.gpuDevicePrimary.toNat = q / f.pidsPerDevice ∧
      b.record.usedGpuMemoryTotal.toNat = (256 + 128 * (q % f.pidsPerDevice)) * 2 ^ 20 := by
  have hs : pidSamples ((List.range f.size).map (f.sample env)) (f.pid q) ≠ [] := by
    rw [pidSamples_eq hq]
    exact List.cons_ne_nil _ _
  have hdev : ∀ d ∈ pidDevices ((List.range f.size).map (f.sample env)) (f.pid q),
      d.toNat < maxDevices := by
    intro d hd
    rw [pidDevices_eq hq, Finset.mem_singleton] at hd
    rw [hd, toNat_device hq]
    exact lt_of_lt_of_le (device_lt hq) f.devices_le
  have htotal : pidTotal ((List.range f.size).map (f.sample env)) (f.pid q) =
      (256 + 128 * (q % f.pidsPerDevice)) * 2 ^ 20 := by
    rw [pidTotal, pidDevices_eq hq, Finset.sum_singleton, keySamples_eq hq, peak_cons,
      ← toNat_used env q]
    exact congrArg UInt64.toNat (max_eq_left UInt64.zero_le)
  have hov : pidTotal ((List.range f.size).map (f.sample env)) (f.pid q) < 2 ^ 64 := by
    rw [htotal, ← toNat_used env q]
    exact UInt64.toNat_lt _
  have hexact := h.exact hs hdev hov
  have hcount : b.record.deviceCount = 1 := by
    apply UInt8.toNat_inj.mp
    rw [hexact.deviceCount, pidDevices_eq hq, Finset.card_singleton]
    rfl
  refine ⟨hcount, ?_, hexact.usedGpuMemoryTotal.trans htotal⟩
  obtain ⟨d, hd, hprimary⟩ := hexact.primary_single hcount
  rw [pidDevices_eq hq, Finset.singleton_inj] at hd
  rw [hprimary, ← hd, toNat_device hq]

end Fleet

/-! ### Runs -/

/-- The clock of the backend advances over a run: what it shows in the `ProcessSamples` calls is
positive and strictly increases. -/
structure ClockAdvances (envs : List (TickEnv MockEnv)) : Prop where
  pos : ∀ e ∈ envs, 0 < unixNano e.source.samplesNow
  increasing : envs.Pairwise
    (fun e e' => unixNano e.source.samplesNow < unixNano e'.source.samplesNow)

/-- A clock that shows increasing times after 1970 advances. -/
theorem ClockAdvances.of_readings {envs : List (TickEnv MockEnv)}
    (hpos : ∀ e ∈ envs, 0 < e.source.samplesNow ∧ e.source.samplesNow < 2 ^ 63)
    (hlt : envs.Pairwise (fun e e' => e.source.samplesNow < e'.source.samplesNow)) :
    ClockAdvances envs := by
  constructor
  · intro e he
    obtain ⟨h0, hmax⟩ := hpos e he
    exact unixNano_lt (le_refl 0) h0 hmax
  · refine hlt.imp_of_mem (fun {e e'} he he' h => ?_)
    exact unixNano_lt (le_of_lt (hpos e he).1) h (hpos e' he').2

namespace Fleet

/-- The records of the fleet after a tick: their keys, that the tick wrote each of them, and the
one detail entry of each process. -/
structure Republished (f : Fleet) (o : Outcome Mock) : Prop where
  keys : ∀ p, (o.state.objs.gpuPerPid.lookup p).isSome ↔
    f.firstPid.toNat ≤ p.toNat ∧ p.toNat < f.firstPid.toNat + f.numDevices * f.pidsPerDevice
  record : ∀ q < f.numDevices * f.pidsPerDevice, ∃ v,
    (.gpuPerPid (f.pid q) v, true) ∈ o.issued ∧
      o.state.objs.gpuPerPid.lookup (f.pid q) = some v ∧ v.deviceCount = 1 ∧
      v.gpuDevicePrimary.toNat = q / f.pidsPerDevice ∧
      v.usedGpuMemoryTotal.toNat = (256 + 128 * (q % f.pidsPerDevice)) * 2 ^ 20
  detail : ∀ q < f.numDevices * f.pidsPerDevice, ∀ dev,
    (o.state.objs.gpuPerPidPerDevice.lookup (perPidPerDeviceKey (f.pid q) dev)).isSome ↔
      dev.toNat = q / f.pidsPerDevice

section run

variable (f : Fleet) (env₀ : MockEnv) (helper : UInt32)

/-- The state before the first tick. -/
def initial : State Mock := State.initial (f.started env₀) helper

theorem devices_started (env : MockEnv) :
    (Mock.devices env (f.started env₀)).1.2 = none ∧
      (Mock.devices env (f.started env₀)).2 = f.started env₀ := by
  rw [started_eq]
  exact ⟨rfl, rfl⟩

/-- No tick changes the backend. -/
theorem run_source_eq (envs : List (TickEnv MockEnv)) :
    (reach (step mockSource) (f.initial env₀ helper) envs).source = f.started env₀ := by
  refine run_source mockSource (P := fun m => m = f.started env₀) ?_ ?_ rfl envs
  · rintro e _ rfl
    exact (f.devices_started env₀ e).2
  · rintro e n _ rfl
    by_cases hn : n < unixNano e.samplesNow
    · exact congrArg Prod.snd (f.processSamples_started env₀ e hn)
    · change (Mock.processSamples e n (f.started env₀)).2 = _
      rw [started_eq, Mock.processSamples]
      simp only [ge_iff_le, if_pos (not_lt.mp hn)]

theorem devices_run (pre : List (TickEnv MockEnv)) (env : TickEnv MockEnv) :
    (mockSource.devices env.source
      (reach (step mockSource) (f.initial env₀ helper) pre).source).1.2 = none := by
  rw [f.run_source_eq env₀ helper pre]
  exact (f.devices_started env₀ env.source).1

variable {envs pre post : List (TickEnv MockEnv)} {env : TickEnv MockEnv}
  (hclock : ClockAdvances envs) (henvs : envs = pre ++ env :: post)
include hclock henvs

/-- **The watermark stays behind the clock**: the bound of a tick is below the reading at which its
samples are stamped. -/
theorem fleet_bound_lt :
    minLastSeen env.lastSeenOrder
        (reach (step mockSource) (f.initial env₀ helper) pre).lastSeenPerDevice <
      unixNano env.source.samplesNow := by
  have hincreasing := hclock.increasing
  rw [henvs, List.pairwise_append] at hincreasing
  have hpast : ∀ y ∈ history (outcomes mockSource (f.initial env₀ helper) pre),
      0 < y.timestampNs ∧ y.timestampNs < unixNano env.source.samplesNow := by
    intro y hy
    obtain ⟨o, ho, hy⟩ := List.mem_flatMap.mp hy
    obtain ⟨pre', e, post', hpre, rfl⟩ := exists_of_mem_outputs ho
    have he : e ∈ pre := by simp [hpre]
    rw [(tick_slices mockSource_stamped e _).2 y hy]
    refine ⟨hclock.pos e ?_, hincreasing.2.2 e he env List.mem_cons_self⟩
    rw [henvs]
    exact List.mem_append_left _ he
  rw [(run_lastSeen mockSource (f.initial env₀ helper) rfl pre).minLastSeen_lt_iff]
  refine ⟨hclock.pos env (by simp [henvs]), ?_⟩
  cases hhist : history (outcomes mockSource (f.initial env₀ helper) pre) with
  | nil => exact Or.inl (fun y hy => absurd hy List.not_mem_nil)
  | cons y l =>
      rw [← hhist]
      have hy : y ∈ history (outcomes mockSource (f.initial env₀ helper) pre) := by
        rw [hhist]
        exact List.mem_cons_self
      refine Or.inr ⟨y.deviceIndex, greatest_pos_iff.mpr ⟨y, hy, rfl, (hpast y hy).1⟩, ?_⟩
      refine (Finset.sup_lt_iff (hclock.pos env (by simp [henvs]))).mpr (fun x hx => ?_)
      exact (hpast x (List.mem_of_mem_filter (List.mem_toFinset.mp hx))).2

/-- A tick of the run samples the whole fleet. -/
theorem tick_samples_eq :
    (tick mockSource env (reach (step mockSource) (f.initial env₀ helper) pre)).samples =
      (List.range f.size).map (f.sample env.source) := by
  rw [tick_devices_ok mockSource env _ (f.devices_run env₀ helper pre env)]
  change (Mock.processSamples env.source _ (Mock.devices env.source _).2).1.1 = _
  rw [f.run_source_eq env₀ helper pre, (f.devices_started env₀ env.source).2,
    f.processSamples_started env₀ env.source (f.fleet_bound_lt env₀ helper hclock henvs)]

/-- The processes and devices sampled up to a tick. -/
theorem exists_sampled_iff (Q : UInt32 → UInt32 → Prop) :
    (∃ o ∈ outcomes mockSource (f.initial env₀ helper) (pre ++ [env]), ∃ x ∈ o.samples,
        Q x.pid x.deviceIndex) ↔ ∃ q < f.size, Q (f.pid q) (f.device q) := by
  constructor
  · rintro ⟨o, ho, x, hx, hQ⟩
    obtain ⟨pre', e, post', hsplit, rfl⟩ := exists_of_mem_outputs ho
    have hall : envs = pre' ++ e :: (post' ++ post) := by
      rw [henvs, show pre ++ env :: post = pre ++ [env] ++ post by simp, hsplit]
      simp
    rw [f.tick_samples_eq env₀ helper hclock hall] at hx
    obtain ⟨q, hq, rfl⟩ := List.mem_map.mp hx
    exact ⟨q, List.mem_range.mp hq, hQ⟩
  · rintro ⟨q, hq, hQ⟩
    refine ⟨_, by rw [outcomes_concat]; exact List.mem_append_right _ List.mem_cons_self,
      f.sample env.source q, ?_, hQ⟩
    rw [f.tick_samples_eq env₀ helper hclock henvs]
    exact List.mem_map_of_mem (List.mem_range.mpr hq)

end run

/-- The synthetic fleet after one tick of a run. -/
theorem republished_of_taken (f : Fleet) (env₀ : MockEnv) (helper : UInt32)
    {envs pre post : List (TickEnv MockEnv)} {env : TickEnv MockEnv} (hclock : ClockAdvances envs)
    (henvs : envs = pre ++ env :: post)
    (ht : ∀ o ∈ outcomes mockSource (f.initial env₀ helper) (pre ++ [env]), o.AllTaken) :
    f.Republished (tick mockSource env (reach (step mockSource) (f.initial env₀ helper) pre)) := by
  have hsamples := f.tick_samples_eq env₀ helper hclock henvs
  have hnow : (tick mockSource env
      (reach (step mockSource) (f.initial env₀ helper) pre)).AllTaken := by
    apply ht
    rw [outcomes_concat]
    exact List.mem_append_right _ List.mem_cons_self
  constructor
  case keys =>
      intro p
      rw [tick_state]
      have hrun := run_aggregate_isSome mockSource (f.started env₀) helper (pre ++ [env]) ht p
      have hany := f.exists_sampled_iff env₀ helper hclock henvs (fun p' _ => p' = p)
      refine hrun.trans ((and_congr_right' hany).trans ?_)
      rw [← size, ← exists_pid_iff]
      constructor
      · exact fun h => h.2
      · rintro ⟨q, hq, rfl⟩
        exact ⟨pid_ne_zero hq, q, hq, rfl⟩
  case record =>
      intro q hq
      have hs : pidSamples (tick mockSource env
          (reach (step mockSource) (f.initial env₀ helper) pre)).samples (f.pid q) ≠ [] := by
        rw [hsamples, pidSamples_eq hq]
        exact List.cons_ne_nil _ _
      obtain ⟨v, hv⟩ := exists_mem_issued mockSource env _ (pid_ne_zero hq) hs
      obtain ⟨-, -, b, hb, rfl, hagg⟩ := sampled_of_mem_issued hv
      obtain ⟨⟨u, taken⟩, hu, rfl⟩ := List.mem_map.mp hv
      rw [hsamples] at hagg
      refine ⟨b.record, ?_, ?_, record_eq hq hagg⟩
      · have htaken : taken = true := hnow _ hu
        rw [← htaken]
        exact hu
      · rw [tick_lookup_aggregate mockSource env _ hnow, hb]
        rfl
  case detail =>
      intro q hq dev
      rw [tick_state]
      have hrun := run_detail_isSome mockSource (f.started env₀) helper (pre ++ [env]) ht (f.pid q) dev
      have hany := f.exists_sampled_iff env₀ helper hclock henvs (fun p d => p = f.pid q ∧ d = dev)
      refine hrun.trans ((and_congr_right' hany).trans ?_)
      rw [← toNat_device hq]
      constructor
      · rintro ⟨-, q', hq', hp, rfl⟩
        rw [(pid_inj hq' hq).mp hp]
      · intro hd
        exact ⟨pid_ne_zero hq, q, hq, rfl, UInt32.toNat_inj.mp hd.symm⟩

/-- Both per-PID maps hold one entry for each process. -/
theorem entries_length (f : Fleet) (env₀ : MockEnv) (helper : UInt32)
    {envs pre post : List (TickEnv MockEnv)} {env : TickEnv MockEnv} (hclock : ClockAdvances envs)
    (henvs : envs = pre ++ env :: post)
    (ht : ∀ o ∈ outcomes mockSource (f.initial env₀ helper) (pre ++ [env]), o.AllTaken) :
    let m := (reach (step mockSource) (f.initial env₀ helper) (pre ++ [env])).objs
    m.gpuPerPid.entries.length = f.size ∧ m.gpuPerPidPerDevice.entries.length = f.size := by
  intro m
  constructor
  · refine f.length_entries f.pid id (fun q => rfl) (fun p => ?_)
    have hrun := run_aggregate_isSome mockSource (f.started env₀) helper _ ht p
    have hany := f.exists_sampled_iff env₀ helper hclock henvs (fun p' _ => p' = p)
    refine hrun.trans ((and_congr_right' hany).trans (and_iff_right_of_imp ?_))
    rintro ⟨q, hq, rfl⟩
    exact pid_ne_zero hq
  · refine f.length_entries (fun q => perPidPerDeviceKey (f.pid q) (f.device q))
      (fun key => (splitKey key).1) (fun q => ?_) (fun key => ?_)
    · rw [splitKey_perPidPerDeviceKey]
    · rw [← perPidPerDeviceKey_splitKey key]
      have hrun := run_detail_isSome mockSource (f.started env₀) helper _ ht (splitKey key).1
        (splitKey key).2
      have hany := f.exists_sampled_iff env₀ helper hclock henvs
        (fun p d => p = (splitKey key).1 ∧ d = (splitKey key).2)
      refine hrun.trans ((and_congr_right' hany).trans ?_)
      constructor
      · rintro ⟨-, q, hq, hp, hd⟩
        exact ⟨q, hq, by rw [hp, hd]⟩
      · rintro ⟨q, hq, he⟩
        obtain ⟨hp, hd⟩ := perPidPerDeviceKey_inj he
        exact ⟨hp ▸ pid_ne_zero hq, q, hq, hp, hd⟩

/-! ### A tick that loses entries -/

/-- The kernel drops the first two processes before the last update of `gpu_per_pid` in a tick. -/
def lateDrops (f : Fleet) : Drops := fun i =>
  if i + 1 = f.numDevices + 2 * f.size then [.gpuPerPid (f.pid 0), .gpuPerPid (f.pid 1)] else []

section evicted

variable (f : Fleet) (env₀ : MockEnv) (helper : UInt32)
  {envs pre post : List (TickEnv MockEnv)} {env : TickEnv MockEnv}

/-- The snapshots of a tick of the run: one for each device, at its index. -/
theorem tick_devs_eq :
    (tick mockSource env (reach (step mockSource) (f.initial env₀ helper) pre)).devs.map
        (fun d => d.index) = (List.range f.numDevices).map UInt32.ofNat := by
  rw [tick_devices_ok mockSource env _ (f.devices_run env₀ helper pre env)]
  change (Mock.devices env.source _).1.1.map (fun d => d.index) = _
  rw [f.run_source_eq env₀ helper pre, started_eq, Mock.devices]
  simp only [List.map_map]
  have hindex : (fun d : DeviceSnapshot => d.index) ∘
      (fun d : DeviceSnapshot × ℕ => Mock.snapshot env.source d.1 d.2) =
      (fun d : DeviceSnapshot => d.index) ∘ Prod.fst := rfl
  rw [hindex, ← List.map_map, List.zipIdx_map_fst, List.map_map]
  rfl

/-- The fleet has its devices at slots of `gpu_device`. -/
theorem tickUpdates_inRange (env : TickEnv MockEnv) {devs : List DeviceSnapshot}
    (hdevs : devs.map (fun d => d.index) = (List.range f.numDevices).map UInt32.ofNat) {h : UInt32}
    {samples : List ProcessSample} :
    ∀ u ∈ tickUpdates env h devs samples, u.inRange = true := by
  intro u hu
  rcases mem_tickUpdates.mp hu with ⟨d, hd, rfl⟩ | ⟨e, -, rfl⟩ | ⟨e, -, rfl⟩ | rfl
  · have hmem : d.index ∈ devs.map (fun d => d.index) := List.mem_map_of_mem hd
    rw [hdevs] at hmem
    obtain ⟨i, hi, hidx⟩ := List.mem_map.mp hmem
    have hlt := lt_of_lt_of_le (List.mem_range.mp hi) f.devices_le
    unfold maxDevices at hlt
    simp only [deviceUpdate, Update.inRange, ← hidx, UInt32.toNat_ofNat', decide_eq_true_eq]
    unfold maxDevices
    omega
  · rfl
  · rfl
  · rfl

/-- A tick of the run in which no call on the maps fails: every update succeeds, and the last but one
is of `gpu_per_pid`. -/
theorem tick_issued_eq (hclock : ClockAdvances envs) (henvs : envs = pre ++ env :: post)
    (hf : env.faults = noFaults) :
    ∃ (us : List Update) (pid : UInt32) (v : PidMetricsAggregated) (m : Meta),
      us.length + 1 = f.numDevices + 2 * f.size ∧
        (tick mockSource env (reach (step mockSource) (f.initial env₀ helper) pre)).issued =
          us.map (fun u => (u, true)) ++ [(.gpuPerPid pid v, true), (.gpuMeta m, true)] := by
  have hdevs : (tick mockSource env (reach (step mockSource) (f.initial env₀ helper) pre)).devs.map
      (fun d => d.index) = (List.range f.numDevices).map UInt32.ofNat := f.tick_devs_eq env₀ helper
  have hsamples := f.tick_samples_eq env₀ helper hclock henvs
  have hcompleted : (tick mockSource env
      (reach (step mockSource) (f.initial env₀ helper) pre)).Completed := by
    rw [tick_devices_ok mockSource env _ (f.devices_run env₀ helper pre env)]
    exact completedOutcome_completed _ _ _ _ _
  have hissued := tick_issued mockSource env _ hcompleted
  rw [hsamples, hf] at hissued
  generalize (tick mockSource env
    (reach (step mockSource) (f.initial env₀ helper) pre)).devs = devs at hdevs hissued
  have hlen : devs.length = f.numDevices := by
    simpa using congrArg List.length hdevs
  rw [attempts_noFaults (f.tickUpdates_inRange env hdevs)] at hissued
  have haggregates : (aggregateUpdates env.perDevOrder env.aggOrder
      ((List.range f.size).map (f.sample env.source))).length = f.size := f.length_aggregateUpdates _ _
  rcases List.eq_nil_or_concat (aggregateUpdates env.perDevOrder env.aggOrder
    ((List.range f.size).map (f.sample env.source))) with hnil | ⟨init, last, hlast⟩
  · rw [hnil, List.length_nil] at haggregates
    have hpos : 0 < f.size := Nat.mul_pos f.devices_pos f.pids_pos
    omega
  · rw [List.concat_eq_append] at hlast
    have hmem : last ∈ aggregateUpdates env.perDevOrder env.aggOrder
        ((List.range f.size).map (f.sample env.source)) := by
      rw [hlast]
      exact List.mem_append_right _ List.mem_cons_self
    obtain ⟨e, -, rfl⟩ := List.mem_map.mp hmem
    refine ⟨devs.map deviceUpdate ++ (detailUpdates env.perDevOrder
      ((List.range f.size).map (f.sample env.source)) ++ init), e.1, e.2.record,
      metaRecord env (reach (step mockSource) (f.initial env₀ helper) pre).helper devs, ?_, ?_⟩
    · rw [hlast, List.length_append, List.length_singleton] at haggregates
      rw [List.length_append, List.length_append, List.length_map, length_detailUpdates, hlen]
      omega
    · rw [hissued, tickUpdates, dataUpdates, hlast]
      simp only [List.map_append, List.append_assoc, List.map_cons, List.map_nil]
      rfl

theorem allTaken_of_noFaults (hclock : ClockAdvances envs) (henvs : envs = pre ++ env :: post)
    (hf : env.faults = noFaults) :
    (tick mockSource env (reach (step mockSource) (f.initial env₀ helper) pre)).AllTaken := by
  obtain ⟨us, pid, v, m, -, hissued⟩ := f.tick_issued_eq env₀ helper hclock henvs hf
  intro x hx
  rw [hissued, List.mem_append, List.mem_map] at hx
  rcases hx with ⟨u, -, rfl⟩ | hx
  · rfl
  · rcases List.mem_pair.mp hx with rfl | rfl
    · rfl
    · rfl

/-- **What a late drop does**: one of the two processes is missing after the tick. -/
theorem not_republished_of_lateDrops (hclock : ClockAdvances envs) (henvs : envs = pre ++ env :: post)
    (hf : env.faults = noFaults) (hsize : 2 ≤ f.size) :
    ¬ f.Republished (evictingTick mockSource env f.lateDrops
      (reach (step mockSource) (f.initial env₀ helper) pre)) := by
  obtain ⟨us, pid, v, m, hlen, hissued⟩ := f.tick_issued_eq env₀ helper hclock henvs hf
  intro h
  have hkeys := h.keys
  rw [evictingTick_eq, hissued, mapChanges_append, List.foldl_append] at hkeys
  have hlate : mapChanges f.lateDrops (0 + (us.map (fun u => (u, true))).length)
      [(.gpuPerPid pid v, true), (.gpuMeta m, true)] =
        [.erasePerPid (f.pid 0), .erasePerPid (f.pid 1), .store (.gpuPerPid pid v),
          .store (.gpuMeta m)] := by
    have h₁ : f.lateDrops us.length = [.gpuPerPid (f.pid 0), .gpuPerPid (f.pid 1)] := if_pos hlen
    have h₂ : f.lateDrops (us.length + 1) = [] := if_neg (by omega)
    rw [List.length_map, Nat.zero_add, mapChanges, mapChanges, mapChanges, h₁, h₂]
    rfl
  rw [hlate] at hkeys
  -- the last update stores one PID, so the other of the two stays dropped
  have hmissing : ∀ q, q = 0 ∨ q = 1 → f.pid q ≠ pid → q < f.size → False := by
    intro q hq hne hlt
    have hsome := (hkeys (f.pid q)).mpr ((exists_pid_iff _).mp ⟨q, hlt, rfl⟩)
    simp only [List.foldl_cons, List.foldl_nil, Change.apply, Maps.store,
      GoMap.lookup_insert_eq, GoMap.lookup_erase_eq] at hsome
    rw [if_neg (Ne.symm hne)] at hsome
    rcases hq with rfl | rfl
    · simp at hsome
    · simp at hsome
  by_cases h0 : f.pid 0 = pid
  · refine hmissing 1 (Or.inr rfl) (fun h1 => ?_) (by omega)
    have := (pid_inj (by omega) (by omega)).mp (h0.trans h1.symm)
    omega
  · exact hmissing 0 (Or.inl rfl) h0 (by omega)

/-- A run of two ticks, with a late drop in the second. -/
theorem lateDrops_second_tick {e₁ e₂ : TickEnv MockEnv} (hclock : ClockAdvances [e₁, e₂])
    (hf₁ : e₁.faults = noFaults) (hf₂ : e₂.faults = noFaults) (hsize : 2 ≤ f.size) :
    let o₁ := evictingTick mockSource e₁ noDrops (f.initial env₀ helper)
    let o₂ := evictingTick mockSource e₂ f.lateDrops o₁.state
    o₁.AllTaken ∧ o₂.AllTaken ∧ f.Republished o₁ ∧
      o₁.state.objs.gpuPerPid.entries.length = f.size ∧ ¬ f.Republished o₂ := by
  intro o₁ o₂
  have h₁ : (tick mockSource e₁ (reach (step mockSource) (f.initial env₀ helper) [])).AllTaken :=
    f.allTaken_of_noFaults env₀ helper hclock rfl hf₁
  have h₂ : (tick mockSource e₂ (reach (step mockSource) (f.initial env₀ helper) [e₁])).AllTaken :=
    f.allTaken_of_noFaults env₀ helper hclock rfl hf₂
  have hrun : ∀ o ∈ outcomes mockSource (f.initial env₀ helper) ([] ++ [e₁]), o.AllTaken := by
    intro o ho
    rw [List.mem_singleton.mp ho]
    exact h₁
  have hfirst : o₁ = tick mockSource e₁ (reach (step mockSource) (f.initial env₀ helper) []) :=
    evictingTick_noDrops _ _ _
  have hsecond : o₂ = evictingTick mockSource e₂ f.lateDrops
      (reach (step mockSource) (f.initial env₀ helper) [e₁]) :=
    congrArg (fun o : Outcome Mock => evictingTick mockSource e₂ f.lateDrops o.state) hfirst
  rw [hfirst, hsecond]
  refine ⟨h₁, ?_, ?_, ?_, ?_⟩
  · rw [evictingTick_eq]
    exact h₂
  · exact f.republished_of_taken env₀ helper hclock rfl hrun
  · exact (f.entries_length env₀ helper hclock rfl hrun).1
  · exact f.not_republished_of_lateDrops env₀ helper hclock rfl hf₂ hsize

end evicted

end Fleet

/-- **The poller republishes the whole synthetic fleet every tick**, if the kernel evicts nothing.  For
every fleet that fits the maps, every clock that advances and every run of ticks from empty maps whose
updates succeed: after each tick `gpu_per_pid` has exactly the PIDs of the fleet, the tick wrote the
record of each of them, and the one detail entry of a process is that on its device. -/
theorem fleet_republished (f : Fleet) (env₀ : MockEnv) (helper : UInt32)
    (envs : List (TickEnv MockEnv)) (hclock : ClockAdvances envs)
    (ht : ∀ o ∈ outcomes mockSource (f.initial env₀ helper) envs, o.AllTaken) :
    ∀ pre env post, envs = pre ++ env :: post →
      f.Republished
        (tick mockSource env (reach (step mockSource) (f.initial env₀ helper) pre)) := by
  intro pre env post henvs
  rw [henvs, outcomes_split] at ht
  exact f.republished_of_taken env₀ helper hclock henvs (allTaken_upto ht)

/-- Three processes on each of two devices, as `NewMock` configures them. -/
def defaultFleet : Fleet where
  numDevices := 2
  pidsPerDevice := 3
  firstPid := 100000
  devices_pos := by decide
  devices_le := by decide
  pids_pos := by decide
  first_pos := by decide
  fits := by decide
  pids_le := by decide

/-- Two ticks 0.1 s apart. -/
def steadyTicks : List (TickEnv MockEnv) :=
  [ { source := { devicesNow := 1750000000000000000, samplesNow := 1750000000000000001 }
      now := 1750000000000000002 },
    { source := { devicesNow := 1750000000100000000, samplesNow := 1750000000100000001 }
      now := 1750000000100000002 } ]

theorem fleet_republished_steadyTicks :
    defaultFleet.Republished (tick mockSource steadyTicks[1]
      (reach (step mockSource) (defaultFleet.initial { devicesNow := 0, samplesNow := 0 } 1)
        [steadyTicks[0]])) :=
  fleet_republished defaultFleet { devicesNow := 0, samplesNow := 0 } 1 steadyTicks
    (ClockAdvances.of_readings (by decide) (by decide)) (by decide +kernel) [steadyTicks[0]]
    steadyTicks[1] [] rfl

/-- Sixteen devices with 256 processes each, as many as the maps hold. -/
def fullFleet : Fleet where
  numDevices := 16
  pidsPerDevice := 256
  firstPid := 1
  devices_pos := by decide
  devices_le := by decide
  pids_pos := by decide
  first_pos := by decide
  fits := by decide
  pids_le := by decide

/-- The first tick of the full fleet fills `gpu_per_pid`.  The second rewrites its entries, for which a
full map has no free node: the kernel drops two of them before the last update, all updates succeed,
and a process is missing. -/
theorem fleet_loses_processes :
    let s₀ := fullFleet.initial { devicesNow := 0, samplesNow := 0 } 1
    let o₁ := evictingTick mockSource steadyTicks[0] noDrops s₀
    let o₂ := evictingTick mockSource steadyTicks[1] fullFleet.lateDrops o₁.state
    ClockAdvances steadyTicks ∧ o₁.AllTaken ∧ o₂.AllTaken ∧ fullFleet.Republished o₁ ∧
      o₁.state.objs.gpuPerPid.entries.length = maxEntries ∧ ¬ fullFleet.Republished o₂ := by
  have hclock : ClockAdvances steadyTicks := ClockAdvances.of_readings (by decide) (by decide)
  have hsize : fullFleet.size = maxEntries := by decide
  rw [← hsize]
  exact ⟨hclock, fullFleet.lateDrops_second_tick _ 1 hclock rfl rfl (by decide)⟩

end GpuEbpfBridge
