import GpuEbpfBridge.PidMaps
import GpuEbpfBridge.RealSpec

/-! # Memory and utilization from NVML to `gpu_per_pid`

`Real.ProcessSamples` attaches the memory of a process to one of its samples on a device, and
`tick` takes maxima per device and sums over devices.  The two conventions fit: the greatest
memory over the samples of a (pid, device) is what NVML reported last for it (`peak_keyOut_used`),
so the published total counts each device once (`accounting`). -/

namespace GpuEbpfBridge

open Lib

variable {δ : Type}

/-! ### The answers for one PID -/

/-- The indices of the devices. -/
def deviceIndices (s : Session δ) : Finset UInt32 :=
  (Finset.range s.real.handles.length).image UInt32.ofNat

/-- `run(d)`: the memory NVML reported last for a PID on a device, if it reported any. -/
def deviceRun (env : NvmlEnv δ) (s : Session δ) (pid dev : UInt32) : Option UInt64 :=
  (handleAt s dev).bind (fun h => reported (env.device h) pid)

/-- The utilization samples of a PID that NVML returns for a device. -/
def deviceUtil (env : NvmlEnv δ) (lastSeenNs : UInt64) (s : Session δ) (pid dev : UInt32) :
    List UtilSample :=
  match handleAt s dev with
  | some h => (sessionCall env lastSeenNs s dev h).samples.filter (fun x => x.pid = pid)
  | none => []

/-- The device lists the PID as running or has a utilization sample for it. -/
def usesDevice (env : NvmlEnv δ) (lastSeenNs : UInt64) (s : Session δ) (pid dev : UInt32) : Prop :=
  (deviceRun env s pid dev).isSome ∨ deviceUtil env lastSeenNs s pid dev ≠ []

instance (env : NvmlEnv δ) (lastSeenNs : UInt64) (s : Session δ) (pid dev : UInt32) :
    Decidable (usesDevice env lastSeenNs s pid dev) := inferInstanceAs (Decidable (_ ∨ _))

/-- `GetProcessUtilization` succeeds or fails softly for every device. -/
def NoHardFailure (env : NvmlEnv δ) (lastSeenNs : UInt64) (s : Session δ) : Prop :=
  ∀ dev h, handleAt s dev = some h → isHard (sessionCall env lastSeenNs s dev h).ret = false

theorem mem_deviceIndices {s : Session δ} {dev : UInt32} :
    dev ∈ deviceIndices s ↔ (handleAt s dev).isSome := by
  unfold deviceIndices handleAt
  rw [Finset.mem_image, Option.isSome_iff_ne_none, ne_eq, List.getElem?_eq_none_iff, not_le]
  constructor
  · rintro ⟨i, hi, rfl⟩
    have hlt := Finset.mem_range.mp hi
    rwa [UInt32.toNat_ofNat', Nat.mod_eq_of_lt (lt_trans hlt s.real.handles_length)]
  · intro h
    exact ⟨dev.toNat, Finset.mem_range.mpr h, UInt32.ofNat_toNat⟩

theorem usesDevice_mem {env : NvmlEnv δ} {lastSeenNs : UInt64} {s : Session δ} {pid dev : UInt32}
    (h : usesDevice env lastSeenNs s pid dev) : dev ∈ deviceIndices s := by
  rw [mem_deviceIndices]
  unfold usesDevice deviceRun deviceUtil at h
  cases hh : handleAt s dev with
  | none =>
      rw [hh] at h
      simp at h
  | some d => rfl

/-! ### The samples of one (PID, device) -/

/-- The samples returned for a (PID, device), when no call fails hard. -/
theorem keySamples_of_soft {env : NvmlEnv δ} {lastSeenNs : UInt64} {s : Session δ}
    (hsoft : NoHardFailure env lastSeenNs s) (pid dev : UInt32) :
    keySamples (s.processSamples env lastSeenNs).1.1 pid dev =
      keyOut (unixNano env.samplesNow) dev pid (deviceRun env s pid dev)
        (deviceUtil env lastSeenNs s pid dev) := by
  rw [keySamples_processSamples]
  unfold deviceRun deviceUtil
  cases hh : handleAt s dev with
  | none => rfl
  | some h =>
      simp only [hsoft dev h hh]
      rfl

theorem keyOut_ne_nil {tsNs : UInt64} {dev pid : UInt32} {mem : Option UInt64}
    {l : List UtilSample} : keyOut tsNs dev pid mem l ≠ [] ↔ mem.isSome ∨ l ≠ [] := by
  cases l with
  | nil => cases mem <;> simp [keyOut]
  | cons x l => simp [keyOut]

theorem peak_map_utilOut {β : Type} [LinearOrder β] [OrderBot β] (f : ProcessSample → β)
    (tsNs : UInt64) (dev : UInt32) (used : UInt64) (l : List UtilSample) :
    peak f (l.map (utilOut tsNs dev used)) =
      l.toFinset.sup (fun x => f (utilOut tsNs dev used x)) := by
  induction l with
  | nil => rfl
  | cons x l ih => rw [List.map_cons, peak_cons, ih, List.toFinset_cons, Finset.sup_insert]

/-- A field that does not depend on the memory, and that a memory-only sample leaves at zero. -/
theorem peak_keyOut {β : Type} [LinearOrder β] [OrderBot β] {f : ProcessSample → β}
    {g : UtilSample → β} {tsNs : UInt64} {dev pid : UInt32}
    (hutil : ∀ used x, f (utilOut tsNs dev used x) = g x)
    (hidle : ∀ used, f (idleOut tsNs dev pid used) = ⊥) (mem : Option UInt64)
    (l : List UtilSample) : peak f (keyOut tsNs dev pid mem l) = l.toFinset.sup g := by
  cases l with
  | nil =>
      cases mem with
      | none => rfl
      | some u => simp [keyOut, peak, hidle]
  | cons x l =>
      rw [keyOut, peak_cons, peak_map_utilOut, hutil, List.toFinset_cons, Finset.sup_insert,
        Finset.sup_congr rfl (fun x _ => hutil 0 x)]

/-- The memory of a (PID, device): one sample carries what was reported, the others zero. -/
theorem peak_keyOut_used (tsNs : UInt64) (dev pid : UInt32) (mem : Option UInt64)
    (l : List UtilSample) :
    peak (fun s => s.usedGpuMemory) (keyOut tsNs dev pid mem l) = mem.getD 0 := by
  cases l with
  | nil =>
      cases mem with
      | none => rfl
      | some u => simp [keyOut, peak, idleOut]
  | cons x l =>
      have hzero : l.toFinset.sup (fun x => (utilOut tsNs dev 0 x).usedGpuMemory) = ⊥ :=
        Finset.sup_bot _
      rw [keyOut, peak_cons, peak_map_utilOut, hzero]
      exact max_eq_left bot_le

/-! ### The record of a PID -/

section accounting

variable {env : TickEnv (NvmlEnv δ)} {s : State (Session δ)}

/-- The bound the poller passes to `ProcessSamples`. -/
def tickBound (env : TickEnv (NvmlEnv δ)) (s : State (Session δ)) : UInt64 :=
  minLastSeen env.lastSeenOrder s.lastSeenPerDevice

theorem tick_keySamples (hsoft : NoHardFailure env.source (tickBound env s) s.source)
    (pid dev : UInt32) :
    keySamples (tick (realSource δ) env s).samples pid dev =
      keyOut (unixNano env.source.samplesNow) dev pid (deviceRun env.source s.source pid dev)
        (deviceUtil env.source (tickBound env s) s.source pid dev) := by
  rw [(tick_real env s).1]
  exact keySamples_of_soft hsoft pid dev

/-- The devices a PID was sampled on are those that use it. -/
theorem tick_pidDevices (hsoft : NoHardFailure env.source (tickBound env s) s.source)
    (pid : UInt32) :
    pidDevices (tick (realSource δ) env s).samples pid =
      (deviceIndices s.source).filter
        (usesDevice env.source (tickBound env s) s.source pid) := by
  ext dev
  rw [mem_pidDevices, tick_keySamples hsoft, keyOut_ne_nil, Finset.mem_filter]
  exact ⟨fun h => ⟨usesDevice_mem h, h⟩, fun h => h.2⟩

/-- The memory total of a PID: the sum over all devices of what NVML reported last. -/
theorem tick_pidTotal (hsoft : NoHardFailure env.source (tickBound env s) s.source)
    (pid : UInt32) :
    pidTotal (tick (realSource δ) env s).samples pid =
      ∑ d ∈ deviceIndices s.source, ((deviceRun env.source s.source pid d).getD 0).toNat := by
  unfold pidTotal
  rw [tick_pidDevices hsoft, Finset.sum_filter_of_ne]
  · refine Finset.sum_congr rfl (fun d _ => ?_)
    rw [tick_keySamples hsoft, peak_keyOut_used]
  · intro d _ hne
    rw [tick_keySamples hsoft, peak_keyOut_used] at hne
    refine Or.inl (Option.isSome_iff_ne_none.mpr (fun hnone => hne ?_))
    rw [hnone]
    rfl

/-- The peak of a utilization field of a PID: the greatest value over all devices. -/
theorem tick_peak (hsoft : NoHardFailure env.source (tickBound env s) s.source) (pid : UInt32)
    {f : ProcessSample → UInt32} {g : UtilSample → UInt32}
    (hutil : ∀ tsNs dev used x, f (utilOut tsNs dev used x) = g x)
    (hidle : ∀ tsNs dev used, f (idleOut tsNs dev pid used) = 0) :
    peak f (pidSamples (tick (realSource δ) env s).samples pid) =
      (deviceIndices s.source).sup (fun d =>
        (deviceUtil env.source (tickBound env s) s.source pid d).toFinset.sup g) := by
  have hkey : ∀ d, peak f (keySamples (tick (realSource δ) env s).samples pid d) =
      (deviceUtil env.source (tickBound env s) s.source pid d).toFinset.sup g := by
    intro d
    rw [tick_keySamples hsoft]
    exact peak_keyOut (hutil _ _) (hidle _ _) _ _
  rw [peak_pidSamples, tick_pidDevices hsoft]
  simp only [hkey]
  apply le_antisymm
  · exact Finset.sup_mono (Finset.filter_subset _ _)
  · refine Finset.sup_le (fun d hd => ?_)
    by_cases hu : usesDevice env.source (tickBound env s) s.source pid d
    · exact Finset.le_sup (f := fun d =>
        (deviceUtil env.source (tickBound env s) s.source pid d).toFinset.sup g)
        (Finset.mem_filter.mpr ⟨hd, hu⟩)
    · unfold usesDevice at hu
      rw [not_or, not_not] at hu
      rw [hu.2]
      exact bot_le

/-- **End-to-end accounting.**  In a tick over at most 16 devices, none of whose
`GetProcessUtilization` calls fails hard, a PID other than 0 whose memory adds up to less than
2^64 is written to `gpu_per_pid` exactly when some device lists or samples it.  The record
counts the memory last reported by each device once, has the maxima of the utilization samples,
and the number of devices that list or sample the PID.  If all updates succeed and no LRU eviction
takes place, it stands in the map after the tick. -/
theorem accounting (env : TickEnv (NvmlEnv δ)) (s : State (Session δ))
    (hD : s.source.real.handles.length ≤ maxDevices)
    (hsoft : NoHardFailure env.source (tickBound env s) s.source) (pid : UInt32) (h0 : pid ≠ 0)
    (hsum : ∑ d ∈ deviceIndices s.source,
      ((deviceRun env.source s.source pid d).getD 0).toNat < 2 ^ 64) :
    let o := tick (realSource δ) env s
    let uses := usesDevice env.source (tickBound env s) s.source pid
    let util := deviceUtil env.source (tickBound env s) s.source pid
    ((∃ v, .gpuPerPid pid v ∈ o.issued.map Prod.fst) ↔ ∃ d ∈ deviceIndices s.source, uses d) ∧
      ∀ v, .gpuPerPid pid v ∈ o.issued.map Prod.fst →
        v.usedGpuMemoryTotal.toNat = ∑ d ∈ deviceIndices s.source,
          ((deviceRun env.source s.source pid d).getD 0).toNat ∧
        v.smUtilPctMax = (deviceIndices s.source).sup
          (fun d => (util d).toFinset.sup (fun x => x.smUtil)) ∧
        v.memUtilPctMax = (deviceIndices s.source).sup
          (fun d => (util d).toFinset.sup (fun x => x.memUtil)) ∧
        v.deviceCount.toNat = ((deviceIndices s.source).filter uses).card ∧
        (o.AllTaken → o.state.objs.gpuPerPid.lookup pid = some v) := by
  intro o uses util
  have hdevs : pidDevices o.samples pid = (deviceIndices s.source).filter uses :=
    tick_pidDevices hsoft pid
  have hsampled : pidSamples o.samples pid ≠ [] ↔ ∃ d ∈ deviceIndices s.source, uses d := by
    rw [← pidDevices_nonempty, hdevs]
    constructor
    · rintro ⟨d, hd⟩
      exact ⟨d, Finset.mem_filter.mp hd⟩
    · rintro ⟨d, hd⟩
      exact ⟨d, Finset.mem_filter.mpr hd⟩
  constructor
  · rw [← hsampled]
    constructor
    · rintro ⟨v, hv⟩
      exact (sampled_of_mem_issued hv).2.1
    · exact exists_mem_issued _ env s h0
  · intro v hv
    obtain ⟨-, hs, b, hb, rfl, hagg⟩ := sampled_of_mem_issued hv
    have hlt : ∀ d ∈ pidDevices o.samples pid, d.toNat < maxDevices := by
      intro d hd
      rw [hdevs] at hd
      obtain ⟨i, hi, rfl⟩ := Finset.mem_image.mp (Finset.mem_filter.mp hd).1
      have := Finset.mem_range.mp hi
      rw [UInt32.toNat_ofNat']
      omega
    refine ⟨?_, ?_, ?_, ?_, ?_⟩
    · have htotal : b.record.usedGpuMemoryTotal.toNat = pidTotal o.samples pid % 2 ^ 64 :=
        hagg.usedTotal
      rw [htotal, tick_pidTotal hsoft, Nat.mod_eq_of_lt hsum]
    · exact hagg.smMax.trans
        (tick_peak hsoft pid (fun _ _ _ _ => rfl) (fun _ _ _ => rfl))
    · exact hagg.memMax.trans
        (tick_peak hsoft pid (fun _ _ _ _ => rfl) (fun _ _ _ => rfl))
    · rw [← hdevs]
      exact hagg.devCount_eq hs hlt
    · intro ht
      rw [tick_lookup_aggregate _ env s ht, hb]
      rfl

end accounting

/-- Two devices.  The first reports process 7 twice and samples it twice, the second lists it and
has no sample. -/
def twoDeviceTick : TickEnv (NvmlEnv ℕ) :=
  { source :=
      { deviceGetCount := (2, .success)
        deviceGetHandleByIndex := fun i => (i, .success)
        device := fun i =>
          { getComputeRunningProcesses :=
              ([[⟨7, 100⟩, ⟨7, 150⟩], [⟨7, 60⟩]].getD i [], .success)
            getProcessUtilization := fun _ =>
              ([[{ pid := 7, timeStamp := 4, smUtil := 30 }, { pid := 7, timeStamp := 5, smUtil := 20 }],
                []].getD i [], .success) }
        devicesNow := 8
        samplesNow := 9 }
    now := 10 }

theorem accounting_twoDeviceTick :
    let s : State (Session ℕ) := State.initial { real := { handles := [0, 1] } } 1
    ∃ v, .gpuPerPid 7 v ∈ (tick (realSource ℕ) twoDeviceTick s).issued.map Prod.fst ∧
      v.usedGpuMemoryTotal.toNat = 210 ∧ v.smUtilPctMax = 30 ∧ v.deviceCount.toNat = 2 := by
  intro s
  obtain ⟨hiff, hrec⟩ := accounting twoDeviceTick s (by decide) (fun _ _ _ => rfl) 7 (by decide)
    (by decide +kernel)
  obtain ⟨v, hv⟩ := hiff.mpr (by decide +kernel)
  obtain ⟨htotal, hsm, -, hcount, -⟩ := hrec v hv
  refine ⟨v, hv, htotal.trans (by decide +kernel), hsm.trans (by decide +kernel),
    hcount.trans (by decide +kernel)⟩

end GpuEbpfBridge
