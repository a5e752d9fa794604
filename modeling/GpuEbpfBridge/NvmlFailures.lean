import GpuEbpfBridge.Merge

/-! # NVML failures and what is published

A getter of `Devices` that fails leaves its field at zero, whatever its code: only the codes
NOT_SUPPORTED and NOT_FOUND are meant to be tolerated so.  `hardCodes` collects the other codes
behind the fields of a device that no fallback for the field made good.  Neither `Devices` nor `ProcessSamples` ever returns an
error, so what they return is honest exactly when there are no such codes
(`failures_honest_iff`). -/

namespace GpuEbpfBridge

open Lib

variable {δ : Type}

/-! ### Chains of getters -/

section chains

variable {α β : Type}

/-- The value of the first getter that succeeds, in a chain of fallbacks. -/
def firstOk : List (α × Return) → Option α
  | [] => none
  | g :: chain => if g.2 = .success then some g.1 else firstOk chain

/-- The codes of a chain that are neither made good by a getter that succeeds nor tolerated. -/
def chainHardCodes (codes : List Return) : List Return :=
  if .success ∈ codes then [] else codes.filter (fun ret => isHard ret)

/-- A field read by a chain of getters: the value of the first one that succeeds, or zero if all of
them said that there is nothing to read. -/
structure FieldFrom (chain : List (α × Return)) (zero x : α) : Prop where
  value : ∀ v, firstOk chain = some v → x = v
  zero : firstOk chain = none →
    x = zero ∧ ∀ g ∈ chain, g.2 = .errorNotSupported ∨ g.2 = .errorNotFound

theorem firstOk_eq_none_iff {chain : List (α × Return)} :
    firstOk chain = none ↔ ∀ g ∈ chain, g.2 ≠ .success := by
  induction chain with
  | nil => simp [firstOk]
  | cons g chain ih =>
      unfold firstOk
      split_ifs with h
      · simp [h]
      · simp [h, ih]

theorem chainHardCodes_eq_nil_iff {codes : List Return} :
    chainHardCodes codes = [] ↔
      .success ∈ codes ∨ ∀ ret ∈ codes, ret = .errorNotSupported ∨ ret = .errorNotFound := by
  unfold chainHardCodes
  split_ifs with h
  · exact iff_of_true rfl (Or.inl h)
  · rw [or_iff_right h, List.filter_eq_nil_iff]
    refine forall₂_congr (fun ret hret => ?_)
    have hne : ret ≠ .success := fun he => h (he ▸ hret)
    rw [isHard_iff, and_iff_right hne, not_and_or, not_not, not_not]

theorem FieldFrom.of_soft (chain : List (α × Return))
    (h : chainHardCodes (chain.map Prod.snd) = []) (zero : α) :
    FieldFrom chain zero ((firstOk chain).getD zero) := by
  constructor
  · intro v hv
    rw [hv]
    rfl
  · intro hnone
    refine ⟨by rw [hnone]; rfl, fun g hg => ?_⟩
    have hfail := firstOk_eq_none_iff.mp hnone
    have hno : Return.success ∉ chain.map Prod.snd := by
      intro hm
      obtain ⟨g', hg', he⟩ := List.mem_map.mp hm
      exact hfail g' hg' he
    exact (chainHardCodes_eq_nil_iff.mp h).resolve_left hno g.2 (List.mem_map_of_mem hg)

theorem firstOk_single (f : α → β) (a : α × Return) :
    firstOk [(f a.1, a.2)] = (ok a).map f := by
  unfold ok
  simp only [firstOk, wrap_eq_none_iff]
  split_ifs
  · rfl
  · rfl

theorem firstOk_pair (f : α → β) (a b : α × Return) :
    firstOk [(f a.1, a.2), (f b.1, b.2)] = ((ok a).or (ok b)).map f := by
  by_cases ha : a.2 = .success
  · simp [firstOk, ok, wrap_eq_none_iff, ha]
  · by_cases hb : b.2 = .success
    · simp [firstOk, ok, wrap_eq_none_iff, ha, hb]
    · simp [firstOk, ok, wrap_eq_none_iff, ha, hb]

/-- A field with one getter. -/
theorem FieldFrom.single {a : α × Return} (h : chainHardCodes [a.2] = []) (f : α → β) (zero : β) :
    FieldFrom [(f a.1, a.2)] zero (((ok a).map f).getD zero) := by
  rw [← firstOk_single]
  exact FieldFrom.of_soft [(f a.1, a.2)] h zero

/-- A field with a getter and a fallback. -/
theorem FieldFrom.pair {a b : α × Return} (h : chainHardCodes [a.2, b.2] = []) (f : α → β)
    (zero : β) : FieldFrom [(f a.1, a.2), (f b.1, b.2)] zero ((((ok a).or (ok b)).map f).getD zero) := by
  rw [← firstOk_pair]
  exact FieldFrom.of_soft [(f a.1, a.2), (f b.1, b.2)] h zero

end chains

/-! ### The getters of `Devices` -/

/-- The codes behind the fields of a snapshot, each getter with its fallback.  `GetMemoryInfo` stands in
for the total and the used memory only: the reserved memory has no fallback. -/
def getterCodes (a : DeviceNvml) : List (List Return) :=
  [ [a.getUUID.2], [a.getName.2], [a.getUtilizationRates.2],
    [a.getMemoryInfoV2.2, a.getMemoryInfo.2], [a.getMemoryInfoV2.2],
    [a.getTemperatureGpu.2], [a.getPowerUsage.2], [a.getClockInfoSm.2], [a.getClockInfoMem.2],
    [a.getCurrentClocksEventReasons.2, a.getCurrentClocksThrottleReasons.2],
    [a.getPcieThroughputRx.2], [a.getPcieThroughputTx.2],
    [a.getEncoderUtilization.2], [a.getDecoderUtilization.2],
    [a.getTotalEccErrorsCorrected.2], [a.getTotalEccErrorsUncorrected.2],
    [a.getFanSpeed.2], [a.getComputeMode.2] ]

/-- The codes of a device that must not be taken for data. -/
def hardCodes (a : DeviceNvml) : List Return := (getterCodes a).flatMap chainHardCodes

/-- Every field of a snapshot is what NVML returned for it, or zero where NVML has nothing. -/
structure SnapshotFaithful (a : DeviceNvml) (d : DeviceSnapshot) : Prop where
  uuid : FieldFrom [a.getUUID] "" d.uuid
  name : FieldFrom [a.getName] "" d.name
  smUtilPct : FieldFrom [(a.getUtilizationRates.1.1, a.getUtilizationRates.2)] 0 d.smUtilPct
  memUtilPct : FieldFrom [(a.getUtilizationRates.1.2, a.getUtilizationRates.2)] 0 d.memUtilPct
  memTotal : FieldFrom [(a.getMemoryInfoV2.1.total, a.getMemoryInfoV2.2),
    (a.getMemoryInfo.1.total, a.getMemoryInfo.2)] 0 d.memTotal
  memUsed : FieldFrom [(a.getMemoryInfoV2.1.used, a.getMemoryInfoV2.2),
    (a.getMemoryInfo.1.used, a.getMemoryInfo.2)] 0 d.memUsed
  memReserved : FieldFrom [(a.getMemoryInfoV2.1.reserved, a.getMemoryInfoV2.2)] 0 d.memReserved
  tempC : FieldFrom [a.getTemperatureGpu] 0 d.tempC
  powerMw : FieldFrom [a.getPowerUsage] 0 d.powerMw
  smClockMhz : FieldFrom [a.getClockInfoSm] 0 d.smClockMhz
  memClockMhz : FieldFrom [a.getClockInfoMem] 0 d.memClockMhz
  throttleReasons : FieldFrom [a.getCurrentClocksEventReasons,
    a.getCurrentClocksThrottleReasons] 0 d.throttleReasons
  pcieRxKbps : FieldFrom [(a.getPcieThroughputRx.1.toUInt64, a.getPcieThroughputRx.2)] 0 d.pcieRxKbps
  pcieTxKbps : FieldFrom [(a.getPcieThroughputTx.1.toUInt64, a.getPcieThroughputTx.2)] 0 d.pcieTxKbps
  encUtilPct : FieldFrom [a.getEncoderUtilization] 0 d.encUtilPct
  decUtilPct : FieldFrom [a.getDecoderUtilization] 0 d.decUtilPct
  eccCorrectedTotal : FieldFrom [a.getTotalEccErrorsCorrected] 0 d.eccCorrectedTotal
  eccUncorrectedTotal : FieldFrom [a.getTotalEccErrorsUncorrected] 0 d.eccUncorrectedTotal
  fanSpeedPct : FieldFrom [a.getFanSpeed] 0 d.fanSpeedPct
  computeMode : FieldFrom [a.getComputeMode] 0 d.computeMode

/-- A snapshot of a device without hard codes. -/
theorem snapshot_faithful {a : DeviceNvml} (h : hardCodes a = []) (tsNs : UInt64) (idx : UInt32) :
    SnapshotFaithful a (snapshot tsNs idx a) := by
  unfold hardCodes getterCodes at h
  simp only [List.flatMap_cons, List.flatMap_nil, List.append_nil, List.append_eq_nil_iff] at h
  obtain ⟨h₁, h₂, h₃, h₄, h₅, h₆, h₇, h₈, h₉, h₁₀, h₁₁, h₁₂, h₁₃, h₁₄, h₁₅, h₁₆, h₁₇, h₁₈⟩ := h
  have hsingle {α : Type} {g : α × Return} (hg : chainHardCodes [g.2] = []) (zero : α) :
      FieldFrom [g] zero ((ok g).getD zero) := by
    have := FieldFrom.single hg id zero
    rwa [Option.map_id] at this
  have hthrottle := FieldFrom.pair h₁₀ id 0
  rw [Option.map_id] at hthrottle
  exact
    { uuid := hsingle h₁ ""
      name := hsingle h₂ ""
      smUtilPct := FieldFrom.single h₃ Prod.fst 0
      memUtilPct := FieldFrom.single h₃ Prod.snd 0
      memTotal := FieldFrom.pair h₄ (fun m => m.total) 0
      memUsed := FieldFrom.pair h₄ (fun m => m.used) 0
      memReserved := FieldFrom.single h₅ (fun m => m.reserved) 0
      tempC := hsingle h₆ 0
      powerMw := hsingle h₇ 0
      smClockMhz := hsingle h₈ 0
      memClockMhz := hsingle h₉ 0
      throttleReasons := hthrottle
      pcieRxKbps := FieldFrom.single h₁₁ UInt32.toUInt64 0
      pcieTxKbps := FieldFrom.single h₁₂ UInt32.toUInt64 0
      encUtilPct := hsingle h₁₃ 0
      decUtilPct := hsingle h₁₄ 0
      eccCorrectedTotal := hsingle h₁₅ 0
      eccUncorrectedTotal := hsingle h₁₆ 0
      fanSpeedPct := hsingle h₁₇ 0
      computeMode := hsingle h₁₈ 0 }

/-! ### The two methods -/

/-- An error that reports some codes: there is one, and it says that there is no NVML if
they all do. -/
def Reports (err : Option GoError) (codes : List Return) : Prop :=
  err ≠ none ∧ ((∀ ret ∈ codes, ret.unavailable) → NotAvailable err)

/-- The codes that a `Devices` call must not take for data. -/
def devicesHardCodes (env : NvmlEnv δ) (s : Session δ) : List Return :=
  s.real.handles.flatMap (fun h => hardCodes (env.device h))

/-- `Devices` takes no failure of NVML for data: what it reports is faithful, a hard code is
reported as an error, and without any there is a snapshot for each device and no error. -/
structure DevicesHonest (env : NvmlEnv δ) (s : Session δ) : Prop where
  faithful : ∀ d ∈ (s.devices env).1.1, ∀ h, handleAt s d.index = some h →
    SnapshotFaithful (env.device h) d
  failure : devicesHardCodes env s ≠ [] → Reports (s.devices env).1.2 (devicesHardCodes env s)
  success : devicesHardCodes env s = [] → (s.devices env).1.2 = none ∧
    (s.devices env).1.1.map (fun d => d.index) =
      s.real.handles.zipIdx.map (fun d => UInt32.ofNat d.2)

/-- The two codes that `ProcessSamples` gets about the device at a position of the handle list, if
they are hard. -/
def sampleHardCodes (env : NvmlEnv δ) (lastSeenNs : UInt64) (s : Session δ) (d : δ × ℕ) :
    List Return :=
  [(env.device d.1).getComputeRunningProcesses.2,
    (sessionCall env lastSeenNs s (UInt32.ofNat d.2) d.1).ret].filter (fun ret => isHard ret)

/-- The codes that a `ProcessSamples` call must not take for data. -/
def samplesHardCodes (env : NvmlEnv δ) (lastSeenNs : UInt64) (s : Session δ) : List Return :=
  s.real.handles.zipIdx.flatMap (sampleHardCodes env lastSeenNs s)

/-- `ProcessSamples` takes no failure of NVML for data: it reports no sample of a device one of
whose two calls failed hard, a hard code is reported as an error, and without any the samples are
those of NVML and there is no error. -/
structure SamplesHonest (env : NvmlEnv δ) (lastSeenNs : UInt64) (s : Session δ) : Prop where
  faithful : ∀ x ∈ (s.processSamples env lastSeenNs).1.1, ∀ h,
    handleAt s x.deviceIndex = some h →
      sampleHardCodes env lastSeenNs s (h, x.deviceIndex.toNat) = []
  failure : samplesHardCodes env lastSeenNs s ≠ [] →
    Reports (s.processSamples env lastSeenNs).1.2 (samplesHardCodes env lastSeenNs s)
  success : samplesHardCodes env lastSeenNs s = [] →
    (s.processSamples env lastSeenNs).1.2 = none ∧
      MergeExact env lastSeenNs s (s.processSamples env lastSeenNs).1.1

theorem devices_honest_iff (env : NvmlEnv δ) (s : Session δ) :
    DevicesHonest env s ↔ devicesHardCodes env s = [] := by
  constructor
  · intro h
    by_contra hne
    exact (h.failure hne).1 rfl
  · intro hnil
    have hsoft : ∀ h ∈ s.real.handles, hardCodes (env.device h) = [] :=
      List.flatMap_eq_nil_iff.mp hnil
    constructor
    case faithful =>
        intro d hd h hh
        obtain ⟨e, he, rfl⟩ := List.mem_map.mp hd
        obtain rfl : e.1 = h := Option.some.inj ((handleAt_of_mem he).2.symm.trans hh)
        exact snapshot_faithful (hsoft e.1 (List.mem_of_getElem? hh)) _ _
    case failure => exact fun hne => absurd hnil hne
    case success =>
        intro _
        refine ⟨rfl, ?_⟩
        unfold Session.devices
        rw [List.map_map]
        rfl

theorem samples_honest_iff (env : NvmlEnv δ) (lastSeenNs : UInt64) (s : Session δ) :
    SamplesHonest env lastSeenNs s ↔ samplesHardCodes env lastSeenNs s = [] := by
  constructor
  · intro h
    by_contra hne
    exact (h.failure hne).1 rfl
  · intro hnil
    have hsoft : ∀ d ∈ s.real.handles.zipIdx, sampleHardCodes env lastSeenNs s d = [] :=
      List.flatMap_eq_nil_iff.mp hnil
    constructor
    case faithful =>
        intro x _ h hh
        exact hsoft _ (mem_zipIdx_of_handleAt hh)
    case failure => exact fun hne => absurd hnil hne
    case success => exact fun _ => ⟨rfl, processSamples_mergeExact env lastSeenNs s⟩

/-- **When no failure of NVML is published as data.**  `Devices` is honest exactly when behind every
field of every device a getter or its fallback succeeds, or both fail with NOT_SUPPORTED or NOT_FOUND
only, and `ProcessSamples` exactly when neither of its two calls fails with another code for any
device.  For the reserved memory `GetMemoryInfo_v2` stands alone. -/
theorem failures_honest_iff (env : NvmlEnv δ) (lastSeenNs : UInt64) (s : Session δ) :
    (DevicesHonest env s ↔
      ∀ h ∈ s.real.handles, ∀ codes ∈ getterCodes (env.device h),
        .success ∈ codes ∨ ∀ ret ∈ codes, ret = .errorNotSupported ∨ ret = .errorNotFound) ∧
    (SamplesHonest env lastSeenNs s ↔
      ∀ d ∈ s.real.handles.zipIdx,
        isHard (env.device d.1).getComputeRunningProcesses.2 = false ∧
          isHard (sessionCall env lastSeenNs s (UInt32.ofNat d.2) d.1).ret = false) := by
  constructor
  · rw [devices_honest_iff]
    unfold devicesHardCodes hardCodes
    simp only [List.flatMap_eq_nil_iff, chainHardCodes_eq_nil_iff]
  · rw [samples_honest_iff]
    unfold samplesHardCodes sampleHardCodes
    simp only [List.flatMap_eq_nil_iff, List.filter_eq_nil_iff, List.forall_mem_cons,
      List.not_mem_nil, false_imp_iff, implies_true, and_true, Bool.not_eq_true]

/-- One device, and the driver is gone: every call says so. -/
def driverGone : NvmlEnv ℕ :=
  { deviceGetCount := (1, .success)
    deviceGetHandleByIndex := fun i => (i, .success)
    device := fun _ =>
      { getUUID := ("", .errorDriverNotLoaded)
        getName := ("", .errorDriverNotLoaded)
        getUtilizationRates := ((0, 0), .errorDriverNotLoaded)
        getMemoryInfoV2 := (⟨0, 0, 0⟩, .errorDriverNotLoaded)
        getMemoryInfo := (⟨0, 0, 0⟩, .errorDriverNotLoaded)
        getTemperatureGpu := (0, .errorDriverNotLoaded)
        getPowerUsage := (0, .errorDriverNotLoaded)
        getClockInfoSm := (0, .errorDriverNotLoaded)
        getClockInfoMem := (0, .errorDriverNotLoaded)
        getCurrentClocksEventReasons := (0, .errorDriverNotLoaded)
        getCurrentClocksThrottleReasons := (0, .errorDriverNotLoaded)
        getPcieThroughputRx := (0, .errorDriverNotLoaded)
        getPcieThroughputTx := (0, .errorDriverNotLoaded)
        getEncoderUtilization := (0, .errorDriverNotLoaded)
        getDecoderUtilization := (0, .errorDriverNotLoaded)
        getTotalEccErrorsCorrected := (0, .errorDriverNotLoaded)
        getTotalEccErrorsUncorrected := (0, .errorDriverNotLoaded)
        getFanSpeed := (0, .errorDriverNotLoaded)
        getComputeMode := (0, .errorDriverNotLoaded)
        getComputeRunningProcesses := ([], .errorDriverNotLoaded)
        getProcessUtilization := fun _ => ([], .errorDriverNotLoaded) }
    devicesNow := 8
    samplesNow := 9 }

/-- One device that samples process 7 and fails to list it. -/
def listFails : NvmlEnv ℕ :=
  { driverGone with
    device := fun _ =>
      { getComputeRunningProcesses := ([], .other 999)
        getProcessUtilization := fun _ => ([{ pid := 7, timeStamp := 4 }], .success) } }

/-- One device with 40 bytes of memory in use, of which `GetMemoryInfo_v2` fails to tell. -/
def reservedLost : NvmlEnv ℕ :=
  { driverGone with
    device := fun _ =>
      { getMemoryInfoV2 := (⟨0, 0, 0⟩, .other 999)
        getMemoryInfo := (⟨100, 40, 0⟩, .success) } }

/-- A device whose driver is gone is published with all fields zero, a fresh stamp and no error, one
whose reserved memory could not be read with none reserved and no error, and a process whose memory
could not be read without memory and no error. -/
theorem nvml_failure_published :
    let s : Session ℕ := { real := { handles := [0], handles_length := by decide } }
    (s.devices driverGone).1 = ([{ index := 0, timestampNs := 8 }], none) ∧
      ¬ DevicesHonest driverGone s ∧
      (s.devices reservedLost).1 =
        ([{ index := 0, timestampNs := 8, memTotal := 100, memUsed := 40 }], none) ∧
      ¬ DevicesHonest reservedLost s ∧
      (s.processSamples listFails 0).1 =
        ([{ pid := 7, deviceIndex := 0, timestampNs := 9 }], none) ∧
      ¬ SamplesHonest listFails 0 s := by
  intro s
  refine ⟨rfl, fun h => ?_, rfl, fun h => ?_, rfl, fun h => ?_⟩
  · exact (h.failure (List.cons_ne_nil _ _)).1 rfl
  · exact (h.failure (List.cons_ne_nil _ _)).1 rfl
  · exact (h.failure (List.cons_ne_nil _ _)).1 rfl

end GpuEbpfBridge
