import GpuEbpfBridge.TickSpec

/-! # Device indices in one byte

Samples and keys carry 32-bit device indices, the records one byte: `tick` keeps the low byte of
an index, collects low bytes in `devSet` and narrows the size of that set once more.  Nothing
bounds the indices before that, as `gpu_device` does for its own.  `narrowing_lossless_iff` says
for which samples the bytes still say what the fields are documented to say. -/

namespace GpuEbpfBridge

open Lib

variable {ε σ : Type}

/-- The bytes of the records that a tick writes, against the devices that the PID of the record was
sampled on. -/
structure NarrowingLossless (o : Outcome σ) : Prop where
  gpuDevice : ∀ pid dev v,
    .gpuPerPidPerDevice (perPidPerDeviceKey pid dev) v ∈ o.issued.map Prod.fst →
      v.gpuDevice.toNat = dev.toNat
  deviceCount : ∀ pid v, .gpuPerPid pid v ∈ o.issued.map Prod.fst →
    v.deviceCount.toNat = (pidDevices o.samples pid).card
  primary_multi : ∀ pid v, .gpuPerPid pid v ∈ o.issued.map Prod.fst →
    (v.gpuDevicePrimary = devicePrimaryMulti ↔ 1 < (pidDevices o.samples pid).card)
  primary_single : ∀ pid v, .gpuPerPid pid v ∈ o.issued.map Prod.fst →
    ∀ d, pidDevices o.samples pid = {d} → v.gpuDevicePrimary.toNat = d.toNat

/-- One byte is enough for the devices of a PID. -/
structure FitsByte (devices : Finset UInt32) : Prop where
  index_lt : ∀ d ∈ devices, d.toNat < 256
  /-- A count of 256 is narrowed to 0. -/
  card_ne : devices.card ≠ 256
  /-- The index 255 reads as the sentinel for several devices. -/
  ne_sentinel : devices ≠ {255}

theorem fitsByte_empty : FitsByte ∅ := by
  constructor
  · exact fun d hd => absurd hd (Finset.notMem_empty d)
  · rw [Finset.card_empty]
    omega
  · exact (Finset.singleton_ne_empty 255).symm

/-- The device byte of a detail record. -/
theorem toNat_gpuDevice (dev : UInt32) (l : List ProcessSample) :
    (detailRecord dev l).gpuDevice.toNat = dev.toNat % 256 := by
  have h : (UInt8.ofNat (dev.toNat % 256)).toNat = dev.toNat % 256 % 2 ^ 8 := UInt8.toNat_ofNat'
  rw [detailRecord, h]
  omega

section record

variable {samples : List ProcessSample} {pid : UInt32} {b : AggBuilder}

/-- The bytes of an aggregated record whose PID has devices that fit. -/
theorem PidAggregate.primary_of_fits (h : PidAggregate samples pid b)
    (hs : pidSamples samples pid ≠ []) (hfit : FitsByte (pidDevices samples pid)) :
    b.record.deviceCount.toNat = (pidDevices samples pid).card ∧
      (b.record.gpuDevicePrimary = devicePrimaryMulti ↔ 1 < (pidDevices samples pid).card) ∧
      ∀ d, pidDevices samples pid = {d} → b.record.gpuDevicePrimary.toNat = d.toNat := by
  have hcount : b.devCount.toNat = (pidDevices samples pid).card :=
    (h.devCount_eq_iff hs).mpr ⟨toUInt8_injOn hfit.index_lt, hfit.card_ne⟩
  obtain ⟨hone, hmulti⟩ := h.primary_of_devCount hcount
  have hsingle : ∀ d, pidDevices samples pid = {d} → b.record.gpuDevicePrimary.toNat = d.toNat := by
    intro d hd
    have hlt := hfit.index_lt d (hd ▸ Finset.mem_singleton_self d)
    rw [hone d hd, UInt32.toNat_toUInt8]
    omega
  refine ⟨hcount, ⟨fun hff => ?_, hmulti⟩, hsingle⟩
  by_contra hle
  have hpos := Finset.card_pos.mpr (pidDevices_nonempty.mpr hs)
  obtain ⟨d, hd⟩ := Finset.card_eq_one.mp (show (pidDevices samples pid).card = 1 by omega)
  have h255 : d = 255 := by
    have hbyte := hsingle d hd
    rw [hff] at hbyte
    exact UInt32.toNat_inj.mp hbyte.symm
  exact hfit.ne_sentinel (h255 ▸ hd)

/-- Conversely, where the indices are below 256 and the bytes are right, the devices fit. -/
theorem PidAggregate.fits_of_primary (h : PidAggregate samples pid b)
    (hs : pidSamples samples pid ≠ []) (hlt : ∀ d ∈ pidDevices samples pid, d.toNat < 256)
    (hcount : b.record.deviceCount.toNat = (pidDevices samples pid).card)
    (hmulti : b.record.gpuDevicePrimary = devicePrimaryMulti →
      1 < (pidDevices samples pid).card) : FitsByte (pidDevices samples pid) := by
  refine ⟨hlt, ((h.devCount_eq_iff hs).mp hcount).2, fun hd => ?_⟩
  have hff : b.record.gpuDevicePrimary = devicePrimaryMulti :=
    (h.primary_of_devCount hcount).1 255 hd
  have hcard := hmulti hff
  rw [hd, Finset.card_singleton] at hcard
  omega

end record

/-- **When one byte loses nothing.**  The records of a tick name their devices and count them right
exactly when, for each PID other than 0, the indices of the devices it was sampled on are below
256, they are not 256 many, and 255 is not the only one. -/
theorem narrowing_lossless_iff (S : Source ε σ) (env : TickEnv ε) (s : State σ) :
    NarrowingLossless (tick S env s) ↔
      ∀ pid, pid ≠ 0 → FitsByte (pidDevices (tick S env s).samples pid) := by
  constructor
  · intro h pid h0
    by_cases hs : pidSamples (tick S env s).samples pid = []
    · have hnil : pidDevices (tick S env s).samples pid = ∅ := by
        rw [← Finset.not_nonempty_iff_eq_empty, pidDevices_nonempty, not_not]
        exact hs
      rw [hnil]
      exact fitsByte_empty
    · have hlt : ∀ d ∈ pidDevices (tick S env s).samples pid, d.toNat < 256 := by
        intro d hd
        have hbyte := h.gpuDevice pid d _ (exists_detail_issued S env s h0 hd)
        rw [toNat_gpuDevice] at hbyte
        omega
      obtain ⟨v, hv⟩ := exists_mem_issued S env s h0 hs
      obtain ⟨-, -, b, -, rfl, hagg⟩ := sampled_of_mem_issued hv
      exact hagg.fits_of_primary hs hlt (h.deviceCount pid _ hv) (h.primary_multi pid _ hv).mp
  · intro h
    have hrecord : ∀ pid v, .gpuPerPid pid v ∈ (tick S env s).issued.map Prod.fst →
        v.deviceCount.toNat = (pidDevices (tick S env s).samples pid).card ∧
          (v.gpuDevicePrimary = devicePrimaryMulti ↔
            1 < (pidDevices (tick S env s).samples pid).card) ∧
          ∀ d, pidDevices (tick S env s).samples pid = {d} →
            v.gpuDevicePrimary.toNat = d.toNat := by
      intro pid v hv
      obtain ⟨h0, hs, b, -, rfl, hagg⟩ := sampled_of_mem_issued hv
      exact hagg.primary_of_fits hs (h pid h0)
    constructor
    case gpuDevice =>
        intro pid dev v hv
        obtain ⟨h0, hd, rfl⟩ := eq_detail_of_mem_issued hv
        have hlt := (h pid h0).index_lt dev hd
        rw [toNat_gpuDevice]
        omega
    case deviceCount => exact fun pid v hv => (hrecord pid v hv).1
    case primary_multi => exact fun pid v hv => (hrecord pid v hv).2.1
    case primary_single => exact fun pid v hv => (hrecord pid v hv).2.2

/-- A process on device 256, one on devices 1 and 257, and one on device 255. -/
def manyDeviceTick : TickEnv (List DeviceSnapshot × List ProcessSample) :=
  { source := ([],
      [{ pid := 7, deviceIndex := 256, timestampNs := 5 },
       { pid := 8, deviceIndex := 1, timestampNs := 5 },
       { pid := 8, deviceIndex := 257, timestampNs := 5 },
       { pid := 9, deviceIndex := 255, timestampNs := 5 }])
    now := 7 }

/-- The first is on record on device 0, the second as on device 1 alone, the third as on several
devices. -/
theorem narrowing_collides :
    let o := tick fakeNvml manyDeviceTick (State.initial () 1)
    ¬ NarrowingLossless o ∧
      (∃ v, .gpuPerPidPerDevice (perPidPerDeviceKey 7 256) v ∈ o.issued.map Prod.fst ∧
        v.gpuDevice = 0) ∧
      (∃ v, .gpuPerPid 8 v ∈ o.issued.map Prod.fst ∧ (pidDevices o.samples 8).card = 2 ∧
        v.deviceCount = 1 ∧ v.gpuDevicePrimary = 1) ∧
      ∃ v, .gpuPerPid 9 v ∈ o.issued.map Prod.fst ∧ pidDevices o.samples 9 = {255} ∧
        v.deviceCount = 1 ∧ v.gpuDevicePrimary = 0xFF := by
  intro o
  have hdetail : .gpuPerPidPerDevice (perPidPerDeviceKey 7 256)
      { timestampNs := 5, usedGpuMemory := 0, smUtilPct := 0, memUtilPct := 0, encUtilPct := 0
        decUtilPct := 0, gpuDevice := 0, migInstance := 0 } ∈ o.issued.map Prod.fst := by
    decide +kernel
  refine ⟨fun h => ?_, ⟨_, hdetail, rfl⟩, ?_, ?_⟩
  · exact absurd (h.gpuDevice 7 256 _ hdetail) (by decide)
  · exact ⟨{ timestampNs := 5, usedGpuMemoryTotal := 0, smUtilPctMax := 0, memUtilPctMax := 0
             gpuDevicePrimary := 1, deviceCount := 1 }, by decide +kernel, by decide +kernel,
      rfl, rfl⟩
  · exact ⟨{ timestampNs := 5, usedGpuMemoryTotal := 0, smUtilPctMax := 0, memUtilPctMax := 0
             gpuDevicePrimary := 0xFF, deviceCount := 1 }, by decide +kernel, by decide +kernel,
      rfl, rfl⟩

end GpuEbpfBridge
