import GpuEbpfBridge.Lib.Layout
import GpuEbpfBridge.Maps

/-! # The records in memory (`include/gpu_types.h`, `internal/maps/gputypes_*_bpfel.go`)

Each record has two declarations: the C struct of `gpu_types.h`, which consumers compile against, and
the Go struct that `bpf2go` made of it, in which the bridge writes and `--dump` reads.  A `Format` holds
both and the correspondence with the record of the model, padding included.  The Go struct spells out
the padding at the end, and both targets of `bpf2go` have the same struct.

`Format.Faithful` says that the two sides understand each other; `records_faithful` that they do, for
every value of the four records. -/

namespace GpuEbpfBridge

open Lib Layout

/-! ### Declarations -/

/-- An integer of 1, 2, 4 or 8 bytes, aligned to its width. -/
def scalar {κ : Type} (name : κ) (width : ℕ) : Member κ := ⟨name, width, width⟩

/-- `[width]byte`. -/
def byteArray {κ : Type} (name : κ) (width : ℕ) : Member κ := ⟨name, width, 1⟩

instance Layout.decidableWellFormed {κ : Type} [DecidableEq κ] (fs : List (Member κ)) :
    Decidable (WellFormed fs) :=
  decidable_of_iff ((fs.map Member.name).Nodup ∧ ∀ f ∈ fs, 0 < f.align)
    ⟨fun h => ⟨h.1, h.2⟩, fun h => ⟨h.nodup, h.align_pos⟩⟩

/-- A record `ρ` with fields `κ`: its two declarations and its values, field by field. -/
structure Format (ρ κ : Type) [DecidableEq κ] where
  header : List (Member κ)
  bindings : List (Member κ)
  get : ρ → κ → ℕ
  make : (κ → ℕ) → ρ
  header_wf : WellFormed header
  bindings_wf : WellFormed bindings
  same_places : ∀ p ∈ place 0 header, p ∈ place 0 bindings
  same_size : size header = size bindings
  fits : ∀ r, ∀ f ∈ bindings, get r f.name < 256 ^ f.width
  make_get : ∀ r g, (∀ f ∈ header, g f.name = get r f.name) → make g = r

/-- The fields of `struct gpu_meta`. -/
inductive MetaField where
  | schemaVersion | nDevices | lastUpdateNs | helperPid | reserved
deriving DecidableEq

/-- The fields of `struct gpu_device_metrics`. -/
inductive DeviceField where
  | timestampNs | smUtilPct | memUtilPct | memTotal | memUsed | memReserved | tempC | powerMw
  | smClockMhz | memClockMhz | throttleReasons | pcieTxKbps | pcieRxKbps | encUtilPct
  | decUtilPct | nvlinkTxKbps | nvlinkRxKbps | eccCorrectedTotal | eccUncorrectedTotal
  | fanSpeedPct | computeMode
deriving DecidableEq

/-- The fields of `struct gpu_pid_metrics`, and the padding at its end. -/
inductive PidField where
  | timestampNs | usedGpuMemory | smUtilPct | memUtilPct | encUtilPct | decUtilPct | gpuDevice
  | migInstance | pad | tail
deriving DecidableEq

/-- The fields of `struct gpu_pid_metrics_aggregated`, and the padding at its end. -/
inductive AggregatedField where
  | timestampNs | usedGpuMemoryTotal | smUtilPctMax | memUtilPctMax | gpuDevicePrimary
  | deviceCount | pad | tail
deriving DecidableEq

/-- `struct gpu_meta`. -/
def metaHeader : List (Member MetaField) :=
  [ scalar .schemaVersion 4, scalar .nDevices 4, scalar .lastUpdateNs 8, scalar .helperPid 4,
    scalar .reserved 4 ]

/-- `gputypesGpuMeta`. -/
def metaBindings : List (Member MetaField) :=
  [ scalar .schemaVersion 4, scalar .nDevices 4, scalar .lastUpdateNs 8, scalar .helperPid 4,
    scalar .reserved 4 ]

/-- The value of a field; padding is zero. -/
def Meta.get (r : Meta) : MetaField → ℕ
  | .schemaVersion => r.schemaVersion.toNat
  | .nDevices => r.nDevices.toNat
  | .lastUpdateNs => r.lastUpdateNs.toNat
  | .helperPid => r.helperPid.toNat
  | .reserved => 0

/-- The record with some values in its fields. -/
def Meta.make (g : MetaField → ℕ) : Meta where
  schemaVersion := UInt32.ofNat (g .schemaVersion)
  nDevices := UInt32.ofNat (g .nDevices)
  lastUpdateNs := UInt64.ofNat (g .lastUpdateNs)
  helperPid := UInt32.ofNat (g .helperPid)

/-- `struct gpu_device_metrics`. -/
def deviceHeader : List (Member DeviceField) :=
  [ scalar .timestampNs 8, scalar .smUtilPct 4, scalar .memUtilPct 4, scalar .memTotal 8,
    scalar .memUsed 8, scalar .memReserved 8, scalar .tempC 4, scalar .powerMw 4,
    scalar .smClockMhz 4, scalar .memClockMhz 4, scalar .throttleReasons 8, scalar .pcieTxKbps 8,
    scalar .pcieRxKbps 8, scalar .encUtilPct 4, scalar .decUtilPct 4, scalar .nvlinkTxKbps 8,
    scalar .nvlinkRxKbps 8, scalar .eccCorrectedTotal 8, scalar .eccUncorrectedTotal 8,
    scalar .fanSpeedPct 4, scalar .computeMode 4 ]

/-- `gputypesGpuDeviceMetrics`. -/
def deviceBindings : List (Member DeviceField) :=
  [ scalar .timestampNs 8, scalar .smUtilPct 4, scalar .memUtilPct 4, scalar .memTotal 8,
    scalar .memUsed 8, scalar .memReserved 8, scalar .tempC 4, scalar .powerMw 4,
    scalar .smClockMhz 4, scalar .memClockMhz 4, scalar .throttleReasons 8, scalar .pcieTxKbps 8,
    scalar .pcieRxKbps 8, scalar .encUtilPct 4, scalar .decUtilPct 4, scalar .nvlinkTxKbps 8,
    scalar .nvlinkRxKbps 8, scalar .eccCorrectedTotal 8, scalar .eccUncorrectedTotal 8,
    scalar .fanSpeedPct 4, scalar .computeMode 4 ]

/-- The value of a field; padding is zero. -/
def DeviceMetrics.get (r : DeviceMetrics) : DeviceField → ℕ
  | .timestampNs => r.timestampNs.toNat
  | .smUtilPct => r.smUtilPct.toNat
  | .memUtilPct => r.memUtilPct.toNat
  | .memTotal => r.memTotal.toNat
  | .memUsed => r.memUsed.toNat
  | .memReserved => r.memReserved.toNat
  | .tempC => r.tempC.toNat
  | .powerMw => r.powerMw.toNat
  | .smClockMhz => r.smClockMhz.toNat
  | .memClockMhz => r.memClockMhz.toNat
  | .throttleReasons => r.throttleReasons.toNat
  | .pcieTxKbps => r.pcieTxKbps.toNat
  | .pcieRxKbps => r.pcieRxKbps.toNat
  | .encUtilPct => r.encUtilPct.toNat
  | .decUtilPct => r.decUtilPct.toNat
  | .nvlinkTxKbps => r.nvlinkTxKbps.toNat
  | .nvlinkRxKbps => r.nvlinkRxKbps.toNat
  | .eccCorrectedTotal => r.eccCorrectedTotal.toNat
  | .eccUncorrectedTotal => r.eccUncorrectedTotal.toNat
  | .fanSpeedPct => r.fanSpeedPct.toNat
  | .computeMode => r.computeMode.toNat

/-- The record with some values in its fields. -/
def DeviceMetrics.make (g : DeviceField → ℕ) : DeviceMetrics where
  timestampNs := UInt64.ofNat (g .timestampNs)
  smUtilPct := UInt32.ofNat (g .smUtilPct)
  memUtilPct := UInt32.ofNat (g .memUtilPct)
  memTotal := UInt64.ofNat (g .memTotal)
  memUsed := UInt64.ofNat (g .memUsed)
  memReserved := UInt64.ofNat (g .memReserved)
  tempC := UInt32.ofNat (g .tempC)
  powerMw := UInt32.ofNat (g .powerMw)
  smClockMhz := UInt32.ofNat (g .smClockMhz)
  memClockMhz := UInt32.ofNat (g .memClockMhz)
  throttleReasons := UInt64.ofNat (g .throttleReasons)
  pcieTxKbps := UInt64.ofNat (g .pcieTxKbps)
  pcieRxKbps := UInt64.ofNat (g .pcieRxKbps)
  encUtilPct := UInt32.ofNat (g .encUtilPct)
  decUtilPct := UInt32.ofNat (g .decUtilPct)
  nvlinkTxKbps := UInt64.ofNat (g .nvlinkTxKbps)
  nvlinkRxKbps := UInt64.ofNat (g .nvlinkRxKbps)
  eccCorrectedTotal := UInt64.ofNat (g .eccCorrectedTotal)
  eccUncorrectedTotal := UInt64.ofNat (g .eccUncorrectedTotal)
  fanSpeedPct := UInt32.ofNat (g .fanSpeedPct)
  computeMode := UInt32.ofNat (g .computeMode)

/-- `struct gpu_pid_metrics`. -/
def pidHeader : List (Member PidField) :=
  [ scalar .timestampNs 8, scalar .usedGpuMemory 8, scalar .smUtilPct 4, scalar .memUtilPct 4,
    scalar .encUtilPct 4, scalar .decUtilPct 4, scalar .gpuDevice 1, scalar .migInstance 1,
    scalar .pad 2 ]

/-- `gputypesGpuPidMetrics`. -/
def pidBindings : List (Member PidField) :=
  [ scalar .timestampNs 8, scalar .usedGpuMemory 8, scalar .smUtilPct 4, scalar .memUtilPct 4,
    scalar .encUtilPct 4, scalar .decUtilPct 4, scalar .gpuDevice 1, scalar .migInstance 1,
    scalar .pad 2, byteArray .tail 4 ]

/-- The value of a field; padding is zero. -/
def PidMetrics.get (r : PidMetrics) : PidField → ℕ
  | .timestampNs => r.timestampNs.toNat
  | .usedGpuMemory => r.usedGpuMemory.toNat
  | .smUtilPct => r.smUtilPct.toNat
  | .memUtilPct => r.memUtilPct.toNat
  | .encUtilPct => r.encUtilPct.toNat
  | .decUtilPct => r.decUtilPct.toNat
  | .gpuDevice => r.gpuDevice.toNat
  | .migInstance => r.migInstance.toNat
  | .pad => 0
  | .tail => 0

/-- The record with some values in its fields. -/
def PidMetrics.make (g : PidField → ℕ) : PidMetrics where
  timestampNs := UInt64.ofNat (g .timestampNs)
  usedGpuMemory := UInt64.ofNat (g .usedGpuMemory)
  smUtilPct := UInt32.ofNat (g .smUtilPct)
  memUtilPct := UInt32.ofNat (g .memUtilPct)
  encUtilPct := UInt32.ofNat (g .encUtilPct)
  decUtilPct := UInt32.ofNat (g .decUtilPct)
  gpuDevice := UInt8.ofNat (g .gpuDevice)
  migInstance := UInt8.ofNat (g .migInstance)

/-- `struct gpu_pid_metrics_aggregated`. -/
def aggregatedHeader : List (Member AggregatedField) :=
  [ scalar .timestampNs 8, scalar .usedGpuMemoryTotal 8, scalar .smUtilPctMax 4,
    scalar .memUtilPctMax 4, scalar .gpuDevicePrimary 1, scalar .deviceCount 1, scalar .pad 2 ]

/-- `gputypesGpuPidMetricsAggregated`. -/
def aggregatedBindings : List (Member AggregatedField) :=
  [ scalar .timestampNs 8, scalar .usedGpuMemoryTotal 8, scalar .smUtilPctMax 4,
    scalar .memUtilPctMax 4, scalar .gpuDevicePrimary 1, scalar .deviceCount 1, scalar .pad 2,
    byteArray .tail 4 ]

/-- The value of a field; padding is zero. -/
def PidMetricsAggregated.get (r : PidMetricsAggregated) : AggregatedField → ℕ
  | .timestampNs => r.timestampNs.toNat
  | .usedGpuMemoryTotal => r.usedGpuMemoryTotal.toNat
  | .smUtilPctMax => r.smUtilPctMax.toNat
  | .memUtilPctMax => r.memUtilPctMax.toNat
  | .gpuDevicePrimary => r.gpuDevicePrimary.toNat
  | .deviceCount => r.deviceCount.toNat
  | .pad => 0
  | .tail => 0

/-- The record with some values in its fields. -/
def PidMetricsAggregated.make (g : AggregatedField → ℕ) : PidMetricsAggregated where
  timestampNs := UInt64.ofNat (g .timestampNs)
  usedGpuMemoryTotal := UInt64.ofNat (g .usedGpuMemoryTotal)
  smUtilPctMax := UInt32.ofNat (g .smUtilPctMax)
  memUtilPctMax := UInt32.ofNat (g .memUtilPctMax)
  gpuDevicePrimary := UInt8.ofNat (g .gpuDevicePrimary)
  deviceCount := UInt8.ofNat (g .deviceCount)

/-! ### The four formats -/

theorem toNat_lt_one (x : UInt8) : x.toNat < 256 := x.toNat_lt

theorem toNat_lt_four (x : UInt32) : x.toNat < 4294967296 := x.toNat_lt

theorem toNat_lt_eight (x : UInt64) : x.toNat < 18446744073709551616 := x.toNat_lt

def metaFormat : Format Meta MetaField where
  header := metaHeader
  bindings := metaBindings
  get := Meta.get
  make := Meta.make
  header_wf := by decide
  bindings_wf := by decide
  same_places := by decide
  same_size := by decide
  fits := by
    intro r
    simp [metaBindings, scalar, Meta.get, toNat_lt_four, toNat_lt_eight]
  make_get := by
    intro r g h
    simp only [metaHeader, scalar, List.forall_mem_cons, Meta.get] at h
    simp only [Meta.make, h, UInt32.ofNat_toNat, UInt64.ofNat_toNat]

def deviceFormat : Format DeviceMetrics DeviceField where
  header := deviceHeader
  bindings := deviceBindings
  get := DeviceMetrics.get
  make := DeviceMetrics.make
  header_wf := by decide
  bindings_wf := by decide
  same_places := by decide
  same_size := by decide
  fits := by
    intro r
    simp [deviceBindings, scalar, DeviceMetrics.get, toNat_lt_four, toNat_lt_eight]
  make_get := by
    intro r g h
    simp only [deviceHeader, scalar, List.forall_mem_cons, DeviceMetrics.get] at h
    simp only [DeviceMetrics.make, h, UInt32.ofNat_toNat, UInt64.ofNat_toNat]

def pidFormat : Format PidMetrics PidField where
  header := pidHeader
  bindings := pidBindings
  get := PidMetrics.get
  make := PidMetrics.make
  header_wf := by decide
  bindings_wf := by decide
  same_places := by decide
  same_size := by decide
  fits := by
    intro r
    simp [pidBindings, scalar, byteArray, PidMetrics.get, toNat_lt_one, toNat_lt_four, toNat_lt_eight]
  make_get := by
    intro r g h
    simp only [pidHeader, scalar, List.forall_mem_cons, PidMetrics.get] at h
    simp only [PidMetrics.make, h, UInt8.ofNat_toNat, UInt32.ofNat_toNat, UInt64.ofNat_toNat]

def aggregatedFormat : Format PidMetricsAggregated AggregatedField where
  header := aggregatedHeader
  bindings := aggregatedBindings
  get := PidMetricsAggregated.get
  make := PidMetricsAggregated.make
  header_wf := by decide
  bindings_wf := by decide
  same_places := by decide
  same_size := by decide
  fits := by
    intro r
    simp [aggregatedBindings, scalar, byteArray, PidMetricsAggregated.get, toNat_lt_one, toNat_lt_four, toNat_lt_eight]
  make_get := by
    intro r g h
    simp only [aggregatedHeader, scalar, List.forall_mem_cons, PidMetricsAggregated.get] at h
    simp only [PidMetricsAggregated.make, h, UInt8.ofNat_toNat, UInt32.ofNat_toNat, UInt64.ofNat_toNat]

/-! ### Both sides of a record -/

namespace Format

variable {ρ κ : Type} [DecidableEq κ] (F : Format ρ κ)

/-- The bytes that `Map.Update` hands to the kernel. -/
def encode (r : ρ) : List UInt8 := Layout.encode F.bindings (F.get r)

/-- The record that `Map.Lookup` makes of the bytes. -/
def decode (bytes : List UInt8) : ρ := F.make (fun n => (readField F.bindings n bytes).getD 0)

/-- What the two declarations promise each other: the kernel takes the bytes as one value of the map,
consumers read in each field what the bridge wrote there, and the bridge reads its own records. -/
structure Faithful (r : ρ) : Prop where
  length : (F.encode r).length = size F.header
  consumer : ∀ f ∈ F.header, readField F.header f.name (F.encode r) = some (F.get r f.name)
  bridge : F.decode (F.encode r) = r

theorem mem_bindings {f : Member κ} (hf : f ∈ F.header) : f ∈ F.bindings := by
  obtain ⟨p, hp, rfl⟩ := List.mem_map.mp (by rwa [← place_map_fst 0 F.header] at hf)
  rw [← place_map_fst 0 F.bindings]
  exact List.mem_map_of_mem (F.same_places p hp)

theorem faithful (r : ρ) : F.Faithful r := by
  have hfits : ∀ f ∈ F.header, F.get r f.name % 256 ^ f.width = F.get r f.name :=
    fun f hf => Nat.mod_eq_of_lt (F.fits r f (F.mem_bindings hf))
  refine ⟨?_, fun f hf => ?_, F.make_get r _ fun f hf => ?_⟩
  · rw [encode, length_encode, F.same_size]
  · rw [← hfits f hf]
    obtain ⟨p, hp, rfl⟩ := List.mem_map.mp (by rwa [← place_map_fst 0 F.header] at hf)
    exact readField_encode_of_mem F.header_wf F.bindings_wf.align_pos _ hp (F.same_places p hp)
  · rw [encode, readField_encode F.bindings_wf _ (F.mem_bindings hf), Option.getD_some, hfits f hf]

end Format

/-- **The records survive the way through the kernel**, for every value of each of them: the value of
the map has the size that `gpu_types.h` gives it, a consumer compiled against `gpu_types.h` reads in
every field what the bridge wrote, and a lookup from Go gives the record back. -/
theorem records_faithful :
    (∀ r, metaFormat.Faithful r) ∧ (∀ r, deviceFormat.Faithful r) ∧ (∀ r, pidFormat.Faithful r) ∧
      ∀ r, aggregatedFormat.Faithful r :=
  ⟨metaFormat.faithful, deviceFormat.faithful, pidFormat.faithful, aggregatedFormat.faithful⟩

end GpuEbpfBridge
