import GpuEbpfBridge.Lib.MachineInt
import GpuEbpfBridge.Errors

/-! # The backend interface (`internal/nvml/nvml.go`)

`Source` is the interface `nvml.Poller` with its four methods.  A backend keeps a state `σ`; what
it meets outside during a call (NVML's answers, clock readings) is an argument of type `ε`, so
that a run is a list of these.  Like the Go methods, `devices` and `processSamples` return
their slice and an error side by side: a slice can come with a non-nil error. -/

namespace GpuEbpfBridge

/-- `DeviceSnapshot`. -/
structure DeviceSnapshot where
  index : UInt32
  uuid : String := ""
  name : String := ""
  timestampNs : UInt64
  smUtilPct : UInt32 := 0
  memUtilPct : UInt32 := 0
  memTotal : UInt64 := 0
  memUsed : UInt64 := 0
  memReserved : UInt64 := 0
  tempC : UInt32 := 0
  powerMw : UInt32 := 0
  smClockMhz : UInt32 := 0
  memClockMhz : UInt32 := 0
  throttleReasons : UInt64 := 0
  pcieTxKbps : UInt64 := 0
  pcieRxKbps : UInt64 := 0
  encUtilPct : UInt32 := 0
  decUtilPct : UInt32 := 0
  nvlinkTxKbps : UInt64 := 0
  nvlinkRxKbps : UInt64 := 0
  eccCorrectedTotal : UInt64 := 0
  eccUncorrectedTotal : UInt64 := 0
  fanSpeedPct : UInt32 := 0
  computeMode : UInt32 := 0
deriving DecidableEq, Repr

/-- `ProcessSample`. -/
structure ProcessSample where
  pid : UInt32
  deviceIndex : UInt32
  timestampNs : UInt64
  usedGpuMemory : UInt64 := 0
  smUtilPct : UInt32 := 0
  memUtilPct : UInt32 := 0
  encUtilPct : UInt32 := 0
  decUtilPct : UInt32 := 0
  migInstance : UInt8 := 0
deriving DecidableEq, Repr

/-- `pidDevKey`, the key type that both folds over processes declare. -/
structure PidDevKey where
  pid : UInt32
  dev : UInt32
deriving DecidableEq, Repr

/-- The interface `nvml.Poller`. -/
structure Source (ε σ : Type) where
  init : ε → σ → Option GoError × σ
  devices : ε → σ → (List DeviceSnapshot × Option GoError) × σ
  processSamples : ε → UInt64 → σ → (List ProcessSample × Option GoError) × σ
  close : ε → σ → Option GoError × σ

/-- `fakeNvml` of `poller_test.go`: a backend that returns the slices it is given, here tick by
tick. -/
def fakeNvml : Source (List DeviceSnapshot × List ProcessSample) Unit where
  init _ s := (none, s)
  devices e s := ((e.1, none), s)
  processSamples e _ s := ((e.2, none), s)
  close _ s := (none, s)

/-- `uint64(t.UnixNano())`: a nanosecond reading of the wall clock as the bridge stores it. -/
def unixNano (t : ℤ) : UInt64 := UInt64.ofInt t

end GpuEbpfBridge
