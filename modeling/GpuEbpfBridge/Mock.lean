import GpuEbpfBridge.Nvml
import Mathlib.Data.Nat.Digits.Defs

/-! # The synthetic backend (`internal/nvml/mock.go`)

`Mock` fabricates a fixed fleet: `NumDevices` devices and on each of them `PidsPerDevice` processes
with consecutive PIDs.  Its utilization figures are sine waves over the time since `Init`; those
figures, already clamped and converted to integers, are part of what a call meets (`MockEnv`). -/

namespace GpuEbpfBridge

/-! ### The backend and what it meets -/

/-- `Mock`; `devs = none` is the nil slice. -/
structure Mock where
  numDevices : ℤ
  pidsPerDevice : ℤ
  firstPid : UInt32
  devs : Option (List DeviceSnapshot) := none
deriving DecidableEq

/-- The wave figures of a device. -/
structure DeviceWave where
  smUtilPct : UInt32 := 0
  memUtilPct : UInt32 := 0
  memUsed : UInt64 := 0
  /-- `uint32(sm*3000)`, what `PowerMw` adds to its base. -/
  powerMw : UInt32 := 0
  pcieTxKbps : UInt64 := 0
  pcieRxKbps : UInt64 := 0

/-- What one method call of `Mock` meets. -/
structure MockEnv where
  /-- The clock in `Devices` and in `ProcessSamples`: `Now`, or `time.Now` where that is nil. -/
  devicesNow : ℤ
  samplesNow : ℤ
  /-- `uint32(elapsed)`. -/
  elapsed : UInt32 := 0
  deviceWave : ℕ → DeviceWave := fun _ => {}
  /-- SM and memory utilization of process `j` on the device with an index. -/
  processWave : UInt32 → ℕ → UInt32 × UInt32 := fun _ _ => (0, 0)

/-- `NewMock`. -/
def newMock : Mock := { numDevices := 2, pidsPerDevice := 3, firstPid := 100000 }

/-! ### The methods -/

/-- `leftPad`; the digits of 0 are none. -/
def leftPad (n : UInt64) (width : ℕ) : String :=
  let s := (Nat.digits 10 n.toNat).reverse.map (fun d => Char.ofNat ('0'.toNat + d))
  String.ofList (List.replicate (width - s.length) '0' ++ s)

namespace Mock

/-- The static properties of device `i`. -/
def baseDevice (i : ℕ) : DeviceSnapshot :=
  { index := UInt32.ofNat i
    uuid := "MOCK-" ++ leftPad (UInt64.ofNat i) 16
    name := "MOCK GPU model 0"
    timestampNs := 0
    memTotal := 80 * 1024 * 1024 * 1024 }

/-- `Mock.Init`. -/
def init (_env : MockEnv) (m : Mock) : Option GoError × Mock :=
  let numDevices := if m.numDevices ≤ 0 then 2 else m.numDevices
  (none,
    { numDevices := numDevices
      pidsPerDevice := if m.pidsPerDevice ≤ 0 then 3 else m.pidsPerDevice
      firstPid := if m.firstPid = 0 then 100000 else m.firstPid
      devs := some ((List.range numDevices.toNat).map baseDevice) })

/-- The snapshot of the device at position `i`. -/
def snapshot (env : MockEnv) (base : DeviceSnapshot) (i : ℕ) : DeviceSnapshot :=
  { index := base.index
    uuid := base.uuid
    name := base.name
    timestampNs := unixNano env.devicesNow
    smUtilPct := (env.deviceWave i).smUtilPct
    memUtilPct := (env.deviceWave i).memUtilPct
    memTotal := base.memTotal
    memUsed := (env.deviceWave i).memUsed
    memReserved := 512 * 1024 * 1024
    tempC := 40 + env.elapsed % 40
    powerMw := 100000 + (env.deviceWave i).powerMw
    smClockMhz := 1410
    memClockMhz := 1593
    pcieTxKbps := (env.deviceWave i).pcieTxKbps
    pcieRxKbps := (env.deviceWave i).pcieRxKbps
    fanSpeedPct := 30 + env.elapsed % 50 }

/-- `Mock.Devices`. -/
def devices (env : MockEnv) (m : Mock) : (List DeviceSnapshot × Option GoError) × Mock :=
  match m.devs with
  | none => (([], some .errNotAvailable), m)
  | some devs => ((devs.zipIdx.map (fun d => snapshot env d.1 d.2), none), m)

/-- One round of the process loop of a device, the next PID and the samples so far. -/
def addProcess (env : MockEnv) (tsNs : UInt64) (dev : DeviceSnapshot)
    (st : UInt32 × List ProcessSample) (j : ℕ) : UInt32 × List ProcessSample :=
  (st.1 + 1, st.2 ++
    [{ pid := st.1
       deviceIndex := dev.index
       timestampNs := tsNs
       usedGpuMemory := 256 * 1024 * 1024 + UInt64.ofNat j * 128 * 1024 * 1024
       smUtilPct := (env.processWave dev.index j).1
       memUtilPct := (env.processWave dev.index j).2 }])

/-- `Mock.ProcessSamples`. -/
def processSamples (env : MockEnv) (lastSeenNs : UInt64) (m : Mock) :
    (List ProcessSample × Option GoError) × Mock :=
  match m.devs with
  | none => (([], some .errNotAvailable), m)
  | some devs =>
      let tsNs := unixNano env.samplesNow
      if lastSeenNs ≥ tsNs then (([], none), m)
      else
        let r := devs.foldl
          (fun st dev => (List.range m.pidsPerDevice.toNat).foldl (addProcess env tsNs dev) st)
          (m.firstPid, [])
        ((r.2, none), m)

/-- `Mock.Close`. -/
def close (_env : MockEnv) (m : Mock) : Option GoError × Mock := (none, { m with devs := none })

end Mock

/-- `Mock` as a backend. -/
def mockSource : Source MockEnv Mock where
  init := Mock.init
  devices := Mock.devices
  processSamples := Mock.processSamples
  close := Mock.close

end GpuEbpfBridge
