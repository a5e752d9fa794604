import GpuEbpfBridge.Lib.Balance
import GpuEbpfBridge.Lib.GoMap
import GpuEbpfBridge.Nvml

/-! # The NVML backend (`internal/nvml/real.go`)

`NvmlEnv` is what one method call of `Real` meets: the answer NVML would give to each of its
calls, device by device, and the wall clock.  Every answer is a value and a return code, and the
value is there whatever the code.  `Session` is a `Real` together with the trace of those NVML
calls that change or depend on the state of the library: `Init`, `Shutdown` and the calls with a
rolling window.

`ProcessSamples` is a loop over the device handles with a memory table shared by all of them
(`sampleDevice`); within it one loop fills the table, one merges the utilization samples with it,
and one empties it of the entries of the device, in an order that `NvmlEnv` leaves open. -/

namespace GpuEbpfBridge

open Lib

/-! ### NVML -/

/-- `xnvml.ProcessInfo`. -/
structure ProcessInfo where
  pid : UInt32
  usedGpuMemory : UInt64
deriving DecidableEq, Repr

/-- `xnvml.ProcessUtilizationSample`. -/
structure UtilSample where
  pid : UInt32
  timeStamp : UInt64
  smUtil : UInt32 := 0
  memUtil : UInt32 := 0
  encUtil : UInt32 := 0
  decUtil : UInt32 := 0
deriving DecidableEq, Repr

/-- `xnvml.Memory_v2`, and `xnvml.Memory` without `reserved`. -/
structure MemoryInfo where
  total : UInt64
  used : UInt64
  reserved : UInt64 := 0
deriving DecidableEq, Repr

/-- The answers of NVML about one device. -/
structure DeviceNvml where
  getUUID : String × Return := ("", .success)
  getName : String × Return := ("", .success)
  /-- The fields `Gpu` and `Memory`. -/
  getUtilizationRates : (UInt32 × UInt32) × Return := ((0, 0), .success)
  getMemoryInfoV2 : MemoryInfo × Return := (⟨0, 0, 0⟩, .success)
  getMemoryInfo : MemoryInfo × Return := (⟨0, 0, 0⟩, .success)
  getTemperatureGpu : UInt32 × Return := (0, .success)
  getPowerUsage : UInt32 × Return := (0, .success)
  getClockInfoSm : UInt32 × Return := (0, .success)
  getClockInfoMem : UInt32 × Return := (0, .success)
  getCurrentClocksEventReasons : UInt64 × Return := (0, .success)
  getCurrentClocksThrottleReasons : UInt64 × Return := (0, .success)
  getPcieThroughputRx : UInt32 × Return := (0, .success)
  getPcieThroughputTx : UInt32 × Return := (0, .success)
  getEncoderUtilization : UInt32 × Return := (0, .success)
  getDecoderUtilization : UInt32 × Return := (0, .success)
  getTotalEccErrorsCorrected : UInt64 × Return := (0, .success)
  getTotalEccErrorsUncorrected : UInt64 × Return := (0, .success)
  getFanSpeed : UInt32 × Return := (0, .success)
  getComputeMode : UInt32 × Return := (0, .success)
  getComputeRunningProcesses : List ProcessInfo × Return := ([], .success)
  /-- By the `lastSeenTimeStamp` passed. -/
  getProcessUtilization : UInt64 → List UtilSample × Return := fun _ => ([], .success)

/-- What one method call meets.  `δ` is the type of device handles. -/
structure NvmlEnv (δ : Type) where
  init : Return := .success
  shutdown : Return := .success
  deviceGetCount : UInt32 × Return
  deviceGetHandleByIndex : ℕ → δ × Return
  device : δ → DeviceNvml
  /-- `time.Now()` in `Devices` and in `ProcessSamples`. -/
  devicesNow : ℤ
  samplesNow : ℤ
  /-- The iteration order of the memory table when device `i` is its turn. -/
  memOrder : UInt32 → RangeOrder (PidDevKey × UInt64) := fun _ => .stored _

/-- A call to NVML. -/
inductive NvmlCall where
  | init (ret : Return)
  | shutdown
  | getProcessUtilization (dev : UInt32) (seen : UInt64) (samples : List UtilSample) (ret : Return)
deriving DecidableEq, Repr

/-- What a call does to the reference count of the library: a successful `Init` increments it,
`Shutdown` decrements it. -/
def NvmlCall.weight : NvmlCall → ℤ
  | .init .success => 1
  | .shutdown => -1
  | _ => 0

/-- The reference count of the library after some calls. -/
def refCount (calls : List NvmlCall) : ℤ := balance NvmlCall.weight calls

/-! ### The backend -/

/-- `Real`.  `Init` never makes more handles than NVML counts devices. -/
structure Real (δ : Type) where
  handles : List δ := []
  lastSeenTs : GoMap UInt32 UInt64 := ∅
  initialized : Bool := false
  closed : Bool := false
  handles_length : handles.length < 2 ^ 32 := by simp

/-- A backend and the calls it has made. -/
structure Session (δ : Type) where
  real : Real δ
  trace : List NvmlCall := []

/-- `NewReal`. -/
def newReal (δ : Type) : Session δ :=
  { real := { handles := [], handles_length := Nat.two_pow_pos 32 } }

section lifecycle

variable {δ : Type}

/-- The handle loop of `Init` from index `i` on: the handles it appends and the error it stops
at. -/
def getHandles (env : NvmlEnv δ) : ℕ → ℕ → List δ × Option GoError
  | _, 0 => ([], none)
  | i, n + 1 =>
      match wrap (env.deviceGetHandleByIndex i).2 with
      | some err => ([], some (.wrapf ("DeviceGetHandleByIndex(" ++ toString i ++ "): %w") err))
      | none =>
          ((env.deviceGetHandleByIndex i).1 :: (getHandles env (i + 1) n).1,
            (getHandles env (i + 1) n).2)

theorem getHandles_length (env : NvmlEnv δ) (i n : ℕ) : (getHandles env i n).1.length ≤ n := by
  induction n generalizing i with
  | zero => exact Nat.le_refl 0
  | succ n ih =>
      unfold getHandles
      split
      · exact Nat.zero_le _
      · exact Nat.succ_le_succ (ih (i + 1))

namespace Session

/-- `Real.Init`. -/
def init (env : NvmlEnv δ) (s : Session δ) : Option GoError × Session δ :=
  match wrap env.init with
  | some err => (some err, { s with trace := s.trace ++ [.init env.init] })
  | none =>
      match wrap env.deviceGetCount.2 with
      | some err =>
          (some (.wrapf "DeviceGetCount: %w" err),
            { real := { s.real with initialized := false }
              trace := s.trace ++ [.init env.init, .shutdown] })
      | none =>
          let r := getHandles env 0 env.deviceGetCount.1.toNat
          have hr : r.1.length < 2 ^ 32 :=
            Nat.lt_of_le_of_lt (getHandles_length env 0 _) env.deviceGetCount.1.toNat_lt
          match r.2 with
          | some err =>
              -- the handles found so far stay
              (some err,
                { real := { s.real with
                    handles := r.1, handles_length := hr, initialized := false }
                  trace := s.trace ++ [.init env.init, .shutdown] })
          | none =>
              (none,
                { real := { s.real with
                    handles := r.1, handles_length := hr, initialized := true }
                  trace := s.trace ++ [.init env.init] })

/-- `Real.Close`. -/
def close (env : NvmlEnv δ) (s : Session δ) : Option GoError × Session δ :=
  if s.real.closed then (none, s)
  else if s.real.initialized then
    (wrap env.shutdown,
      { real := { s.real with
          handles := [], handles_length := Nat.two_pow_pos 32, initialized := false, closed := true }
        trace := s.trace ++ [.shutdown] })
  else
    (none,
      { s with
        real := { s.real with
          handles := [], handles_length := Nat.two_pow_pos 32, closed := true } })

end Session

end lifecycle

/-! ### `Devices` -/

/-- The value of a getter whose return code is SUCCESS. -/
def ok {α : Type} (a : α × Return) : Option α := if wrap a.2 = none then some a.1 else none

/-- The snapshot of one device; a getter that fails leaves its field at zero. -/
def snapshot (tsNs : UInt64) (idx : UInt32) (a : DeviceNvml) : DeviceSnapshot :=
  { index := idx
    timestampNs := tsNs
    uuid := (ok a.getUUID).getD ""
    name := (ok a.getName).getD ""
    smUtilPct := ((ok a.getUtilizationRates).map Prod.fst).getD 0
    memUtilPct := ((ok a.getUtilizationRates).map Prod.snd).getD 0
    memTotal := (((ok a.getMemoryInfoV2).or (ok a.getMemoryInfo)).map (fun m => m.total)).getD 0
    memUsed := (((ok a.getMemoryInfoV2).or (ok a.getMemoryInfo)).map (fun m => m.used)).getD 0
    memReserved := ((ok a.getMemoryInfoV2).map (fun m => m.reserved)).getD 0
    tempC := (ok a.getTemperatureGpu).getD 0
    powerMw := (ok a.getPowerUsage).getD 0
    smClockMhz := (ok a.getClockInfoSm).getD 0
    memClockMhz := (ok a.getClockInfoMem).getD 0
    throttleReasons :=
      ((ok a.getCurrentClocksEventReasons).or (ok a.getCurrentClocksThrottleReasons)).getD 0
    pcieRxKbps := ((ok a.getPcieThroughputRx).map UInt32.toUInt64).getD 0
    pcieTxKbps := ((ok a.getPcieThroughputTx).map UInt32.toUInt64).getD 0
    encUtilPct := (ok a.getEncoderUtilization).getD 0
    decUtilPct := (ok a.getDecoderUtilization).getD 0
    eccCorrectedTotal := (ok a.getTotalEccErrorsCorrected).getD 0
    eccUncorrectedTotal := (ok a.getTotalEccErrorsUncorrected).getD 0
    fanSpeedPct := (ok a.getFanSpeed).getD 0
    computeMode := (ok a.getComputeMode).getD 0 }

/-- `Real.Devices`. -/
def Session.devices {δ : Type} (env : NvmlEnv δ) (s : Session δ) :
    (List DeviceSnapshot × Option GoError) × Session δ :=
  ((s.real.handles.zipIdx.map
    (fun d => snapshot (unixNano env.devicesNow) (UInt32.ofNat d.2) (env.device d.1)), none), s)

/-! ### `ProcessSamples` -/

/-- One entry of `GetComputeRunningProcesses` into the memory table. -/
def recordMemory (devIdx : UInt32) (mem : GoMap PidDevKey UInt64) (p : ProcessInfo) :
    GoMap PidDevKey UInt64 :=
  mem.insert ⟨p.pid, devIdx⟩ p.usedGpuMemory

/-- The memory table after `GetComputeRunningProcesses`; a call that fails leaves it alone. -/
def listProcesses (devIdx : UInt32) (a : List ProcessInfo × Return)
    (mem : GoMap PidDevKey UInt64) : GoMap PidDevKey UInt64 :=
  if wrap a.2 = none then a.1.foldl (recordMemory devIdx) mem else mem

/-- The state of the loop over the utilization samples of one device. -/
structure MergeLoop where
  maxTs : UInt64
  memByPidDev : GoMap PidDevKey UInt64
  out : List ProcessSample

/-- One utilization sample: it takes the memory of its process out of the table. -/
def mergeSample (devIdx : UInt32) (tsNs : UInt64) (st : MergeLoop) (s : UtilSample) : MergeLoop :=
  let key : PidDevKey := ⟨s.pid, devIdx⟩
  { maxTs := raise st.maxTs s.timeStamp
    memByPidDev := st.memByPidDev.erase key
    out := st.out ++
      [{ pid := s.pid
         deviceIndex := devIdx
         timestampNs := tsNs
         usedGpuMemory := (st.memByPidDev.lookup key).getD 0
         smUtilPct := s.smUtil
         memUtilPct := s.memUtil
         encUtilPct := s.encUtil
         decUtilPct := s.decUtil }] }

/-- One entry of the memory table that no utilization sample took: a memory-only sample. -/
def emitIdle (devIdx : UInt32) (tsNs : UInt64)
    (st : GoMap PidDevKey UInt64 × List ProcessSample) (e : PidDevKey × UInt64) :
    GoMap PidDevKey UInt64 × List ProcessSample :=
  if e.1.dev ≠ devIdx then st
  else
    (st.1.erase e.1, st.2 ++
      [{ pid := e.1.pid, deviceIndex := devIdx, timestampNs := tsNs, usedGpuMemory := e.2 }])

/-- The state of the loop over the handles. -/
structure SampleLoop where
  memByPidDev : GoMap PidDevKey UInt64 := ∅
  out : List ProcessSample := []
  lastSeenTs : GoMap UInt32 UInt64
  trace : List NvmlCall

/-- The watermark of a device after a batch whose greatest time stamp is `maxTs`. -/
def advanceLastSeenTs (table : GoMap UInt32 UInt64) (devIdx : UInt32) (maxTs : UInt64) :
    GoMap UInt32 UInt64 :=
  if maxTs > 0 then
    if maxTs > (table.lookup devIdx).getD 0 then table.insert devIdx maxTs else table
  else table

/-- The part of a round that follows a `GetProcessUtilization` call without hard error. -/
def mergeDevice {δ : Type} (env : NvmlEnv δ) (devIdx : UInt32) (samples : List UtilSample)
    (st : SampleLoop) : SampleLoop :=
  let tsNs := unixNano env.samplesNow
  let m := samples.foldl (mergeSample devIdx tsNs) ⟨0, st.memByPidDev, st.out⟩
  let r := (GoMap.range (env.memOrder devIdx) m.memByPidDev).foldl (emitIdle devIdx tsNs)
    (m.memByPidDev, m.out)
  { st with
    memByPidDev := r.1
    out := r.2
    lastSeenTs := advanceLastSeenTs st.lastSeenTs devIdx m.maxTs }

/-- One round of the loop over the handles. -/
def sampleDevice {δ : Type} (env : NvmlEnv δ) (lastSeenNs : UInt64) (st : SampleLoop)
    (d : δ × ℕ) : SampleLoop :=
  let devIdx := UInt32.ofNat d.2
  let mem := listProcesses devIdx (env.device d.1).getComputeRunningProcesses st.memByPidDev
  let seen := raise ((st.lastSeenTs.lookup devIdx).getD 0) lastSeenNs
  let a := (env.device d.1).getProcessUtilization seen
  let st := { st with
    memByPidDev := mem
    trace := st.trace ++ [.getProcessUtilization devIdx seen a.1 a.2] }
  if isHard a.2 then st else mergeDevice env devIdx a.1 st

/-- `Real.ProcessSamples`. -/
def Session.processSamples {δ : Type} (env : NvmlEnv δ) (lastSeenNs : UInt64) (s : Session δ) :
    (List ProcessSample × Option GoError) × Session δ :=
  let r := s.real.handles.zipIdx.foldl (sampleDevice env lastSeenNs)
    { lastSeenTs := s.real.lastSeenTs, trace := s.trace }
  ((r.out, none), { real := { s.real with lastSeenTs := r.lastSeenTs }, trace := r.trace })

/-- `Real` as a backend. -/
def realSource (δ : Type) : Source (NvmlEnv δ) (Session δ) where
  init := Session.init
  devices := Session.devices
  processSamples := Session.processSamples
  close := Session.close

end GpuEbpfBridge
