import GpuEbpfBridge.Maps
import GpuEbpfBridge.Nvml

/-! # One tick of the poll loop (`internal/poller/poller.go`)

`tick` is `Poller.tick`: device snapshots into `gpu_device`, one `ProcessSamples` call, the
samples folded per (pid, device) (`addSample`), each of the folded entries written to
`gpu_per_pid_per_device` and folded again per PID (`groupEntry`), each of these written to
`gpu_per_pid`, and `gpu_meta` last.  Both `range` loops visit their map in an order that `TickEnv`
leaves open.  A failed update is only logged, except for that of `gpu_meta`, whose error `tick`
returns.

The outcome of a tick carries, next to the new state and the returned error, the slices the
backend returned and the updates issued; a run of ticks is a list of outcomes
(`outcomes`). -/

namespace GpuEbpfBridge

open Lib

/-! ### The watermark table -/

/-- `minLastSeen`: `0` for an empty table, else a running minimum that starts with the first
entry visited. -/
def minLastSeen (o : RangeOrder (UInt32 × UInt64)) (table : GoMap UInt32 UInt64) : UInt64 :=
  if table.entries.length = 0 then 0
  else
    ((GoMap.range o table).foldl
      (fun (st : UInt64 × Bool) e => if st.2 ∨ e.2 < st.1 then (e.2, false) else st)
      (0, true)).1

/-- `advanceLastSeen`. -/
def advanceLastSeen (table : GoMap UInt32 UInt64) (dev : UInt32) (ts : UInt64) :
    GoMap UInt32 UInt64 :=
  if ts > (table.lookup dev).getD 0 then table.insert dev ts else table

/-! ### Samples of one (pid, device) -/

/-- `perDevAgg`. -/
structure PerDevAgg where
  ts : UInt64
  usedMem : UInt64
  smMax : UInt32 := 0
  memMax : UInt32 := 0
  encMax : UInt32 := 0
  decMax : UInt32 := 0
  migInst : UInt8
deriving DecidableEq, Repr

namespace PerDevAgg

/-- The accumulator the first sample of a key starts. -/
def start (s : ProcessSample) : PerDevAgg :=
  { ts := s.timestampNs, usedMem := s.usedGpuMemory, migInst := s.migInstance }

def add (a : PerDevAgg) (s : ProcessSample) : PerDevAgg :=
  { a with
    usedMem := raise a.usedMem s.usedGpuMemory
    smMax := raise a.smMax s.smUtilPct
    memMax := raise a.memMax s.memUtilPct
    encMax := raise a.encMax s.encUtilPct
    decMax := raise a.decMax s.decUtilPct
    ts := raise a.ts s.timestampNs }

/-- The record written for the key. -/
def detail (key : PidDevKey) (a : PerDevAgg) : PidMetrics :=
  { timestampNs := a.ts
    usedGpuMemory := a.usedMem
    smUtilPct := a.smMax
    memUtilPct := a.memMax
    encUtilPct := a.encMax
    decUtilPct := a.decMax
    gpuDevice := key.dev.toUInt8
    migInstance := a.migInst }

end PerDevAgg

/-- One round of the sample loop; samples of pid 0 are skipped. -/
def addSample (perDev : GoMap PidDevKey PerDevAgg) (s : ProcessSample) :
    GoMap PidDevKey PerDevAgg :=
  if s.pid = 0 then perDev
  else
    let key : PidDevKey := ⟨s.pid, s.deviceIndex⟩
    perDev.insert key (((perDev.lookup key).getD (PerDevAgg.start s)).add s)

/-! ### Entries of one PID -/

/-- `aggBuilder`. -/
structure AggBuilder where
  ts : UInt64
  usedTotal : UInt64 := 0
  smMax : UInt32 := 0
  memMax : UInt32 := 0
  firstDev : UInt8
  devSet : Finset UInt8 := ∅
deriving DecidableEq

namespace AggBuilder

/-- The builder the first entry of a PID starts. -/
def start (key : PidDevKey) (a : PerDevAgg) : AggBuilder :=
  { ts := a.ts, firstDev := key.dev.toUInt8 }

def add (b : AggBuilder) (key : PidDevKey) (a : PerDevAgg) : AggBuilder :=
  { b with
    usedTotal := b.usedTotal + a.usedMem
    smMax := raise b.smMax a.smMax
    memMax := raise b.memMax a.memMax
    devSet := insert key.dev.toUInt8 b.devSet
    ts := raise b.ts a.ts }

/-- `uint8(len(b.devSet))`, and 1 where that is 0. -/
def devCount (b : AggBuilder) : UInt8 :=
  if UInt8.ofNat b.devSet.card = 0 then 1 else UInt8.ofNat b.devSet.card

/-- The record written for the PID. -/
def record (b : AggBuilder) : PidMetricsAggregated :=
  { timestampNs := b.ts
    usedGpuMemoryTotal := b.usedTotal
    smUtilPctMax := b.smMax
    memUtilPctMax := b.memMax
    gpuDevicePrimary := if b.devCount > 1 then devicePrimaryMulti else b.firstDev
    deviceCount := b.devCount }

end AggBuilder

/-- The builders of the PIDs met so far, after one more entry. -/
def addEntry (agg : GoMap UInt32 AggBuilder) (e : PidDevKey × PerDevAgg) :
    GoMap UInt32 AggBuilder :=
  agg.insert e.1.pid (((agg.lookup e.1.pid).getD (AggBuilder.start e.1 e.2)).add e.1 e.2)

/-- One round of the loop over `perDev`: the detail write and the builder of the PID. -/
def groupEntry (faults : Faults) (st : Bridge × GoMap UInt32 AggBuilder)
    (e : PidDevKey × PerDevAgg) : Bridge × GoMap UInt32 AggBuilder :=
  ((st.1.updatePerPidPerDevice faults e.1.pid e.1.dev (PerDevAgg.detail e.1 e.2)).1,
    addEntry st.2 e)

/-! ### The tick -/

/-- `deviceSnapshotToMap`. -/
def deviceSnapshotToMap (d : DeviceSnapshot) : DeviceMetrics :=
  { timestampNs := d.timestampNs
    smUtilPct := d.smUtilPct
    memUtilPct := d.memUtilPct
    memTotal := d.memTotal
    memUsed := d.memUsed
    memReserved := d.memReserved
    tempC := d.tempC
    powerMw := d.powerMw
    smClockMhz := d.smClockMhz
    memClockMhz := d.memClockMhz
    throttleReasons := d.throttleReasons
    pcieTxKbps := d.pcieTxKbps
    pcieRxKbps := d.pcieRxKbps
    encUtilPct := d.encUtilPct
    decUtilPct := d.decUtilPct
    nvlinkTxKbps := d.nvlinkTxKbps
    nvlinkRxKbps := d.nvlinkRxKbps
    eccCorrectedTotal := d.eccCorrectedTotal
    eccUncorrectedTotal := d.eccUncorrectedTotal
    fanSpeedPct := d.fanSpeedPct
    computeMode := d.computeMode }

/-- What a tick meets: what the backend meets, the wall clock when `gpu_meta` is stamped, the
kernel's own failures, and the iteration orders of the three maps. -/
structure TickEnv (ε : Type) where
  source : ε
  now : ℤ
  faults : Faults := noFaults
  lastSeenOrder : RangeOrder (UInt32 × UInt64) := .stored _
  perDevOrder : RangeOrder (PidDevKey × PerDevAgg) := .stored _
  aggOrder : RangeOrder (UInt32 × AggBuilder) := .stored _

/-- The backend, the fields of `Poller` that a tick uses, and the maps. -/
structure State (σ : Type) where
  source : σ
  helper : UInt32
  lastSeenPerDevice : GoMap UInt32 UInt64
  objs : Maps

/-- What a tick does: the state it leaves, the slices the backend returned to it, the updates
it issued with whether each succeeded, and the error it returns. -/
structure Outcome (σ : Type) where
  state : State σ
  devs : List DeviceSnapshot
  samples : List ProcessSample
  issued : List (Update × Bool)
  err : Option GoError

section tick

variable {ε σ : Type}

/-- The `gpu_meta` record a tick writes. -/
def metaRecord (env : TickEnv ε) (helper : UInt32) (devs : List DeviceSnapshot) : Meta :=
  { schemaVersion := schemaVersion
    nDevices := UInt32.ofNat devs.length
    lastUpdateNs := unixNano env.now
    helperPid := helper }

/-- The loop over the device snapshots. -/
def writeDevices (faults : Faults) (devs : List DeviceSnapshot) (b : Bridge) : Bridge :=
  devs.foldl (fun b d => (b.updateDevice faults d.index (deviceSnapshotToMap d)).1) b

/-- The loop over `agg`. -/
def writeAggregates (faults : Faults) (o : RangeOrder (UInt32 × AggBuilder))
    (agg : GoMap UInt32 AggBuilder) (b : Bridge) : Bridge :=
  (GoMap.range o agg).foldl (fun b e => (b.updatePerPid faults e.1 e.2.record).1) b

/-- `Poller.tick`. -/
def tick (S : Source ε σ) (env : TickEnv ε) (s : State σ) : Outcome σ :=
  match S.devices env.source s.source with
  | ((_, some devErr), source) =>
      { state := { s with source := source }
        devs := [], samples := [], issued := []
        err := some (.wrapf "devices: %w" devErr) }
  | ((devs, none), source) =>
      let b := writeDevices env.faults devs ⟨s.objs, []⟩
      let lastSeen := minLastSeen env.lastSeenOrder s.lastSeenPerDevice
      -- an error of ProcessSamples is logged, the samples that came with it are used
      let ((samples, _), source) := S.processSamples env.source lastSeen source
      let table := samples.foldl (fun t s => advanceLastSeen t s.deviceIndex s.timestampNs)
        s.lastSeenPerDevice
      let perDev := samples.foldl addSample ∅
      let (b, agg) := (GoMap.range env.perDevOrder perDev).foldl (groupEntry env.faults) (b, ∅)
      let b := writeAggregates env.faults env.aggOrder agg b
      let (b, err) := b.updateMeta env.faults (metaRecord env s.helper devs)
      { state := { s with source := source, lastSeenPerDevice := table, objs := b.objs }
        devs := devs, samples := samples, issued := b.issued
        err := err.map (.wrapf "UpdateMeta: %w") }

/-! ### Runs of ticks -/

/-- The state after a tick. -/
def step (S : Source ε σ) (s : State σ) (env : TickEnv ε) : State σ := (tick S env s).state

/-- The outcomes of the ticks of a run. -/
def outcomes (S : Source ε σ) (s : State σ) (envs : List (TickEnv ε)) : List (Outcome σ) :=
  outputs (step S) (fun s env => tick S env s) s envs

/-- The state before any tick: `New`, and maps the kernel has just created. -/
def State.initial (source : σ) (helper : UInt32) : State σ := ⟨source, helper, ∅, Maps.empty⟩

end tick

end GpuEbpfBridge
