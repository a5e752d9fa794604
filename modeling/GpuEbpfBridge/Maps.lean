import GpuEbpfBridge.Lib.MachineInt
import GpuEbpfBridge.Lib.GoMap
import GpuEbpfBridge.Lib.WriteLog
import GpuEbpfBridge.Errors

/-! # The four pinned maps (`internal/maps`, `include/gpu_types.h`)

The value records are those of `gpu_types.h`, less their padding.  `Maps` is the content of the
maps in the kernel: the two ARRAY maps are total and zero-initialised, the two LRU_HASH maps are
finite maps.

`Maps.store` is an update by a kernel that evicts nothing.  A real one may drop entries of an LRU_HASH
map at any update of it that finds no free node, be it only to rewrite an entry.  What is said of the
contents of these two maps therefore assumes that there is no LRU eviction, unless it is said over
the kernel of the module `Eviction`, which drops entries as it likes.

`Bridge` is the writer.  Every `Update*` method issues one `Map.Update` (`Bridge.update`); the
kernel refuses an ARRAY index that is out of range, and may refuse any other update for
reasons of its own, which `Faults` leaves open update by update.  The bridge records what it
issued and whether the kernel took it, so that the states between two updates can be spoken
about (`Maps.storeAll`). -/

namespace GpuEbpfBridge

open Lib

/-! ### Records -/

/-- `SchemaVersion`. -/
def schemaVersion : UInt32 := 1

/-- `MaxDevices`, `GPU_MAX_DEVICES`: the number of slots of `gpu_device`. -/
def maxDevices : ℕ := 16

/-- `max_entries` of `gpu_per_pid` and of `gpu_per_pid_per_device`. -/
def maxEntries : ℕ := 4096

/-- `DevicePrimaryMulti`. -/
def devicePrimaryMulti : UInt8 := 0xFF

/-- `struct gpu_meta`. -/
structure Meta where
  schemaVersion : UInt32 := 0
  nDevices : UInt32 := 0
  lastUpdateNs : UInt64 := 0
  helperPid : UInt32 := 0
deriving DecidableEq, Repr

/-- `struct gpu_device_metrics`. -/
structure DeviceMetrics where
  timestampNs : UInt64 := 0
  smUtilPct : UInt32 := 0
  memUtilPct : UInt32 := 0
  memTotal : UInt64 := 0
  memUsed : UInt64 := 0
  memReserved : UInt64 := 0
  tempC : UInt32 := 0
  powerMw : UInt32 := 0
  smClockMhz : UInt32 := 0
  memClockMhz : UInt32 := 0
  throttleReasons : UInt64 := 0
  pcieTxKbps : UInt64 := 0
  pcieRxKbps : UInt64 := 0
  encUtilPct : UInt32 := 0
  decUtilPct : UInt32 := 0
  nvlinkTxKbps : UInt64 := 0
  nvlinkRxKbps : UInt64 := 0
  eccCorrectedTotal : UInt64 := 0
  eccUncorrectedTotal : UInt64 := 0
  fanSpeedPct : UInt32 := 0
  computeMode : UInt32 := 0
deriving DecidableEq, Repr

/-- `struct gpu_pid_metrics`. -/
structure PidMetrics where
  timestampNs : UInt64
  usedGpuMemory : UInt64
  smUtilPct : UInt32
  memUtilPct : UInt32
  encUtilPct : UInt32
  decUtilPct : UInt32
  gpuDevice : UInt8
  migInstance : UInt8
deriving DecidableEq, Repr

/-- `struct gpu_pid_metrics_aggregated`. -/
structure PidMetricsAggregated where
  timestampNs : UInt64
  usedGpuMemoryTotal : UInt64
  smUtilPctMax : UInt32
  memUtilPctMax : UInt32
  gpuDevicePrimary : UInt8
  deviceCount : UInt8
deriving DecidableEq, Repr

/-! ### The maps in the kernel -/

structure Maps where
  gpuMeta : Meta
  gpuDevice : Fin maxDevices → DeviceMetrics
  gpuPerPid : GoMap UInt32 PidMetricsAggregated
  gpuPerPidPerDevice : GoMap UInt64 PidMetrics

/-- The maps as the kernel creates them. -/
def Maps.empty : Maps := ⟨{}, fun _ => {}, ∅, ∅⟩

/-- One `Map.Update` call, with the map, the key and the value. -/
inductive Update where
  | gpuMeta (m : Meta)
  | gpuDevice (idx : UInt32) (d : DeviceMetrics)
  | gpuPerPid (pid : UInt32) (p : PidMetricsAggregated)
  | gpuPerPidPerDevice (key : UInt64) (p : PidMetrics)
deriving DecidableEq, Repr

/-- The entry an update writes. -/
inductive Slot where
  | gpuMeta
  | gpuDevice (idx : UInt32)
  | gpuPerPid (pid : UInt32)
  | gpuPerPidPerDevice (key : UInt64)
deriving DecidableEq, Repr

def Update.slot : Update → Slot
  | gpuMeta _ => .gpuMeta
  | gpuDevice idx _ => .gpuDevice idx
  | gpuPerPid pid _ => .gpuPerPid pid
  | gpuPerPidPerDevice key _ => .gpuPerPidPerDevice key

/-- The key is one the map can hold: ARRAY maps refuse an index `>= max_entries`. -/
def Update.inRange : Update → Bool
  | gpuDevice idx _ => idx.toNat < maxDevices
  | _ => true

namespace Maps

/-- The maps after an update that succeeds, where the kernel evicts nothing. -/
def store (m : Maps) : Update → Maps
  | .gpuMeta v => { m with gpuMeta := v }
  | .gpuDevice idx v =>
      { m with gpuDevice := fun i => if i.1 = idx.toNat then v else m.gpuDevice i }
  | .gpuPerPid pid v => { m with gpuPerPid := m.gpuPerPid.insert pid v }
  | .gpuPerPidPerDevice key v =>
      { m with gpuPerPidPerDevice := m.gpuPerPidPerDevice.insert key v }

/-- The maps after a sequence of updates that succeed. -/
def storeAll (m : Maps) (us : List Update) : Maps := us.foldl store m

@[simp] theorem storeAll_nil (m : Maps) : m.storeAll [] = m := rfl

theorem storeAll_append (m : Maps) (us vs : List Update) :
    m.storeAll (us ++ vs) = (m.storeAll us).storeAll vs := List.foldl_append

/-- What an entry holds, given as the update that writes it. -/
def read (m : Maps) : Slot → Option Update
  | .gpuMeta => some (.gpuMeta m.gpuMeta)
  | .gpuDevice idx =>
      if h : idx.toNat < maxDevices then some (.gpuDevice idx (m.gpuDevice ⟨idx.toNat, h⟩)) else none
  | .gpuPerPid pid => (m.gpuPerPid.lookup pid).map (.gpuPerPid pid)
  | .gpuPerPidPerDevice key => (m.gpuPerPidPerDevice.lookup key).map (.gpuPerPidPerDevice key)

/-- An update that succeeds replaces its own entry and no other. -/
theorem read_store (m : Maps) {u : Update} (hu : u.inRange = true) (k : Slot) :
    (m.store u).read k = if u.slot = k then some u else m.read k := by
  cases u with
  | gpuMeta v => cases k <;> simp [store, read, Update.slot]
  | gpuDevice idx v =>
      have hidx : idx.toNat < maxDevices := by simpa [Update.inRange] using hu
      cases k with
      | gpuDevice idx' =>
          simp only [store, read, Update.slot, Slot.gpuDevice.injEq]
          by_cases h : idx = idx'
          · subst h
            simp [hidx]
          · have hne : ¬ idx'.toNat = idx.toNat := fun he => h (UInt32.toNat_inj.mp he).symm
            simp [h, hne]
      | _ => simp [store, read, Update.slot]
  | gpuPerPid pid v =>
      cases k with
      | gpuPerPid pid' =>
          simp only [store, read, Update.slot, Slot.gpuPerPid.injEq, GoMap.lookup_insert_eq]
          by_cases h : pid = pid'
          · subst h
            simp
          · simp [h]
      | _ => simp [store, read, Update.slot]
  | gpuPerPidPerDevice key v =>
      cases k with
      | gpuPerPidPerDevice key' =>
          simp only [store, read, Update.slot, Slot.gpuPerPidPerDevice.injEq,
            GoMap.lookup_insert_eq]
          by_cases h : key = key'
          · subst h
            simp
          · simp [h]
      | _ => simp [store, read, Update.slot]

/-- After a sequence of updates an entry holds the last one to it. -/
theorem read_storeAll (m : Maps) {us : List Update} (hus : ∀ u ∈ us, u.inRange = true)
    (k : Slot) : (m.storeAll us).read k = (lastWrite Update.slot us k).or (m.read k) :=
  read_foldl Update.slot store read us (fun m u hu k => m.read_store (hus u hu) k) m k

theorem read_gpuMeta_eq {m : Maps} {v : Meta} :
    m.read .gpuMeta = some (.gpuMeta v) ↔ m.gpuMeta = v := by
  simp [read]

theorem read_gpuPerPid_eq {m : Maps} {pid : UInt32} {v : PidMetricsAggregated} :
    m.read (.gpuPerPid pid) = some (.gpuPerPid pid v) ↔ m.gpuPerPid.lookup pid = some v := by
  simp [read]

theorem read_gpuPerPidPerDevice_eq {m : Maps} {key : UInt64} {v : PidMetrics} :
    m.read (.gpuPerPidPerDevice key) = some (.gpuPerPidPerDevice key v) ↔
      m.gpuPerPidPerDevice.lookup key = some v := by
  simp [read]

theorem read_gpuDevice_eq {m : Maps} {idx : UInt32} {v : DeviceMetrics} :
    m.read (.gpuDevice idx) = some (.gpuDevice idx v) ↔
      ∃ h : idx.toNat < maxDevices, m.gpuDevice ⟨idx.toNat, h⟩ = v := by
  by_cases h : idx.toNat < maxDevices
  · simp [read, h]
  · simp [read, h]

end Maps

/-! ### The writer -/

/-- Which updates fail for a reason of the kernel's own, by position in the sequence. -/
abbrev Faults := ℕ → Bool

/-- No update fails, except for an index out of range. -/
def noFaults : Faults := fun _ => false

/-- `Bridge`: the maps it owns, and the updates it issued with whether they succeeded. -/
structure Bridge where
  objs : Maps
  issued : List (Update × Bool) := []

namespace Bridge

/-- One `Map.Update` call. -/
def update (faults : Faults) (b : Bridge) (u : Update) : Bridge × Option GoError :=
  if faults b.issued.length then
    ({ b with issued := b.issued ++ [(u, false)] }, some (.new "update failed"))
  else if u.inRange then
    (⟨b.objs.store u, b.issued ++ [(u, true)]⟩, none)
  else
    ({ b with issued := b.issued ++ [(u, false)] }, some (.new "argument list too long"))

/-- Whether the kernel takes an update issued now. -/
def takes (faults : Faults) (b : Bridge) (u : Update) : Bool :=
  !faults b.issued.length && u.inRange

theorem update_fst (faults : Faults) (b : Bridge) (u : Update) :
    (b.update faults u).1 =
      ⟨if b.takes faults u then b.objs.store u else b.objs,
        b.issued ++ [(u, b.takes faults u)]⟩ := by
  unfold update takes
  by_cases h : faults b.issued.length = true
  · simp [h]
  · by_cases hr : u.inRange = true
    · simp [h, hr]
    · simp [h, hr]

/-- An update reports an error exactly when the kernel does not take it. -/
theorem update_snd_eq_none_iff (faults : Faults) (b : Bridge) (u : Update) :
    (b.update faults u).2 = none ↔ b.takes faults u = true := by
  unfold update takes
  by_cases h : faults b.issued.length = true
  · simp [h]
  · by_cases hr : u.inRange = true
    · simp [h, hr]
    · simp [h, hr]

/-- `UpdateMeta`. -/
def updateMeta (faults : Faults) (b : Bridge) (m : Meta) : Bridge × Option GoError :=
  b.update faults (.gpuMeta m)

/-- `UpdateDevice`. -/
def updateDevice (faults : Faults) (b : Bridge) (idx : UInt32) (d : DeviceMetrics) :
    Bridge × Option GoError :=
  b.update faults (.gpuDevice idx d)

/-- `UpdatePerPid`. -/
def updatePerPid (faults : Faults) (b : Bridge) (pid : UInt32) (p : PidMetricsAggregated) :
    Bridge × Option GoError :=
  b.update faults (.gpuPerPid pid p)

end Bridge

/-- `PerPidPerDeviceKey`: `(pid << 32) | devIdx`. -/
def perPidPerDeviceKey (pid devIdx : UInt32) : UInt64 :=
  pid.toUInt64 <<< 32 ||| devIdx.toUInt64

/-! ### Sequences of updates -/

/-- A loop that issues updates and ignores their errors. -/
def Bridge.updateAll (faults : Faults) (b : Bridge) (us : List Update) : Bridge :=
  us.foldl (fun b u => (b.update faults u).1) b

/-- The updates `us`, issued from position `n` on, with whether the kernel takes them. -/
def attempts (faults : Faults) (n : ℕ) (us : List Update) : List (Update × Bool) :=
  (us.zipIdx n).map (fun e => (e.1, !faults e.2 && e.1.inRange))

/-- The updates that succeeded. -/
def taken (issued : List (Update × Bool)) : List Update :=
  (issued.filter (fun x => x.2)).map Prod.fst

theorem attempts_cons (faults : Faults) (n : ℕ) (u : Update) (us : List Update) :
    attempts faults n (u :: us) =
      (u, !faults n && u.inRange) :: attempts faults (n + 1) us := rfl

theorem attempts_append (faults : Faults) (n : ℕ) (us vs : List Update) :
    attempts faults n (us ++ vs) =
      attempts faults n us ++ attempts faults (n + us.length) vs := by
  simp [attempts, List.zipIdx_append]

theorem attempts_map_fst (faults : Faults) (n : ℕ) (us : List Update) :
    (attempts faults n us).map Prod.fst = us := by
  induction us generalizing n with
  | nil => rfl
  | cons u us ih => rw [attempts_cons, List.map_cons, ih]

theorem attempts_length (faults : Faults) (n : ℕ) (us : List Update) :
    (attempts faults n us).length = us.length := by simp [attempts]

/-- Where the kernel fails no update, it takes those in range. -/
theorem attempts_noFaults {n : ℕ} {us : List Update} (h : ∀ u ∈ us, u.inRange = true) :
    attempts noFaults n us = us.map (fun u => (u, true)) := by
  induction us generalizing n with
  | nil => rfl
  | cons u us ih =>
      rw [attempts_cons, ih (fun v hv => h v (List.mem_cons_of_mem u hv)), List.map_cons,
        h u List.mem_cons_self]
      rfl

theorem inRange_of_mem_attempts {faults : Faults} {n : ℕ} {us : List Update} {u : Update}
    (h : (u, true) ∈ attempts faults n us) : u.inRange = true := by
  obtain ⟨e, -, he⟩ := List.mem_map.mp h
  obtain ⟨rfl, hb⟩ := Prod.mk.inj he
  exact (Bool.and_eq_true_iff.mp hb).2

theorem mem_taken {issued : List (Update × Bool)} {u : Update} :
    u ∈ taken issued ↔ (u, true) ∈ issued := by
  unfold taken
  rw [List.mem_map]
  constructor
  · rintro ⟨⟨v, b⟩, hx, rfl⟩
    obtain ⟨hm, hb⟩ := List.mem_filter.mp hx
    simp only at hb
    rw [hb] at hm
    exact hm
  · intro h
    exact ⟨(u, true), List.mem_filter.mpr ⟨h, rfl⟩, rfl⟩

/-- If every update succeeds, the updates that succeeded are all of them. -/
theorem taken_eq_map {issued : List (Update × Bool)} (h : ∀ x ∈ issued, x.2 = true) :
    taken issued = issued.map Prod.fst := by
  unfold taken
  rw [List.filter_eq_self.mpr h]

theorem Bridge.updateAll_eq (faults : Faults) (b : Bridge) (us : List Update) :
    b.updateAll faults us =
      ⟨b.objs.storeAll (taken (attempts faults b.issued.length us)),
        b.issued ++ attempts faults b.issued.length us⟩ := by
  induction us generalizing b with
  | nil => simp [updateAll, attempts, taken]
  | cons u us ih =>
      have hfold : b.updateAll faults (u :: us) = (b.update faults u).1.updateAll faults us := rfl
      have ht : b.takes faults u = (!faults b.issued.length && u.inRange) := rfl
      rw [hfold, ih, Bridge.update_fst, attempts_cons, ← ht, List.length_append,
        List.length_singleton, List.append_assoc, List.singleton_append]
      cases b.takes faults u with
      | true => rfl
      | false => rfl

/-- `UpdatePerPidPerDevice`. -/
def Bridge.updatePerPidPerDevice (faults : Faults) (b : Bridge) (pid devIdx : UInt32)
    (p : PidMetrics) : Bridge × Option GoError :=
  b.update faults (.gpuPerPidPerDevice (perPidPerDeviceKey pid devIdx) p)

/-! ### The composite key -/

/-- The key as `dumpPerPidPerDevice` reads it back: `key >> 32` and `key & 0xFFFFFFFF`. -/
def splitKey (key : UInt64) : UInt32 × UInt32 :=
  ((key >>> 32).toUInt32, (key &&& 0xFFFFFFFF).toUInt32)

/-- `dumpPerPidPerDevice`: the lines of the dump, in the order in which the kernel iterates. -/
def dumpPerPidPerDevice (o : RangeOrder (UInt64 × PidMetrics)) (m : Maps) :
    List ((UInt32 × UInt32) × PidMetrics) :=
  (GoMap.range o m.gpuPerPidPerDevice).map (fun e => (splitKey e.1, e.2))

theorem toNat_perPidPerDeviceKey (pid dev : UInt32) :
    (perPidPerDeviceKey pid dev).toNat = pid.toNat * 2 ^ 32 + dev.toNat := by
  have hp := pid.toNat_lt
  have hd := dev.toNat_lt
  unfold perPidPerDeviceKey
  rw [UInt64.toNat_or, UInt64.toNat_shiftLeft, UInt32.toNat_toUInt64, UInt32.toNat_toUInt64]
  rw [show (32 : UInt64).toNat % 64 = 32 from rfl, Nat.mod_eq_of_lt (by rw [Nat.shiftLeft_eq]; omega),
    ← Nat.shiftLeft_add_eq_or_of_lt hd, Nat.shiftLeft_eq]

theorem splitKey_perPidPerDeviceKey (pid dev : UInt32) :
    splitKey (perPidPerDeviceKey pid dev) = (pid, dev) := by
  have hp := pid.toNat_lt
  have hd := dev.toNat_lt
  have hk := toNat_perPidPerDeviceKey pid dev
  unfold splitKey
  congr 1
  · apply UInt32.toNat_inj.mp
    rw [UInt64.toNat_toUInt32, UInt64.toNat_shiftRight, hk,
      show (32 : UInt64).toNat % 64 = 32 from rfl, Nat.shiftRight_eq_div_pow]
    omega
  · apply UInt32.toNat_inj.mp
    rw [UInt64.toNat_toUInt32, UInt64.toNat_and, hk,
      show (0xFFFFFFFF : UInt64).toNat = 2 ^ 32 - 1 from rfl, Nat.and_two_pow_sub_one_eq_mod]
    omega

theorem perPidPerDeviceKey_splitKey (key : UInt64) :
    perPidPerDeviceKey (splitKey key).1 (splitKey key).2 = key := by
  have hk := key.toNat_lt
  apply UInt64.toNat_inj.mp
  rw [toNat_perPidPerDeviceKey]
  simp only [splitKey, UInt64.toNat_toUInt32, UInt64.toNat_shiftRight, UInt64.toNat_and]
  rw [show (32 : UInt64).toNat % 64 = 32 from rfl, Nat.shiftRight_eq_div_pow,
    show (0xFFFFFFFF : UInt64).toNat = 2 ^ 32 - 1 from rfl, Nat.and_two_pow_sub_one_eq_mod]
  omega

theorem perPidPerDeviceKey_inj {pid dev pid' dev' : UInt32}
    (h : perPidPerDeviceKey pid dev = perPidPerDeviceKey pid' dev') : pid = pid' ∧ dev = dev' := by
  have := congrArg splitKey h
  rw [splitKey_perPidPerDeviceKey, splitKey_perPidPerDeviceKey] at this
  exact Prod.mk.inj this

theorem splitKey_injective : Function.Injective splitKey := by
  intro k k' h
  rw [← perPidPerDeviceKey_splitKey k, ← perPidPerDeviceKey_splitKey k', h]

theorem mem_dumpPerPidPerDevice {o : RangeOrder (UInt64 × PidMetrics)} {m : Maps}
    {pid dev : UInt32} {v : PidMetrics} :
    ((pid, dev), v) ∈ dumpPerPidPerDevice o m ↔
      m.gpuPerPidPerDevice.lookup (perPidPerDeviceKey pid dev) = some v := by
  unfold dumpPerPidPerDevice
  rw [List.mem_map]
  constructor
  · rintro ⟨⟨key, v'⟩, hm, he⟩
    obtain ⟨hk, rfl⟩ := Prod.mk.inj he
    rw [GoMap.mem_range, ← perPidPerDeviceKey_splitKey key, hk] at hm
    exact hm
  · intro h
    refine ⟨(perPidPerDeviceKey pid dev, v), GoMap.mem_range.mpr h, ?_⟩
    rw [splitKey_perPidPerDeviceKey]

theorem dumpPerPidPerDevice_nodup (o : RangeOrder (UInt64 × PidMetrics)) (m : Maps) :
    ((dumpPerPidPerDevice o m).map Prod.fst).Nodup := by
  have h : (dumpPerPidPerDevice o m).map Prod.fst =
      ((GoMap.range o m.gpuPerPidPerDevice).map Prod.fst).map splitKey := by
    simp [dumpPerPidPerDevice, Function.comp_def]
  rw [h]
  exact (GoMap.range_keys_nodup o _).map splitKey_injective

end GpuEbpfBridge
