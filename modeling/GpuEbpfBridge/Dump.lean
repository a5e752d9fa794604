import GpuEbpfBridge.PinLifetimes

/-! # The dump (`cmd/gpu-ebpf-bridge/dump.go`)

`--dump` opens the files one after the other and prints every entry it visits.  A line is kept as the
record it prints; the text that `%+v` makes of it is left out.  What the calls answer, and the order in
which the kernel visits the entries of a hash map, is open (`DumpEnv`).

A dump that ends without error, and during which nobody writes, shows each entry of the maps once, less
the device slots that were never written (`runDump_exact`). -/

namespace GpuEbpfBridge

open Lib

/-! ### Lines -/

inductive DumpLine where
  | title (text : String)
  | gpuMeta (v : Meta)
  | gpuDevice (key : UInt32) (v : DeviceMetrics)
  | gpuPerPid (pid : UInt32) (v : PidMetricsAggregated)
  | gpuPerPidPerDevice (pid dev : UInt32) (v : PidMetrics)
  | blank
deriving DecidableEq, Repr

/-- The line of an entry. -/
def Update.line : Update → DumpLine
  | gpuMeta v => .gpuMeta v
  | gpuDevice key v => .gpuDevice key v
  | gpuPerPid pid v => .gpuPerPid pid v
  | gpuPerPidPerDevice key v => .gpuPerPidPerDevice (splitKey key).1 (splitKey key).2 v

/-- Slots of `gpu_device` are zero-initialised; those without a stamp are skipped. -/
def Update.written : Update → Bool
  | gpuDevice _ v => v.timestampNs ≠ 0
  | _ => true

def Update.printed (u : Update) : Option DumpLine := if u.written then some u.line else none

/-! ### The dump -/

/-- What the calls of a dump answer. -/
structure DumpEnv where
  /-- An error of `LoadPinnedMap` on a file that is there. -/
  load : MapName → Option GoError := fun _ => none
  lookup : Option GoError := none
  /-- The iteration over a map ends with an error after some entries. -/
  stop : MapName → Option (ℕ × GoError) := fun _ => none
  perPidOrder : RangeOrder (UInt32 × PidMetricsAggregated) := .stored _
  perPidPerDeviceOrder : RangeOrder (UInt64 × PidMetrics) := .stored _

namespace DumpEnv

/-- `LoadPinnedMap` with the error of its callers. -/
def openPinned (env : DumpEnv) (pinDir : String) (n : MapName) (fs : Bpffs) : Except GoError Maps :=
  let path := join pinDir n.base
  match loadPinnedMap path fs with
  | none => .error (.wrapf ("open " ++ path.toString ++ ": %w") (.new "no such file or directory"))
  | some i =>
      match env.load n with
      | some err => .error (.wrapf ("open " ++ path.toString ++ ": %w") err)
      | none => .ok (fs.cell i)

/-- The entries of a map in the order of the iteration. -/
def visited (env : DumpEnv) (m : Maps) : MapName → List Update
  | .gpuMeta => [.gpuMeta m.gpuMeta]
  | .gpuDevice =>
      (List.finRange maxDevices).map (fun i => .gpuDevice (UInt32.ofNat i.1) (m.gpuDevice i))
  | .gpuPerPid => (GoMap.range env.perPidOrder m.gpuPerPid).map (fun e => .gpuPerPid e.1 e.2)
  | .gpuPerPidPerDevice =>
      (GoMap.range env.perPidPerDeviceOrder m.gpuPerPidPerDevice).map
        (fun e => .gpuPerPidPerDevice e.1 e.2)

/-- `for iter.Next(..)`: the entries it reaches, and `iter.Err()`. -/
def iterate (env : DumpEnv) (n : MapName) (entries : List Update) : List Update × Option GoError :=
  match env.stop n with
  | none => (entries, none)
  | some (k, err) => (entries.take k, some err)

/-- The dump of a map: title, entries, blank line. -/
def dumpMap (env : DumpEnv) (pinDir : String) (n : MapName) (title : String) (fs : Bpffs) :
    List DumpLine × Option GoError :=
  match env.openPinned pinDir n fs with
  | .error err => ([], some err)
  | .ok m =>
      let r := env.iterate n (env.visited m n)
      (.title title :: r.1.filterMap Update.printed ++ [.blank], r.2)

/-- `dumpMeta`. -/
def dumpMeta (env : DumpEnv) (pinDir : String) (fs : Bpffs) : List DumpLine × Option GoError :=
  match env.openPinned pinDir .gpuMeta fs with
  | .error err => ([], some err)
  | .ok m =>
      match env.lookup with
      | some err =>
          ([], some (.wrapf ("lookup " ++ (join pinDir MapName.gpuMeta.base).toString ++ ": %w") err))
      | none => ([.title "# gpu_meta", .gpuMeta m.gpuMeta, .blank], none)

/-- `dumpDevice`. -/
def dumpDevice (env : DumpEnv) (pinDir : String) (fs : Bpffs) : List DumpLine × Option GoError :=
  env.dumpMap pinDir .gpuDevice "# gpu_device" fs

/-- `dumpPerPid`. -/
def dumpPerPid (env : DumpEnv) (pinDir : String) (fs : Bpffs) : List DumpLine × Option GoError :=
  env.dumpMap pinDir .gpuPerPid "# gpu_per_pid" fs

/-- `dumpPerPidPerDevice`. -/
def dumpPerPidPerDevice (env : DumpEnv) (pinDir : String) (fs : Bpffs) :
    List DumpLine × Option GoError :=
  env.dumpMap pinDir .gpuPerPidPerDevice "# gpu_per_pid_per_device" fs

/-- What is printed until the first error. -/
def thenDump (a b : List DumpLine × Option GoError) : List DumpLine × Option GoError :=
  match a.2 with
  | some _ => a
  | none => (a.1 ++ b.1, b.2)

/-- `runDump`: what it prints, and its error. -/
def runDump (env : DumpEnv) (pinDir : String) (fs : Bpffs) : List DumpLine × Option GoError :=
  thenDump (env.dumpMeta pinDir fs)
    (thenDump (env.dumpDevice pinDir fs)
      (thenDump (env.dumpPerPid pinDir fs) (env.dumpPerPidPerDevice pinDir fs)))

/-! ### What a map contributes -/

theorem line_injective : Function.Injective Update.line := by
  intro u v h
  cases u <;> cases v <;> simp only [Update.line, DumpLine.gpuMeta.injEq, DumpLine.gpuDevice.injEq,
    DumpLine.gpuPerPid.injEq, DumpLine.gpuPerPidPerDevice.injEq, reduceCtorEq] at h
  · rw [h]
  · rw [h.1, h.2]
  · rw [h.1, h.2]
  · rw [splitKey_injective (Prod.ext h.1 h.2.1), h.2.2]

/-- A map is visited entry by entry. -/
theorem mem_visited {env : DumpEnv} {m : Maps} {n : MapName} {u : Update} :
    u ∈ env.visited m n ↔ u.slot.map = n ∧ m.read u.slot = some u := by
  cases n with
  | gpuMeta => cases u <;> simp [visited, Update.slot, Slot.map, Maps.read, eq_comm]
  | gpuDevice =>
      rw [visited, List.mem_map]
      cases u with
      | gpuDevice idx v =>
          rw [Update.slot, Slot.map, and_iff_right rfl]
          constructor
          · rintro ⟨i, -, hi⟩
            obtain ⟨rfl, rfl⟩ := Update.gpuDevice.inj hi
            have hnat : (UInt32.ofNat i.1).toNat = i.1 := by
              rw [UInt32.toNat_ofNat']
              exact Nat.mod_eq_of_lt (Nat.lt_trans i.2 (by decide))
            refine Maps.read_gpuDevice_eq.mpr ⟨by rw [hnat]; exact i.2, ?_⟩
            exact congrArg m.gpuDevice (Fin.ext hnat)
          · intro h
            obtain ⟨hlt, rfl⟩ := Maps.read_gpuDevice_eq.mp h
            exact ⟨⟨idx.toNat, hlt⟩, List.mem_finRange _, by rw [UInt32.ofNat_toNat]⟩
      | _ => simp [Update.slot, Slot.map]
  | gpuPerPid =>
      rw [visited, List.mem_map]
      cases u with
      | gpuPerPid pid v =>
          rw [Update.slot, Slot.map, and_iff_right rfl, Maps.read_gpuPerPid_eq,
            ← GoMap.mem_range (o := env.perPidOrder)]
          constructor
          · rintro ⟨⟨pid', v'⟩, h, he⟩
            obtain ⟨rfl, rfl⟩ := Update.gpuPerPid.inj he
            exact h
          · exact fun h => ⟨(pid, v), h, rfl⟩
      | _ => simp [Update.slot, Slot.map]
  | gpuPerPidPerDevice =>
      rw [visited, List.mem_map]
      cases u with
      | gpuPerPidPerDevice key v =>
          rw [Update.slot, Slot.map, and_iff_right rfl, Maps.read_gpuPerPidPerDevice_eq,
            ← GoMap.mem_range (o := env.perPidPerDeviceOrder)]
          constructor
          · rintro ⟨⟨key', v'⟩, h, he⟩
            obtain ⟨rfl, rfl⟩ := Update.gpuPerPidPerDevice.inj he
            exact h
          · exact fun h => ⟨(key, v), h, rfl⟩
      | _ => simp [Update.slot, Slot.map]

theorem visited_nodup (env : DumpEnv) (m : Maps) (n : MapName) : (env.visited m n).Nodup := by
  cases n with
  | gpuMeta => exact List.nodup_singleton _
  | gpuDevice =>
      refine (List.nodup_finRange _).map ?_
      intro i j h
      have hnat := congrArg UInt32.toNat (Update.gpuDevice.inj h).1
      rw [UInt32.toNat_ofNat', UInt32.toNat_ofNat', Nat.mod_eq_of_lt (Nat.lt_trans i.2 (by decide)),
        Nat.mod_eq_of_lt (Nat.lt_trans j.2 (by decide))] at hnat
      exact Fin.ext hnat
  | gpuPerPid =>
      refine (GoMap.range_nodup _ _).map ?_
      rintro ⟨pid, v⟩ ⟨pid', v'⟩ h
      obtain ⟨rfl, rfl⟩ := Update.gpuPerPid.inj h
      rfl
  | gpuPerPidPerDevice =>
      refine (GoMap.range_nodup _ _).map ?_
      rintro ⟨key, v⟩ ⟨key', v'⟩ h
      obtain ⟨rfl, rfl⟩ := Update.gpuPerPidPerDevice.inj h
      rfl

theorem filterMap_printed (l : List Update) :
    l.filterMap Update.printed = (l.filter Update.written).map Update.line := by
  induction l with
  | nil => rfl
  | cons v l ih =>
      rw [List.filterMap_cons, Update.printed, List.filter_cons, ih]
      split_ifs
      · rfl
      · rfl

/-- What a list of distinct entries prints. -/
theorem count_printed {l : List Update} (hl : l.Nodup) (u : Update) :
    (l.filterMap Update.printed).count u.line = if u.written ∧ u ∈ l then 1 else 0 := by
  rw [filterMap_printed, List.count_map_of_injective _ _ line_injective,
    (hl.filter _).count]
  refine if_congr ?_ rfl rfl
  rw [List.mem_filter]
  exact And.comm

/-- The lines of the detail records, as `GpuEbpfBridge.dumpPerPidPerDevice` lists them. -/
theorem printed_details (env : DumpEnv) (m : Maps) :
    (env.visited m .gpuPerPidPerDevice).filterMap Update.printed =
      (GpuEbpfBridge.dumpPerPidPerDevice env.perPidPerDeviceOrder m).map
        (fun e => .gpuPerPidPerDevice e.1.1 e.1.2 e.2) := by
  rw [filterMap_printed, List.filter_eq_self.mpr]
  · rw [visited, GpuEbpfBridge.dumpPerPidPerDevice, List.map_map, List.map_map]
    rfl
  · intro u hu
    obtain ⟨e, -, rfl⟩ := List.mem_map.mp hu
    rfl

theorem openPinned_ok {env : DumpEnv} {pinDir : String} {n : MapName} {fs : Bpffs} {m : Maps} :
    env.openPinned pinDir n fs = .ok m ↔
      env.load n = none ∧ ∃ i, loadPinnedMap (join pinDir n.base) fs = some i ∧ fs.cell i = m := by
  unfold openPinned
  simp only
  cases loadPinnedMap (join pinDir n.base) fs with
  | none => simp
  | some i => cases env.load n <;> simp

/-- The dump of a map shows its entries. -/
theorem count_dumpMap {env : DumpEnv} {pinDir : String} {n : MapName} {title : String} {fs : Bpffs}
    {i : ℕ} (hi : loadPinnedMap (join pinDir n.base) fs = some i)
    (h : (env.dumpMap pinDir n title fs).2 = none) (u : Update) :
    (env.dumpMap pinDir n title fs).1.count u.line =
      if u.written ∧ u.slot.map = n ∧ (fs.cell i).read u.slot = some u then 1 else 0 := by
  unfold dumpMap at h ⊢
  cases ho : env.openPinned pinDir n fs with
  | error err =>
      rw [ho] at h
      cases h
  | ok m =>
      rw [ho] at h
      simp only [iterate] at h ⊢
      obtain ⟨-, j, hj, rfl⟩ := openPinned_ok.mp ho
      obtain rfl : j = i := Option.some.inj (hj.symm.trans hi)
      cases hs : env.stop n with
      | some stop =>
          rw [hs] at h
          cases h
      | none =>
          have htitle : (DumpLine.title title == u.line) = false := by cases u <;> rfl
          have hblank : (DumpLine.blank == u.line) = false := by cases u <;> rfl
          simp only [List.cons_append, List.count_cons, List.count_append, List.count_nil, htitle,
            hblank, count_printed (visited_nodup env _ n), mem_visited]
          simp

/-- **The last part of a dump** that ends without error. -/
theorem dumpPerPidPerDevice_eq {env : DumpEnv} {pinDir : String} {fs : Bpffs} {i : ℕ}
    (hi : loadPinnedMap (join pinDir MapName.gpuPerPidPerDevice.base) fs = some i)
    {lines : List DumpLine} (h : env.dumpPerPidPerDevice pinDir fs = (lines, none)) :
    lines = .title "# gpu_per_pid_per_device" ::
      (GpuEbpfBridge.dumpPerPidPerDevice env.perPidPerDeviceOrder (fs.cell i)).map
        (fun e => .gpuPerPidPerDevice e.1.1 e.1.2 e.2) ++ [.blank] := by
  unfold dumpPerPidPerDevice dumpMap at h
  cases ho : env.openPinned pinDir .gpuPerPidPerDevice fs with
  | error err =>
      rw [ho] at h
      cases h
  | ok m =>
      obtain ⟨-, j, hj, rfl⟩ := openPinned_ok.mp ho
      obtain rfl : j = i := Option.some.inj (hj.symm.trans hi)
      rw [ho] at h
      unfold iterate at h
      cases hs : env.stop .gpuPerPidPerDevice with
      | some stop =>
          rw [hs] at h
          cases h
      | none =>
          rw [hs] at h
          simp only [printed_details] at h
          exact (Prod.mk.inj h).1.symm

theorem count_dumpMeta {env : DumpEnv} {pinDir : String} {fs : Bpffs} {i : ℕ}
    (hi : loadPinnedMap (join pinDir MapName.gpuMeta.base) fs = some i)
    (h : (env.dumpMeta pinDir fs).2 = none) (u : Update) :
    (env.dumpMeta pinDir fs).1.count u.line =
      if u.written ∧ u.slot.map = .gpuMeta ∧ (fs.cell i).read u.slot = some u then 1 else 0 := by
  unfold dumpMeta at h ⊢
  cases ho : env.openPinned pinDir .gpuMeta fs with
  | error err =>
      rw [ho] at h
      cases h
  | ok m =>
      rw [ho] at h
      simp only at h ⊢
      obtain ⟨-, j, hj, rfl⟩ := openPinned_ok.mp ho
      obtain rfl : j = i := Option.some.inj (hj.symm.trans hi)
      cases hl : env.lookup with
      | some err =>
          rw [hl] at h
          cases h
      | none =>
          cases u <;> simp [Update.line, Update.written, Update.slot, Slot.map, Maps.read, List.count_cons]

theorem thenDump_eq_none {a b : List DumpLine × Option GoError} :
    (thenDump a b).2 = none ↔ a.2 = none ∧ b.2 = none := by
  unfold thenDump
  cases h : a.2 <;> simp [h]

theorem thenDump_of_none {a b : List DumpLine × Option GoError} (h : a.2 = none) :
    (thenDump a b).1 = a.1 ++ b.1 := by
  unfold thenDump
  rw [h]

/-- What a dump without error prints, by the maps behind the files. -/
theorem count_runDump {env : DumpEnv} {pinDir : String} {fs : Bpffs} {objs : MapName → ℕ}
    (hpins : ∀ n, loadPinnedMap (join pinDir (MapName.base n)) fs = some (objs n))
    {lines : List DumpLine} (h : env.runDump pinDir fs = (lines, none)) (u : Update) :
    lines.count u.line =
      if u.written ∧ (fs.cell (objs u.slot.map)).read u.slot = some u then 1 else 0 := by
  have hnone : (env.runDump pinDir fs).2 = none := by rw [h]
  have hlines : (env.runDump pinDir fs).1 = lines := by rw [h]
  unfold runDump at hnone hlines
  obtain ⟨hmeta, hrest⟩ := thenDump_eq_none.mp hnone
  obtain ⟨hdevice, hrest'⟩ := thenDump_eq_none.mp hrest
  obtain ⟨hpid, hdetail⟩ := thenDump_eq_none.mp hrest'
  rw [thenDump_of_none hmeta, thenDump_of_none hdevice, thenDump_of_none hpid] at hlines
  rw [← hlines, List.count_append, List.count_append, List.count_append,
    count_dumpMeta (hpins .gpuMeta) hmeta, dumpDevice, count_dumpMap (hpins .gpuDevice) hdevice,
    dumpPerPid, count_dumpMap (hpins .gpuPerPid) hpid, dumpPerPidPerDevice,
    count_dumpMap (hpins .gpuPerPidPerDevice) hdetail]
  -- the entry is in one of the four maps
  cases u <;> simp only [Update.slot, Slot.map, reduceCtorEq, true_and, false_and, and_false, if_false,
    Nat.add_zero, Nat.zero_add] <;> exact if_congr Iff.rfl rfl rfl

theorem read_view (b : PinnedBridge) (fs : Bpffs) (k : Slot) :
    (b.view fs).read k = (fs.cell (b.objs k.map)).read k := by
  cases k <;> rfl

/-- **A dump shows the maps.**  A dump during which nobody writes and that ends without error, whatever
the order of the iterations, has one line for each entry that the maps behind the files hold, and no
other; of the device slots it shows those that have been written. -/
theorem runDump_exact {env : DumpEnv} {pinDir : String} {fs : Bpffs} {b : PinnedBridge}
    (hpins : ∀ n, loadPinnedMap (join pinDir (MapName.base n)) fs = some (b.objs n))
    {lines : List DumpLine} (h : env.runDump pinDir fs = (lines, none)) (u : Update) :
    lines.count u.line = if u.written ∧ (b.view fs).read u.slot = some u then 1 else 0 := by
  rw [count_runDump hpins h, read_view]

theorem dumpMap_snd (env : DumpEnv) (pinDir : String) (n : MapName) (title : String) (fs : Bpffs) :
    (env.dumpMap pinDir n title fs).2 = none ↔
      env.load n = none ∧ (loadPinnedMap (join pinDir n.base) fs).isSome ∧ env.stop n = none := by
  unfold dumpMap openPinned iterate
  simp only
  cases loadPinnedMap (join pinDir n.base) fs with
  | none => simp
  | some i =>
      cases env.load n with
      | some err => simp
      | none =>
          cases env.stop n with
          | none => simp
          | some stop => simp

/-- A dump ends without error exactly if all files are there and no call fails. -/
theorem runDump_snd (env : DumpEnv) (pinDir : String) (fs : Bpffs) :
    (env.runDump pinDir fs).2 = none ↔
      (∀ n, env.load n = none ∧ (loadPinnedMap (join pinDir (MapName.base n)) fs).isSome) ∧
        env.lookup = none ∧ ∀ n, n ≠ .gpuMeta → env.stop n = none := by
  have hmeta : (env.dumpMeta pinDir fs).2 = none ↔
      env.load .gpuMeta = none ∧ (loadPinnedMap (join pinDir MapName.gpuMeta.base) fs).isSome ∧
        env.lookup = none := by
    unfold dumpMeta openPinned
    simp only
    cases loadPinnedMap (join pinDir MapName.gpuMeta.base) fs with
    | none => simp
    | some i =>
        cases env.load .gpuMeta with
        | some err => simp
        | none => cases env.lookup <;> simp
  rw [runDump, thenDump_eq_none, thenDump_eq_none, thenDump_eq_none, hmeta, dumpDevice, dumpPerPid,
    dumpPerPidPerDevice, dumpMap_snd, dumpMap_snd, dumpMap_snd]
  constructor
  · rintro ⟨⟨hm, hm', hl⟩, ⟨hd, hd', hds⟩, ⟨hp, hp', hps⟩, hk, hk', hks⟩
    refine ⟨fun n => ?_, hl, fun n hn => ?_⟩
    · cases n
      · exact ⟨hm, hm'⟩
      · exact ⟨hd, hd'⟩
      · exact ⟨hp, hp'⟩
      · exact ⟨hk, hk'⟩
    · cases n
      · exact absurd rfl hn
      · exact hds
      · exact hps
      · exact hks
  · rintro ⟨hload, hl, hstop⟩
    exact ⟨⟨(hload _).1, (hload _).2, hl⟩, ⟨(hload _).1, (hload _).2, hstop _ (by decide)⟩,
      ⟨(hload _).1, (hload _).2, hstop _ (by decide)⟩, (hload _).1, (hload _).2,
      hstop _ (by decide)⟩

/-- A detail record of process 7. -/
def onDevice1 : PidMetrics :=
  { timestampNs := 5, usedGpuMemory := 10, smUtilPct := 0, memUtilPct := 0, encUtilPct := 0
    decUtilPct := 0, gpuDevice := 1, migInstance := 0 }

/-- What a bridge went on to publish: device 1 and a process there. -/
def laterChanges : List Event :=
  [.change 0 false (.store (.gpuDevice 1 { timestampNs := 5 })),
    .change 0 false (.store (.gpuPerPidPerDevice (perPidPerDeviceKey 7 1) onDevice1))]

/-- Its dump shows the process and device 1, and leaves out the device that was never written. -/
theorem runDump_exact_oneBridge :
    let fs := (reach Host.step oneBridge laterChanges).fs
    ∃ lines, runDump {} "/sys/fs/bpf" fs = (lines, none) ∧
      lines.count (.gpuMeta { nDevices := 2 }) = 1 ∧
      lines.count (.gpuDevice 1 { timestampNs := 5 }) = 1 ∧ lines.count (.gpuDevice 0 {}) = 0 ∧
      lines.count (.gpuPerPidPerDevice 7 1 onDevice1) = 1 := by
  intro fs
  obtain ⟨b, -, hdir, -, hpin⟩ := oneBridge_pins
  have hpins : ∀ n, loadPinnedMap (join "/sys/fs/bpf" (MapName.base n)) fs = some (b.objs n) := by
    intro n
    rw [← hdir]
    refine (loadPinnedMap_reach_iff (hpin n) laterChanges).mpr ?_
    refine not_removes_of_forall_mem fun e he s => ?_
    rcases List.mem_pair.mp he with rfl | rfl
    · exact id
    · exact id
  have hnone : (runDump {} "/sys/fs/bpf" fs).2 = none := by
    refine (runDump_snd {} "/sys/fs/bpf" fs).mpr ⟨fun n => ⟨rfl, ?_⟩, rfl, fun _ _ => rfl⟩
    rw [hpins n]
    rfl
  have h := fun u => runDump_exact hpins (Prod.ext rfl hnone) u
  have hread : ∀ u i, loadPinnedMap (join "/sys/fs/bpf" u.slot.map.base) fs = some i →
      (fs.cell i).read u.slot = some u → (b.view fs).read u.slot = some u := by
    intro u i hi hu
    rw [read_view, ← Option.some.inj (hi.symm.trans (hpins u.slot.map))]
    exact hu
  have hmeta := hread (.gpuMeta { nDevices := 2 }) 1 (by decide +kernel) (by decide +kernel)
  have hdevice := hread (.gpuDevice 1 { timestampNs := 5 }) 0 (by decide +kernel) (by decide +kernel)
  have hdetail := hread (.gpuPerPidPerDevice (perPidPerDeviceKey 7 1) onDevice1) 3
    (by decide +kernel) (by decide +kernel)
  have hunwritten : ¬ (Update.gpuDevice 0 {}).written = true := by decide
  have hline : (Update.gpuPerPidPerDevice (perPidPerDeviceKey 7 1) onDevice1).line =
      .gpuPerPidPerDevice 7 1 onDevice1 := by
    decide +kernel
  refine ⟨_, Prod.ext rfl hnone, (h (.gpuMeta { nDevices := 2 })).trans (if_pos ⟨rfl, hmeta⟩),
    (h (.gpuDevice 1 { timestampNs := 5 })).trans (if_pos ⟨by decide, hdevice⟩),
    (h (.gpuDevice 0 {})).trans (if_neg (fun hw => hunwritten hw.1)), ?_⟩
  rw [← hline]
  exact (h _).trans (if_pos ⟨rfl, hdetail⟩)

end DumpEnv

end GpuEbpfBridge
