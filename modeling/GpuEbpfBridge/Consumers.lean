import GpuEbpfBridge.Board
import GpuEbpfBridge.Executions
import GpuEbpfBridge.Records

/-! # What a consumer reads

A consumer opens the file of a map, looks a key up and reads the fields of the bytes it gets by the
structs of `gpu_types.h`.  Between the record that the poller made and the number that the consumer
reads stand the `Update` call, the descriptor, the file and the layout of the struct.  `consumer_reads`
takes a value all the way, at any moment of any execution of the command after any others; for `--dump`
between two executions `dump_shows` does. -/

namespace GpuEbpfBridge

open Lib Layout

/-! ### The bytes of an entry -/

/-- The bytes that an update hands to the kernel. -/
def Update.bytes : Update → List UInt8
  | .gpuMeta v => metaFormat.encode v
  | .gpuDevice _ v => deviceFormat.encode v
  | .gpuPerPid _ v => aggregatedFormat.encode v
  | .gpuPerPidPerDevice _ v => pidFormat.encode v

/-- The bytes, read by the structs of `gpu_types.h`, show the record of the update. -/
def Update.ShownBy (bytes : List UInt8) : Update → Prop
  | .gpuMeta v => ∀ f ∈ metaHeader, readField metaHeader f.name bytes = some (v.get f.name)
  | .gpuDevice _ v => ∀ f ∈ deviceHeader, readField deviceHeader f.name bytes = some (v.get f.name)
  | .gpuPerPid _ v =>
      ∀ f ∈ aggregatedHeader, readField aggregatedHeader f.name bytes = some (v.get f.name)
  | .gpuPerPidPerDevice _ v => ∀ f ∈ pidHeader, readField pidHeader f.name bytes = some (v.get f.name)

theorem Update.shownBy_bytes (u : Update) : u.ShownBy u.bytes := by
  cases u with
  | gpuMeta v => exact (metaFormat.faithful v).consumer
  | gpuDevice idx v => exact (deviceFormat.faithful v).consumer
  | gpuPerPid pid v => exact (aggregatedFormat.faithful v).consumer
  | gpuPerPidPerDevice key v => exact (pidFormat.faithful v).consumer

/-! ### The way to the entry -/

/-- A lookup through a file; the slot is the key and says which map the consumer takes it for. -/
def lookupElem (fs : Bpffs) (path : Path) (k : Slot) : Option (List UInt8) :=
  (loadPinnedMap path fs).bind (fun i => ((fs.cell i).read k).map Update.bytes)

theorem Maps.read_only (m : Maps) (k : Slot) : (m.only k.map).read k = m.read k := by
  cases k <;> rfl

theorem read_congr_only {m m' : Maps} {k : Slot} (h : m.only k.map = m'.only k.map) :
    m.read k = m'.read k := by
  rw [← m.read_only, h, m'.read_only]

/-- The updates of some ticks, through the descriptors of a bridge. -/
def PinnedBridge.replayTicks {ε σ : Type} (b : PinnedBridge) (S : Source ε σ) (s : State σ)
    (envs : List (TickEnv ε)) (fs : Bpffs) : Bpffs :=
  b.replay ((outcomes S s envs).map (fun o => o.issued)).flatten fs

/-- What is found for an entry that is there. -/
theorem exists_of_rel_some {α β : Type} {r : α → β → Prop} {a : α} {o : Option β}
    (h : Option.Rel r (some a) o) : ∃ b, o = some b ∧ r a b := by
  cases h with
  | some hr => exact ⟨_, rfl, hr⟩

section consumers

variable {δ ε σ : Type}

/-- The lookup through the file of a bridge shows what the bridge holds. -/
theorem lookupElem_path {b : PinnedBridge} {fs : Bpffs} {k : Slot}
    (hname : fs.names (b.path k.map) = some (b.objs k.map)) :
    lookupElem fs (b.path k.map) k = ((b.view fs).read k).map Update.bytes := by
  have hread : (fs.cell (b.objs k.map)).read k = (b.view fs).read k :=
    read_congr_only (b.only_view fs k.map).symm
  rw [lookupElem, loadPinnedMap, hname, Option.bind_some, hread]

/-- **What a consumer reads.**  A bridge that was opened after any executions of the command runs any
ticks over any backend, whatever calls and updates fail, and the kernel evicts nothing.  Then a
consumer that opens the file of a map finds under a key the record that the last tick which wrote this
entry published there, field by field; where no tick wrote it the one that the executions before left,
and where these left none the zeroes of an ARRAY slot, or nothing. -/
theorem consumer_reads (S : Source ε σ) (es : List (Execution δ)) {openEnv : OpenEnv}
    {pinDir : String} {b : PinnedBridge} {fs : Bpffs}
    (h : mapsOpen openEnv pinDir (filesAfter es) = (.ok b, fs)) (s₀ : State σ)
    (hs : s₀.objs = b.view fs) (envs : List (TickEnv ε)) (hr : ∀ r ∈ reports S s₀ envs, r.Regular)
    (k : Slot) :
    Option.Rel (fun u bytes => Update.ShownBy bytes u)
      ((((reports S s₀ envs).filter (fun r => r.wrote k)).getLast?.map
        (fun r => r.publication k)).getD
          ((Maps.empty.storeAll (sinceUnpin es (clean (pinDirOf pinDir)) k.map)).read k))
      (lookupElem (b.replayTicks S s₀ envs fs) (join (pinDirOf pinDir) k.map.base) k) := by
  have hok : (mapsOpen openEnv pinDir (filesAfter es)).1 = .ok b := by rw [h]
  obtain ⟨hdirb, hlive, hnames⟩ := mapsOpen_ok hok
  rw [h] at hnames
  have hview : b.view (b.replayTicks S s₀ envs fs) = (reach (step S) s₀ envs).objs := by
    rw [run_objs, hs]
    exact PinnedBridge.view_replay hlive (fun u hu => inRange_of_mem_outcomes hu)
      (fun n => fs.names_lt (hnames n))
  have hname : (b.replayTicks S s₀ envs fs).names (b.path k.map) = some (b.objs k.map) := by
    rw [PinnedBridge.replayTicks, (b.replay_frame _ fs).1, hnames]
  have hpath : join (pinDirOf pinDir) k.map.base = b.path k.map := by
    rw [PinnedBridge.path, hdirb]
  rw [hpath, lookupElem_path hname, hview, run_posts S s₀ envs hr, postAll_apply, hs,
    read_congr_only (start_finds h k.map)]
  cases (((reports S s₀ envs).filter (fun r => r.wrote k)).getLast?.map
      (fun r => r.publication k)).getD
        ((Maps.empty.storeAll (sinceUnpin es (clean (pinDirOf pinDir)) k.map)).read k) with
  | none => exact .none
  | some u => exact .some u.shownBy_bytes

/-- A bridge on a fresh host runs `refusedDetail`; a BPF program then reads the memory total of
process 7. -/
theorem consumer_reads_refusedDetail :
    ∃ b fs bytes, mapsOpen {} "" (filesAfter ([] : List (Execution ℕ))) = (.ok b, fs) ∧
      lookupElem (b.replayTicks fakeNvml (State.initial () 1) refusedDetail fs)
        (join (pinDirOf "") "gpu_per_pid") (.gpuPerPid 7) = some bytes ∧
      readField aggregatedHeader .usedGpuMemoryTotal bytes = some 70 := by
  obtain ⟨b, fs, h⟩ : ∃ b fs, mapsOpen {} "" (filesAfter ([] : List (Execution ℕ))) = (.ok b, fs) := by
    obtain ⟨b, hb⟩ := (mapsOpen_isOk_iff {} "" (filesAfter ([] : List (Execution ℕ)))).mpr
      ⟨rfl, rfl, fun _ => rfl⟩
    exact ⟨b, _, Prod.ext hb rfl⟩
  have hempty : b.view fs = Maps.empty := Maps.ext_only (start_finds h)
  have hr : ∀ r ∈ reports fakeNvml (State.initial () 1) refusedDetail, r.Regular := by
    intro r hr
    have hlen : r.samples.length < 256 ∧ (r.devs.map (fun d => d.index)).Nodup := by
      revert r
      decide +kernel
    exact Report.regular_of_length hlen.2 hlen.1
  have hrel := consumer_reads fakeNvml [] h (State.initial () 1) hempty.symm refusedDetail hr
    (.gpuPerPid 7)
  have hposted : (((reports fakeNvml (State.initial () 1) refusedDetail).filter
      (fun r => r.wrote (.gpuPerPid 7))).getLast?.map (fun r => r.publication (.gpuPerPid 7))).getD
        ((Maps.empty.storeAll (sinceUnpin ([] : List (Execution ℕ)) (clean (pinDirOf ""))
          (Slot.gpuPerPid 7).map)).read (.gpuPerPid 7)) =
      some (.gpuPerPid 7 (pidRecord refusedDetail[1].source.2 7)) := by
    decide +kernel
  rw [hposted] at hrel
  obtain ⟨bytes, hbytes, hshown⟩ := exists_of_rel_some hrel
  have hfield : readField aggregatedHeader .usedGpuMemoryTotal bytes =
      some ((pidRecord refusedDetail[1].source.2 7).get .usedGpuMemoryTotal) :=
    hshown (scalar .usedGpuMemoryTotal 8) (by decide)
  have hvalue : (pidRecord refusedDetail[1].source.2 7).get .usedGpuMemoryTotal = 70 := by
    decide +kernel
  exact ⟨b, fs, bytes, h, hbytes, by rw [hfield, hvalue]⟩

/-- The maps behind the files of a directory. -/
theorem read_cell_filesAfter {es : List (Execution δ)} {pinDir : String} {k : Slot} {i : ℕ}
    (hi : loadPinnedMap (join pinDir k.map.base) (filesAfter es) = some i) :
    ((filesAfter es).cell i).read k =
      (Maps.empty.storeAll (sinceUnpin es (clean pinDir) k.map)).read k := by
  apply read_congr_only
  rw [← held_filesAfter es pinDir k.map, Registry.held_of_some hi]

/-- **What `--dump` prints**, while nobody writes.  After any executions of the command, without LRU
eviction, a dump of a directory that ends without error has one line for each entry that these have left
in the directory since its file was last removed, and no other line but the titles; of the device slots
it shows those whose stamp is not 0, and of `gpu_meta` the zeroes too that no execution has replaced. -/
theorem dump_shows (es : List (Execution δ)) {env : DumpEnv} {pinDir : String}
    {lines : List DumpLine} (h : env.runDump pinDir (filesAfter es) = (lines, none)) (u : Update) :
    lines.count u.line =
      if u.written ∧
        (Maps.empty.storeAll (sinceUnpin es (clean pinDir) u.slot.map)).read u.slot = some u
      then 1 else 0 := by
  have hnone : (env.runDump pinDir (filesAfter es)).2 = none := by rw [h]
  obtain ⟨hfiles, -, -⟩ := (DumpEnv.runDump_snd env pinDir (filesAfter es)).mp hnone
  choose objs hobjs using fun n => Option.isSome_iff_exists.mp (hfiles n).2
  rw [DumpEnv.count_runDump hobjs h, read_cell_filesAfter (hobjs _)]

/-- An execution whose one tick samples process 7 on device 0. -/
def busyRun : RunEnv ℕ :=
  { workingRun with
    loop :=
      { workingRun.loop with
        initial :=
          { source :=
              ({ workingNvml with
                  device := fun _ =>
                    { getProcessUtilization := fun _ =>
                        ([{ pid := 7, timeStamp := 4, smUtil := 30 }], .success) }
                  devicesNow := 5
                  samplesNow := 6 },
                { devicesNow := 5, samplesNow := 6 })
            now := 7 } } }

/-- After it, with `--keep-pins`, a dump shows the process, the device and the metadata, and leaves
out the devices that were never written. -/
theorem dump_shows_keepPins :
    ∃ lines, DumpEnv.runDump {} "/sys/fs/bpf"
        (filesAfter [{ env := busyRun, keepPins := true }]) = (lines, none) ∧
      lines.count (.gpuMeta { schemaVersion := 1, nDevices := 1, lastUpdateNs := 7, helperPid := 1 }) =
        1 ∧
      lines.count (.gpuDevice 0 { timestampNs := 5 }) = 1 ∧ lines.count (.gpuDevice 1 {}) = 0 ∧
      lines.count (Update.gpuPerPidPerDevice (perPidPerDeviceKey 7 0)
        { timestampNs := 6, usedGpuMemory := 0, smUtilPct := 30, memUtilPct := 0, encUtilPct := 0
          decUtilPct := 0, gpuDevice := 0, migInstance := 0 }).line = 1 := by
  have hfiles : ∀ n ∈ mapFields, (loadPinnedMap (join "/sys/fs/bpf" (MapName.base n))
      (filesAfter [{ env := busyRun, keepPins := true }])).isSome = true := by
    decide +kernel
  have hnone : (DumpEnv.runDump {} "/sys/fs/bpf"
      (filesAfter [{ env := busyRun, keepPins := true }])).2 = none :=
    (DumpEnv.runDump_snd _ _ _).mpr
      ⟨fun n => ⟨rfl, hfiles n (by cases n <;> decide)⟩, rfl, fun _ _ => rfl⟩
  obtain ⟨lines, hlines⟩ : ∃ lines, DumpEnv.runDump {} "/sys/fs/bpf"
      (filesAfter [{ env := busyRun, keepPins := true }]) = (lines, none) :=
    ⟨_, Prod.ext rfl hnone⟩
  have hshows := dump_shows [{ env := busyRun, keepPins := true }] hlines
  refine ⟨lines, hlines, ?_, ?_, ?_, ?_⟩
  · exact (hshows (.gpuMeta _)).trans (by decide +kernel)
  · exact (hshows (.gpuDevice 0 _)).trans (by decide +kernel)
  · exact (hshows (.gpuDevice 1 {})).trans (by decide +kernel)
  · exact (hshows _).trans (by decide +kernel)

end consumers

end GpuEbpfBridge
