import GpuEbpfBridge.Lib.Registry
import GpuEbpfBridge.Maps

/-! # Pins (`Open`, `Close`, `Unpin` in `internal/maps/maps.go`)

The maps of a bridge live in the kernel, and files under the pin directory refer to them.  `Bpffs` is
the registry of these files: `Open` takes the map that each file refers to, or creates one, `Unpin`
removes the files, and both leave the maps to the programs that hold them.  A cell of the registry
holds a `Maps`, of which the map of a name uses its own field alone.

`PinnedBridge` is `maps.Bridge` with its file descriptors.  What `LoadAndAssign`, `os.Remove` and the
kernel answer is open call by call.  Paths are compared after `filepath.Clean`: links, and relative
paths of processes in different directories, are left out. -/

namespace GpuEbpfBridge

open Lib

/-! ### Paths -/

/-- A path after `filepath.Clean`. -/
structure Path where
  rooted : Bool
  elems : List (List Char)
deriving DecidableEq, Repr

/-- One element of a path after `done`, of which the last comes first. -/
def Path.push (rooted : Bool) (done : List (List Char)) : List Char → List (List Char)
  | [] => done
  | ['.'] => done
  | ['.', '.'] =>
      match done with
      | [] => if rooted then [] else [['.', '.']]
      | ['.', '.'] :: rest => ['.', '.'] :: ['.', '.'] :: rest
      | _ :: rest => rest
  | e => e :: done

/-- `filepath.Clean`. -/
def clean (path : String) : Path :=
  let rooted := decide (path.toList.head? = some '/')
  ⟨rooted, ((path.toList.splitOn '/').foldl (Path.push rooted) []).reverse⟩

/-- `filepath.Join` of a directory and a name. -/
def join (dir name : String) : Path := if dir = "" then clean name else clean (dir ++ "/" ++ name)

/-- The path as text. -/
def Path.toString (p : Path) : String :=
  let body := String.ofList (['/'].intercalate p.elems)
  if p.rooted then "/" ++ body else if p.elems = [] then "." else body

/-- The four maps. -/
inductive MapName where
  | gpuMeta
  | gpuDevice
  | gpuPerPid
  | gpuPerPidPerDevice
deriving DecidableEq, Repr

/-- `MapNameMeta` and the others: the names of the files. -/
def MapName.base : MapName → String
  | gpuMeta => "gpu_meta"
  | gpuDevice => "gpu_device"
  | gpuPerPid => "gpu_per_pid"
  | gpuPerPidPerDevice => "gpu_per_pid_per_device"

theorem MapName.base_injective : Function.Injective MapName.base := by
  intro n n' h
  cases n <;> cases n' <;> first | rfl | exact absurd h (by decide)

/-- The name of a map becomes the last element of its path. -/
theorem join_base (dir : String) (n : MapName) :
    join dir n.base = ⟨(clean dir).rooted, (clean dir).elems ++ [n.base.toList]⟩ := by
  by_cases hdir : dir = ""
  · subst hdir
    cases n <;> rfl
  have hplain : n.base.toList.splitOn '/' = [n.base.toList] := by cases n <;> rfl
  have hpush : ∀ rooted done, Path.push rooted done n.base.toList = n.base.toList :: done := by
    intro rooted done
    cases n <;> rfl
  have hlist : dir.toList ≠ [] := fun h => hdir (String.toList_eq_nil_iff.mp h)
  have hhead : (dir.toList ++ '/' :: n.base.toList).head? = dir.toList.head? :=
    List.head?_append_of_ne_nil _ hlist
  have htext : (dir ++ "/" ++ n.base).toList = dir.toList ++ '/' :: n.base.toList := by simp
  rw [join, if_neg hdir, clean, htext, hhead, List.splitOn_append_cons_self, hplain]
  simp only [List.foldl_append, List.foldl_cons, List.foldl_nil, hpush, List.reverse_cons]
  rfl

/-- Two paths are the same exactly if the directories and the names are. -/
theorem join_base_inj {dir dir' : String} {n n' : MapName} :
    join dir n.base = join dir' n'.base ↔ clean dir = clean dir' ∧ n = n' := by
  rw [join_base, join_base]
  constructor
  · intro h
    obtain ⟨hr, he⟩ := Path.mk.inj h
    obtain ⟨hd, hn⟩ := List.append_inj' he rfl
    refine ⟨?_, MapName.base_injective (String.toList_inj.mp (List.singleton_inj.mp hn))⟩
    cases hc : clean dir
    cases hc' : clean dir'
    rw [hc, hc'] at hr hd
    exact congrArg₂ Path.mk hr hd
  · rintro ⟨h, rfl⟩
    rw [h]

/-! ### Changes of a map -/

def Slot.map : Slot → MapName
  | .gpuMeta => .gpuMeta
  | .gpuDevice _ => .gpuDevice
  | .gpuPerPid _ => .gpuPerPid
  | .gpuPerPidPerDevice _ => .gpuPerPidPerDevice

/-- A call that changes a map: `Map.Update`, or one of the two `Map.Delete`. -/
inductive Change where
  | store (u : Update)
  | erasePerPid (pid : UInt32)
  | erasePerPidPerDevice (key : UInt64)
deriving DecidableEq, Repr

namespace Change

def map : Change → MapName
  | store u => u.slot.map
  | erasePerPid _ => .gpuPerPid
  | erasePerPidPerDevice _ => .gpuPerPidPerDevice

/-- The kernel refuses an index out of range; a key to delete may be missing. -/
def inRange : Change → Bool
  | store u => u.inRange
  | _ => true

/-- The maps after the change. -/
def apply (m : Maps) : Change → Maps
  | store u => m.store u
  | erasePerPid pid => { m with gpuPerPid := m.gpuPerPid.erase pid }
  | erasePerPidPerDevice key => { m with gpuPerPidPerDevice := m.gpuPerPidPerDevice.erase key }

end Change

/-- The map of a name alone. -/
def Maps.only (m : Maps) : MapName → Maps
  | .gpuMeta => { Maps.empty with gpuMeta := m.gpuMeta }
  | .gpuDevice => { Maps.empty with gpuDevice := m.gpuDevice }
  | .gpuPerPid => { Maps.empty with gpuPerPid := m.gpuPerPid }
  | .gpuPerPidPerDevice => { Maps.empty with gpuPerPidPerDevice := m.gpuPerPidPerDevice }

theorem Maps.ext_only {m m' : Maps} (h : ∀ n, m.only n = m'.only n) : m = m' := by
  have hm := (Maps.mk.inj (h .gpuMeta)).1
  have hd := (Maps.mk.inj (h .gpuDevice)).2.1
  have hp := (Maps.mk.inj (h .gpuPerPid)).2.2.1
  have hk := (Maps.mk.inj (h .gpuPerPidPerDevice)).2.2.2
  cases m
  cases m'
  simp only at hm hd hp hk
  rw [hm, hd, hp, hk]

/-- A change sees and changes its own map alone. -/
theorem Change.only_apply (c : Change) (m : Maps) (n : MapName) :
    (c.apply m).only n = if c.map = n then (c.apply (m.only n)).only n else m.only n := by
  rcases c with (v | ⟨idx, v⟩ | ⟨pid, v⟩ | ⟨key, v⟩) | pid | key <;> cases n <;> rfl

/-! ### The bridge and its files -/

/-- The files under the pin directories, and the maps in the kernel. -/
abbrev Bpffs := Registry Path Maps.empty

/-- `maps.Bridge`: the map of each descriptor, and whether the descriptor is still open. -/
structure PinnedBridge where
  pinDir : String
  objs : MapName → ℕ
  live : MapName → Bool := fun _ => true

/-- The file of a map. -/
def PinnedBridge.path (b : PinnedBridge) (n : MapName) : Path := join b.pinDir n.base

/-- What the calls under `maps.Open` answer. -/
structure OpenEnv where
  mkdirAll : Option GoError := none
  loadCollectionSpec : Option GoError := none
  /-- The error of `LoadAndAssign` at a map, before the file of this map is made. -/
  load : MapName → Option GoError := fun _ => none

/-- The fields of `gputypesMaps`, in order. -/
def mapFields : List MapName := [.gpuDevice, .gpuMeta, .gpuPerPid, .gpuPerPidPerDevice]

/-- `LoadAndAssign`: map by map, what the file refers to or a new map. -/
def loadAndAssign (load : MapName → Option GoError) (dir : String) :
    List MapName → (MapName → ℕ) → Bpffs → Except GoError (MapName → ℕ) × Bpffs
  | [], objs, fs => (.ok objs, fs)
  | n :: ns, objs, fs =>
      match load n with
      | some err => (.error err, fs)
      | none =>
          let r := fs.acquire (join dir n.base)
          loadAndAssign load dir ns (Function.update objs n r.1) r.2

/-- `loadGputypesObjects`. -/
def loadGputypesObjects (env : OpenEnv) (dir : String) (fs : Bpffs) :
    Except GoError (MapName → ℕ) × Bpffs :=
  match env.loadCollectionSpec with
  | some err => (.error (.wrapf "can't load gputypes: %w" err), fs)
  | none => loadAndAssign env.load dir mapFields (fun _ => 0) fs

/-- `DefaultPinDir`. -/
def defaultPinDir : String := "/sys/fs/bpf"

/-- The directory that `Open` takes. -/
def pinDirOf (pinDir : String) : String := if pinDir = "" then defaultPinDir else pinDir

/-- `maps.Open`. -/
def mapsOpen (env : OpenEnv) (pinDir : String) (fs : Bpffs) : Except GoError PinnedBridge × Bpffs :=
  let dir := pinDirOf pinDir
  match env.mkdirAll with
  | some err => (.error (.wrapf ("ensuring pin dir " ++ dir ++ ": %w") err), fs)
  | none =>
      match loadGputypesObjects env dir fs with
      | (.error err, fs) =>
          (.error (.wrapf ("loading BPF object and pinning maps in " ++ dir ++ ": %w") err), fs)
      | (.ok objs, fs) => (.ok ⟨dir, objs, fun _ => true⟩, fs)

/-- `ebpf.LoadPinnedMap`; `none` is `ENOENT`. -/
def loadPinnedMap (path : Path) (fs : Bpffs) : Option ℕ := fs.names path

namespace PinnedBridge

/-- The maps of the bridge. -/
def view (b : PinnedBridge) (fs : Bpffs) : Maps where
  gpuMeta := (fs.cell (b.objs .gpuMeta)).gpuMeta
  gpuDevice := (fs.cell (b.objs .gpuDevice)).gpuDevice
  gpuPerPid := (fs.cell (b.objs .gpuPerPid)).gpuPerPid
  gpuPerPidPerDevice := (fs.cell (b.objs .gpuPerPidPerDevice)).gpuPerPidPerDevice

theorem only_view (b : PinnedBridge) (fs : Bpffs) (n : MapName) :
    (b.view fs).only n = (fs.cell (b.objs n)).only n := by
  cases n <;> rfl

/-- Whether a call reaches the map and the kernel takes it; `fault` is a reason of its own. -/
def takes (b : PinnedBridge) (fault : Bool) (c : Change) : Bool :=
  b.live c.map && !fault && c.inRange

/-- A call that changes a map of the bridge. -/
def change (b : PinnedBridge) (fault : Bool) (c : Change) (fs : Bpffs) : Option GoError × Bpffs :=
  if !b.live c.map then (some (.new "bad file descriptor"), fs)
  else if fault then (some (.new "update failed"), fs)
  else if c.inRange then (none, fs.write (b.objs c.map) (fun m => c.apply m))
  else (some (.new "argument list too long"), fs)

/-- `DeletePerPid`; `ErrKeyNotExist` is no error. -/
def deletePerPid (b : PinnedBridge) (fault : Bool) (pid : UInt32) (fs : Bpffs) :
    Option GoError × Bpffs :=
  b.change fault (.erasePerPid pid) fs

/-- `DeletePerPidPerDevice`; `ErrKeyNotExist` is no error. -/
def deletePerPidPerDevice (b : PinnedBridge) (fault : Bool) (pid devIdx : UInt32) (fs : Bpffs) :
    Option GoError × Bpffs :=
  b.change fault (.erasePerPidPerDevice (perPidPerDeviceKey pid devIdx)) fs

/-- `_GputypesClose`: the first error ends the loop; a descriptor is gone after `Close` in any case. -/
def closeAll (err : MapName → Option GoError) : List MapName → PinnedBridge →
    Option GoError × PinnedBridge
  | [], b => (none, b)
  | n :: ns, b =>
      let closed := { b with live := Function.update b.live n false }
      match if b.live n then err n else none with
      | some e => (some e, closed)
      | none => closeAll err ns closed

/-- `Bridge.Close`. -/
def close (err : MapName → Option GoError) (b : PinnedBridge) : Option GoError × PinnedBridge :=
  closeAll err mapFields b

/-- The files in the order in which `Unpin` removes them. -/
def unpinNames : List MapName := [.gpuMeta, .gpuDevice, .gpuPerPid, .gpuPerPidPerDevice]

/-- The loop of `Unpin`; `remove` is the error of `os.Remove` other than `os.ErrNotExist`. -/
def removeAll (b : PinnedBridge) (remove : MapName → Option GoError) :
    List MapName → List GoError → Bpffs → List GoError × Bpffs
  | [], errs, fs => (errs, fs)
  | n :: ns, errs, fs =>
      match remove n with
      | some err =>
          removeAll b remove ns
            (errs ++ [.wrapf ("removing " ++ (b.path n).toString ++ ": %w") err]) fs
      | none => removeAll b remove ns errs (fs.unlink (b.path n))

/-- `Unpin`: the errors it joins, none if it returns `nil`. -/
def unpin (b : PinnedBridge) (remove : MapName → Option GoError) (fs : Bpffs) :
    List GoError × Bpffs :=
  b.removeAll remove unpinNames [] fs

end PinnedBridge

/-! ### What each call does to the files and maps -/

/-- The files that `LoadAndAssign` reaches. -/
def loaded (load : MapName → Option GoError) (ns : List MapName) : List MapName :=
  ns.takeWhile (fun n => (load n).isNone)

theorem loadAndAssign_snd (load : MapName → Option GoError) (dir : String) (ns : List MapName)
    (objs : MapName → ℕ) (fs : Bpffs) :
    (loadAndAssign load dir ns objs fs).2 =
      reach Registry.after fs
        (((loaded load ns).map (fun n => join dir n.base)).map .acquire) := by
  induction ns generalizing objs fs with
  | nil => rfl
  | cons n ns ih =>
      rw [loadAndAssign, loaded, List.takeWhile_cons]
      cases h : load n with
      | some err => simp [reach]
      | none =>
          simp only [Option.isNone_none, if_true, List.map_cons]
          exact ih _ _

/-- Every map of a bridge is the one its file refers to. -/
theorem loadAndAssign_names {load : MapName → Option GoError} {dir : String} {ns : List MapName}
    {objs objs' : MapName → ℕ} {fs : Bpffs}
    (h : (loadAndAssign load dir ns objs fs).1 = .ok objs') (n : MapName) :
    (n ∈ ns → (loadAndAssign load dir ns objs fs).2.names (join dir n.base) = some (objs' n)) ∧
      (n ∉ ns → objs' n = objs n) := by
  induction ns generalizing objs fs with
  | nil =>
      cases h
      exact ⟨fun hn => absurd hn List.not_mem_nil, fun _ => rfl⟩
  | cons m ms ih =>
      rw [loadAndAssign] at h ⊢
      cases hl : load m with
      | some err =>
          rw [hl] at h
          cases h
      | none =>
          rw [hl] at h
          obtain ⟨hin, hout⟩ := ih h
          by_cases hn : n ∈ ms
          · exact ⟨fun _ => hin hn, fun hno => absurd (List.mem_cons_of_mem m hn) hno⟩
          · have hobj := hout hn
            refine ⟨fun hmem => ?_, fun hno => ?_⟩
            · obtain rfl : n = m := (List.mem_cons.mp hmem).resolve_right hn
              rw [Function.update_self] at hobj
              have hacq := Registry.names_acquire fs (join dir n.base) (join dir n.base)
              rw [if_pos rfl] at hacq
              rw [hobj, loadAndAssign_snd]
              exact Registry.names_reach_acquire hacq _
            · have hne : n ≠ m := fun he => hno (he ▸ List.mem_cons_self)
              rw [hobj, Function.update_of_ne hne]

/-- The files that `Open` reaches. -/
def OpenEnv.reached (env : OpenEnv) : List MapName :=
  if env.mkdirAll = none ∧ env.loadCollectionSpec = none then loaded env.load mapFields else []

/-- **What `Open` does to the files**: it acquires those it reaches, also when it fails. -/
theorem mapsOpen_snd (env : OpenEnv) (pinDir : String) (fs : Bpffs) :
    (mapsOpen env pinDir fs).2 =
      reach Registry.after fs
        ((env.reached.map (fun n => join (pinDirOf pinDir) n.base)).map .acquire) := by
  unfold mapsOpen loadGputypesObjects OpenEnv.reached
  cases hm : env.mkdirAll with
  | some err => simp [reach]
  | none =>
      cases hc : env.loadCollectionSpec with
      | some err => simp [reach]
      | none =>
          rw [if_pos ⟨rfl, rfl⟩, ← loadAndAssign_snd env.load _ mapFields (fun _ => 0)]
          simp only
          split <;> rename_i h <;> rw [h]

/-- **What `Open` returns**: a bridge with open descriptors on the maps that its files refer to. -/
theorem mapsOpen_ok {env : OpenEnv} {pinDir : String} {fs : Bpffs} {b : PinnedBridge}
    (h : (mapsOpen env pinDir fs).1 = .ok b) :
    b.pinDir = pinDirOf pinDir ∧ b.live = (fun _ => true) ∧
      ∀ n, (mapsOpen env pinDir fs).2.names (b.path n) = some (b.objs n) := by
  unfold mapsOpen loadGputypesObjects at h ⊢
  cases hm : env.mkdirAll with
  | some err =>
      rw [hm] at h
      cases h
  | none =>
      cases hc : env.loadCollectionSpec with
      | some err =>
          rw [hm, hc] at h
          cases h
      | none =>
          rw [hm, hc] at h
          simp only at h ⊢
          cases hl : loadAndAssign env.load (pinDirOf pinDir) mapFields (fun _ => 0) fs with
          | mk r fs' =>
              rw [hl] at h
              cases r with
              | error err => cases h
              | ok objs =>
                  obtain rfl := Except.ok.inj h
                  refine ⟨rfl, rfl, fun n => ?_⟩
                  have hok : (loadAndAssign env.load (pinDirOf pinDir) mapFields (fun _ => 0) fs).1 =
                      .ok objs := by rw [hl]
                  have hn := (loadAndAssign_names hok n).1 (by cases n <;> decide)
                  rw [hl] at hn
                  exact hn

/-- `Open` fails exactly if one of its calls does. -/
theorem mapsOpen_isOk_iff (env : OpenEnv) (pinDir : String) (fs : Bpffs) :
    (∃ b, (mapsOpen env pinDir fs).1 = .ok b) ↔
      env.mkdirAll = none ∧ env.loadCollectionSpec = none ∧ ∀ n, env.load n = none := by
  have hall : ∀ (ns : List MapName) (objs : MapName → ℕ) (fs : Bpffs),
      (∃ objs', (loadAndAssign env.load (pinDirOf pinDir) ns objs fs).1 = .ok objs') ↔
        ∀ n ∈ ns, env.load n = none := by
    intro ns
    induction ns with
    | nil => exact fun objs fs => iff_of_true ⟨objs, rfl⟩ (fun n hn => absurd hn List.not_mem_nil)
    | cons m ms ih =>
        intro objs fs
        rw [loadAndAssign, List.forall_mem_cons]
        cases hl : env.load m with
        | some err => simp
        | none =>
            rw [and_iff_right rfl]
            exact ih _ _
  have hfields : (∀ n ∈ mapFields, env.load n = none) ↔ ∀ n, env.load n = none :=
    ⟨fun h n => h n (by cases n <;> decide), fun h n _ => h n⟩
  unfold mapsOpen loadGputypesObjects
  cases hm : env.mkdirAll with
  | some err => simp
  | none =>
      cases hc : env.loadCollectionSpec with
      | some err => simp
      | none =>
          rw [and_iff_right rfl, and_iff_right rfl, ← hfields, ← hall mapFields (fun _ => 0) fs]
          simp only
          split <;> rename_i h <;> rw [h] <;> simp

namespace PinnedBridge

theorem change_snd (b : PinnedBridge) (fault : Bool) (c : Change) (fs : Bpffs) :
    (b.change fault c fs).2 =
      if b.takes fault c then fs.write (b.objs c.map) (fun m => c.apply m) else fs := by
  unfold change takes
  cases b.live c.map <;> cases fault <;> cases c.inRange <;> rfl

/-- A call reports an error exactly if it leaves the map alone. -/
theorem change_fst_eq_none_iff (b : PinnedBridge) (fault : Bool) (c : Change) (fs : Bpffs) :
    (b.change fault c fs).1 = none ↔ b.takes fault c = true := by
  unfold change takes
  cases b.live c.map <;> cases fault <;> cases c.inRange <;> simp

/-- The files that `Unpin` removes. -/
def removed (remove : MapName → Option GoError) : List MapName :=
  unpinNames.filter (fun n => (remove n).isNone)

theorem mem_removed {remove : MapName → Option GoError} {n : MapName} :
    n ∈ removed remove ↔ remove n = none := by
  rw [removed, List.mem_filter, Option.isNone_iff_eq_none, and_iff_right (by cases n <;> decide)]

theorem removeAll_snd (b : PinnedBridge) (remove : MapName → Option GoError) (ns : List MapName)
    (errs : List GoError) (fs : Bpffs) :
    (b.removeAll remove ns errs fs).2 =
      reach Registry.after fs
        (((ns.filter (fun n => (remove n).isNone)).map b.path).map .unlink) := by
  induction ns generalizing errs fs with
  | nil => rfl
  | cons n ns ih =>
      rw [removeAll, List.filter_cons]
      cases h : remove n with
      | some err => exact ih _ _
      | none => exact ih _ _

/-- **What `Unpin` does to the files.** -/
theorem unpin_snd (b : PinnedBridge) (remove : MapName → Option GoError) (fs : Bpffs) :
    (b.unpin remove fs).2 =
      reach Registry.after fs (((removed remove).map b.path).map .unlink) :=
  b.removeAll_snd remove unpinNames [] fs

theorem removeAll_fst (b : PinnedBridge) (remove : MapName → Option GoError) (ns : List MapName)
    (errs : List GoError) (fs : Bpffs) :
    (b.removeAll remove ns errs fs).1 =
      errs ++ ns.filterMap (fun n => (remove n).map
        (fun err => .wrapf ("removing " ++ (b.path n).toString ++ ": %w") err)) := by
  induction ns generalizing errs fs with
  | nil => simp [removeAll]
  | cons n ns ih =>
      rw [removeAll, List.filterMap_cons]
      cases h : remove n with
      | some err => simp [ih]
      | none => simp [ih]

/-- `Unpin` returns `nil` exactly if it fails on no file. -/
theorem unpin_fst_eq_nil_iff (b : PinnedBridge) (remove : MapName → Option GoError) (fs : Bpffs) :
    (b.unpin remove fs).1 = [] ↔ ∀ n, remove n = none := by
  rw [unpin, removeAll_fst, List.nil_append, List.filterMap_eq_nil_iff]
  constructor
  · intro h n
    have hn := h n (by cases n <;> decide)
    rwa [Option.map_eq_none_iff] at hn
  · intro h n _
    rw [h n]
    rfl

end PinnedBridge

end GpuEbpfBridge
