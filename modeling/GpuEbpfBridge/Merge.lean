import Mathlib.Data.List.Dedup
import GpuEbpfBridge.RealSpec

/-! # The merge of the two NVML lists

`Real.ProcessSamples` merges, device by device, the utilization samples with the list of running
processes, through one memory table that all devices share.  `deviceOut` says what a device
contributes without a table: a sample for each utilization sample, and one for each listed
process without any.  `merge_exact` compares the two; what the table adds is only which of the
samples of a process carries its memory.  The device loop never lets one device see the entries
of another, whatever calls fail (`samples_local`). -/

namespace GpuEbpfBridge

open Lib

variable {δ : Type}

/-! ### What a device contributes -/

/-- The pids that `GetComputeRunningProcesses` listed, each once; none if the call failed. -/
def listedPids (a : DeviceNvml) : List UInt32 :=
  if wrap a.getComputeRunningProcesses.2 = none then
    (a.getComputeRunningProcesses.1.map (fun p => p.pid)).dedup
  else []

/-- The listed pids without a utilization sample. -/
def idlePids (a : DeviceNvml) (util : List UtilSample) : List UInt32 :=
  (listedPids a).filter (fun pid => ∀ x ∈ util, x.pid ≠ pid)

/-- The samples of a device, without their memory: one for each utilization sample, and one for
each idle process. -/
def deviceOut (tsNs : UInt64) (dev : UInt32) (a : DeviceNvml) (util : List UtilSample) :
    List ProcessSample :=
  util.map (utilOut tsNs dev 0) ++ (idlePids a util).map (fun pid => idleOut tsNs dev pid 0)

/-- What the device at a position of the handle list contributes to a call: nothing if its
`GetProcessUtilization` failed hard. -/
def handleOut (env : NvmlEnv δ) (lastSeenNs : UInt64) (s : Session δ) (d : δ × ℕ) :
    List ProcessSample :=
  let c := sessionCall env lastSeenNs s (UInt32.ofNat d.2) d.1
  if isHard c.ret then []
  else deviceOut (unixNano env.samplesNow) (UInt32.ofNat d.2) (env.device d.1) c.samples

/-- A sample without its memory. -/
def ProcessSample.forgetMemory (x : ProcessSample) : ProcessSample := { x with usedGpuMemory := 0 }

theorem mem_listedPids {a : DeviceNvml} {pid : UInt32} :
    pid ∈ listedPids a ↔ reported a pid ≠ none := by
  unfold listedPids reported
  by_cases hret : wrap a.getComputeRunningProcesses.2 = none
  · rw [if_pos hret, if_pos hret, ne_eq, Option.map_eq_none_iff, List.getLast?_eq_none_iff,
      List.filter_eq_nil_iff, List.mem_dedup, List.mem_map]
    simp
  · rw [if_neg hret, if_neg hret]
    simp

theorem mem_idlePids {a : DeviceNvml} {util : List UtilSample} {pid : UInt32} :
    pid ∈ idlePids a util ↔
      reported a pid ≠ none ∧ util.filter (fun x => x.pid = pid) = [] := by
  unfold idlePids
  rw [List.mem_filter, mem_listedPids, List.filter_eq_nil_iff]
  simp

theorem idlePids_nodup (a : DeviceNvml) (util : List UtilSample) : (idlePids a util).Nodup := by
  unfold idlePids listedPids
  split_ifs
  · exact (List.nodup_dedup _).filter _
  · exact List.nodup_nil

/-- The samples of a pid among samples made, one by one, for one device. -/
theorem keySamples_map {α : Type} {f : α → ProcessSample} {g : α → UInt32} {dev : UInt32}
    (hpid : ∀ a, (f a).pid = g a) (hdev : ∀ a, (f a).deviceIndex = dev) (l : List α)
    (pid : UInt32) :
    keySamples (l.map f) pid dev = (l.filter (fun a => g a = pid)).map f := by
  unfold keySamples
  rw [List.filter_map]
  congr 1
  apply List.filter_congr
  intro a _
  rw [Function.comp_apply, decide_eq_decide, hpid, hdev, and_iff_left rfl]

theorem keySamples_append (l₁ l₂ : List ProcessSample) (pid dev : UInt32) :
    keySamples (l₁ ++ l₂) pid dev = keySamples l₁ pid dev ++ keySamples l₂ pid dev :=
  List.filter_append l₁ l₂

/-- The samples of a pid that a device contributes. -/
theorem keySamples_deviceOut (tsNs : UInt64) (dev : UInt32) (a : DeviceNvml)
    (util : List UtilSample) (pid : UInt32) :
    keySamples (deviceOut tsNs dev a util) pid dev =
      (keyOut tsNs dev pid (reported a pid) (util.filter (fun x => x.pid = pid))).map
        ProcessSample.forgetMemory := by
  have hutil := keySamples_map (f := utilOut tsNs dev 0) (g := fun x => x.pid) (fun _ => rfl)
    (fun _ => rfl) util pid
  have hidle := keySamples_map (f := fun p => idleOut tsNs dev p 0) (g := fun p => p) (fun _ => rfl)
    (fun _ => rfl) (idlePids a util) pid
  have hmem : pid ∈ idlePids a util ↔ _ := mem_idlePids
  rw [deviceOut, keySamples_append, hutil, hidle, List.filter_eq, (idlePids_nodup a util).count]
  cases hf : util.filter (fun x => x.pid = pid) with
  | nil =>
      rw [hf] at hmem
      cases hr : reported a pid with
      | none =>
          rw [if_neg (fun h => (hmem.mp h).1 hr)]
          rfl
      | some u =>
          rw [if_pos (hmem.mpr ⟨by simp [hr], rfl⟩)]
          rfl
  | cons x l =>
      rw [if_neg (fun h => by simpa [hf] using (hmem.mp h).2)]
      simp [keyOut, utilOut, ProcessSample.forgetMemory, Function.comp_def]

/-! ### The whole call -/

/-- What the loop over the handles contributes to one (pid, device), if every round stays with its
own device. -/
theorem keySamples_flatMap (s : Session δ) {f : δ × ℕ → List ProcessSample}
    (hf : ∀ d, ∀ x ∈ f d, x.deviceIndex = UInt32.ofNat d.2) (pid dev : UInt32) :
    keySamples (s.real.handles.zipIdx.flatMap f) pid dev =
      match handleAt s dev with
      | some h => keySamples (f (h, dev.toNat)) pid dev
      | none => [] := by
  have hother : ∀ d, UInt32.ofNat d.2 ≠ dev → keySamples (f d) pid dev = [] := by
    intro d hne
    unfold keySamples
    rw [List.filter_eq_nil_iff]
    intro x hx hk
    rw [decide_eq_true_eq] at hk
    exact hne ((hf d x hx).symm.trans hk.2)
  unfold keySamples at hother ⊢
  rw [List.filter_flatMap]
  cases hh : handleAt s dev with
  | none =>
      rw [List.flatMap_eq_nil_iff]
      intro d hd
      apply hother
      exact index_ne_of_handleAt_none hh hd
  | some h =>
      apply flatMap_at (mem_zipIdx_of_handleAt hh) (handles_zipIdx_nodup s)
      intro d hd hne
      apply hother
      exact index_ne_of_handleAt hh hd hne

/-- Two lists of samples that agree at every (pid, device) are rearrangements of each other. -/
theorem perm_of_keySamples {l l' : List ProcessSample}
    (h : ∀ pid dev, keySamples l pid dev = keySamples l' pid dev) : l.Perm l' := by
  rw [List.perm_iff_count]
  intro x
  have hcount : ∀ l : List ProcessSample, l.count x = (keySamples l x.pid x.deviceIndex).count x :=
    fun l => (List.count_filter (by simp)).symm
  rw [hcount l, hcount l', h]

theorem keySamples_map_forgetMemory (l : List ProcessSample) (pid dev : UInt32) :
    keySamples (l.map ProcessSample.forgetMemory) pid dev =
      (keySamples l pid dev).map ProcessSample.forgetMemory := by
  unfold keySamples
  rw [List.filter_map]
  rfl

/-- What the samples of a call say, given the answers of NVML. -/
structure MergeExact (env : NvmlEnv δ) (lastSeenNs : UInt64) (s : Session δ)
    (out : List ProcessSample) : Prop where
  /-- No sample is lost, made up or made twice. -/
  samples : (out.map ProcessSample.forgetMemory).Perm
    (s.real.handles.zipIdx.flatMap (handleOut env lastSeenNs s))
  /-- The memory reported last for a process is carried by one of its samples. -/
  listed : ∀ pid dev h u, handleAt s dev = some h →
    isHard (sessionCall env lastSeenNs s dev h).ret = false →
    reported (env.device h) pid = some u →
      ∃ k, ((keySamples out pid dev).map (fun x => x.usedGpuMemory)).Perm
        (u :: List.replicate k 0)
  unlisted : ∀ pid dev h, handleAt s dev = some h → reported (env.device h) pid = none →
    ∀ x ∈ keySamples out pid dev, x.usedGpuMemory = 0

theorem keySamples_deviceSamples (l : List ProcessSample) (dev pid d : UInt32) :
    keySamples (deviceSamples l dev) pid d = if d = dev then keySamples l pid d else [] := by
  unfold keySamples deviceSamples
  rw [List.filter_filter]
  split_ifs with hd
  · subst hd
    congr 1
    funext x
    simp
  · rw [List.filter_eq_nil_iff]
    intro x _ hx
    simp only [decide_eq_true_eq, Bool.and_eq_true] at hx
    exact hd (hx.1.2.symm.trans hx.2)

/-- **The samples of a device depend on its own answers alone.**  Two calls for which a device gives
the same answers return the same samples for it, whatever the other devices answer. -/
theorem samples_local {env env' : NvmlEnv δ} {n n' : UInt64} {s s' : Session δ} {dev : UInt32}
    {h h' : δ} (hh : handleAt s dev = some h) (hh' : handleAt s' dev = some h')
    (hdev : (env.device h).getComputeRunningProcesses =
      (env'.device h').getComputeRunningProcesses)
    (hcall : sessionCall env n s dev h = sessionCall env' n' s' dev h')
    (hnow : env.samplesNow = env'.samplesNow) :
    (deviceSamples (s.processSamples env n).1.1 dev).Perm
      (deviceSamples (s'.processSamples env' n').1.1 dev) := by
  have hrep : ∀ pid, reported (env.device h) pid = reported (env'.device h') pid := by
    intro pid
    unfold reported
    rw [hdev]
  apply perm_of_keySamples
  intro pid d
  rw [keySamples_deviceSamples, keySamples_deviceSamples]
  split_ifs with hd
  · subst hd
    rw [keySamples_processSamples, keySamples_processSamples, hh, hh']
    simp only [hcall, hrep, hnow]
  · rfl

theorem processSamples_mergeExact (env : NvmlEnv δ) (lastSeenNs : UInt64) (s : Session δ) :
    MergeExact env lastSeenNs s (s.processSamples env lastSeenNs).1.1 := by
  constructor
  case samples =>
      have hown : ∀ d, ∀ x ∈ handleOut env lastSeenNs s d, x.deviceIndex = UInt32.ofNat d.2 := by
        intro d x hx
        unfold handleOut at hx
        simp only at hx
        split_ifs at hx
        · cases hx
        · rcases List.mem_append.mp hx with hx | hx
          · obtain ⟨y, -, rfl⟩ := List.mem_map.mp hx
            rfl
          · obtain ⟨p, -, rfl⟩ := List.mem_map.mp hx
            rfl
      apply perm_of_keySamples
      intro pid dev
      rw [keySamples_map_forgetMemory, keySamples_processSamples, keySamples_flatMap s hown]
      cases hh : handleAt s dev with
      | none => rfl
      | some h =>
          simp only [handleOut, UInt32.ofNat_toNat]
          split_ifs
          · rfl
          · rw [keySamples_deviceOut]
  case listed =>
      intro pid dev h u hh hsoft hu
      rw [keySamples_processSamples, hh]
      simp only [hsoft, hu]
      rw [if_neg Bool.false_ne_true]
      cases (sessionCall env lastSeenNs s dev h).samples.filter (fun x => x.pid = pid) with
      | nil => exact ⟨0, List.Perm.refl _⟩
      | cons x l =>
          refine ⟨l.length, ?_⟩
          simp [keyOut, utilOut, Function.comp_def]
  case unlisted =>
      intro pid dev h hh hu x hx
      rw [keySamples_processSamples, hh] at hx
      simp only [hu] at hx
      split_ifs at hx
      · cases hx
      · cases hf : (sessionCall env lastSeenNs s dev h).samples.filter (fun x => x.pid = pid) with
        | nil =>
            rw [hf] at hx
            cases hx
        | cons y l =>
            rw [hf] at hx
            rcases List.mem_cons.mp hx with rfl | hx
            · rfl
            · obtain ⟨z, -, rfl⟩ := List.mem_map.mp hx
              rfl

/-- **The merge is exact.**  In every call the samples are, as a multiset, those that the devices
contribute, one by one; of the samples of a listed process on a device exactly one carries the
memory reported last, all other samples carry none; and what is returned for a device depends
on its own answers alone. -/
theorem merge_exact (env : NvmlEnv δ) (lastSeenNs : UInt64) (s : Session δ) :
    MergeExact env lastSeenNs s (s.processSamples env lastSeenNs).1.1 ∧
    ∀ (env' : NvmlEnv δ) (lastSeenNs' : UInt64) (s' : Session δ) (dev : UInt32) (h h' : δ),
      handleAt s dev = some h → handleAt s' dev = some h' →
      (env.device h).getComputeRunningProcesses =
        (env'.device h').getComputeRunningProcesses →
      sessionCall env lastSeenNs s dev h = sessionCall env' lastSeenNs' s' dev h' →
      env.samplesNow = env'.samplesNow →
        (deviceSamples (s.processSamples env lastSeenNs).1.1 dev).Perm
          (deviceSamples (s'.processSamples env' lastSeenNs').1.1 dev) :=
  ⟨processSamples_mergeExact env lastSeenNs s,
    fun _ _ _ _ _ _ hh hh' hdev hcall hnow => samples_local hh hh' hdev hcall hnow⟩

/-- Two devices that list process 7; the first one samples it twice, the second one answers
`GetProcessUtilization` with `ret`. -/
def secondDeviceAnswers (ret : Return) : NvmlEnv ℕ :=
  { deviceGetCount := (2, .success)
    deviceGetHandleByIndex := fun i => (i, .success)
    device := fun i =>
      { getComputeRunningProcesses := ([[⟨7, 100⟩, ⟨8, 20⟩], [⟨7, 60⟩]].getD i [], .success)
        getProcessUtilization := fun _ =>
          ([[{ pid := 7, timeStamp := 4, smUtil := 30 }, { pid := 7, timeStamp := 5, smUtil := 20 }],
            []].getD i [], [.success, ret].getD i .success) }
    devicesNow := 8
    samplesNow := 9 }

/-- Losing the second device changes nothing on the first one. -/
theorem merge_exact_secondDevice :
    let s : Session ℕ := { real := { handles := [0, 1] } }
    (deviceSamples (s.processSamples (secondDeviceAnswers .success) 0).1.1 0).Perm
      (deviceSamples (s.processSamples (secondDeviceAnswers (.other 15)) 0).1.1 0) :=
  (merge_exact (secondDeviceAnswers .success) 0 _).2 (secondDeviceAnswers (.other 15)) 0 _ 0 0 0
    rfl rfl rfl rfl rfl

end GpuEbpfBridge
