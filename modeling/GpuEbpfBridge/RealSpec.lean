import GpuEbpfBridge.Real
import GpuEbpfBridge.TickSpec

/-! # What `Real.ProcessSamples` computes

The loop over the handles shares one memory table between all devices.  Seen at one (pid, device)
it is local: only the round of the device changes what the loop holds for it (`view_sampleDevice`),
so the samples returned for the pair, the watermark of the device and the call made for it
depend on the answers of that device alone (`view_processSamples`). -/

namespace GpuEbpfBridge

open Lib

variable {δ : Type}

/-! ### The answers for one (pid, device) -/

/-- One call of `GetProcessUtilization`. -/
structure UtilCall where
  seen : UInt64
  samples : List UtilSample
  ret : Return
deriving DecidableEq, Repr

/-- The calls of `GetProcessUtilization` for one device. -/
def utilCalls (trace : List NvmlCall) (dev : UInt32) : List UtilCall :=
  trace.filterMap (fun c =>
    match c with
    | .getProcessUtilization d seen samples ret =>
        if d = dev then some ⟨seen, samples, ret⟩ else none
    | _ => none)

/-- The memory that `GetComputeRunningProcesses` reported last for a pid. -/
def reported (a : DeviceNvml) (pid : UInt32) : Option UInt64 :=
  if wrap a.getComputeRunningProcesses.2 = none then
    (a.getComputeRunningProcesses.1.filter (fun p => p.pid = pid)).getLast?.map
      (fun p => p.usedGpuMemory)
  else none

/-- The call made for a device whose watermark is `seen`. -/
def utilCall (env : NvmlEnv δ) (lastSeenNs : UInt64) (seen : Option UInt64) (h : δ) : UtilCall :=
  let bound := max (seen.getD 0) lastSeenNs
  ⟨bound, ((env.device h).getProcessUtilization bound).1,
    ((env.device h).getProcessUtilization bound).2⟩

/-- The sample made of a utilization sample. -/
def utilOut (tsNs : UInt64) (dev : UInt32) (used : UInt64) (s : UtilSample) : ProcessSample :=
  { pid := s.pid
    deviceIndex := dev
    timestampNs := tsNs
    usedGpuMemory := used
    smUtilPct := s.smUtil
    memUtilPct := s.memUtil
    encUtilPct := s.encUtil
    decUtilPct := s.decUtil }

/-- The sample made of a memory entry. -/
def idleOut (tsNs : UInt64) (dev pid : UInt32) (used : UInt64) : ProcessSample :=
  { pid := pid, deviceIndex := dev, timestampNs := tsNs, usedGpuMemory := used }

/-- The samples made of the utilization samples of a pid and its memory entry: the first one
carries the memory, and without any there is a memory-only one. -/
def keyOut (tsNs : UInt64) (dev pid : UInt32) (mem : Option UInt64) :
    List UtilSample → List ProcessSample
  | [] => mem.toList.map (idleOut tsNs dev pid)
  | s :: l => utilOut tsNs dev (mem.getD 0) s :: l.map (utilOut tsNs dev 0)

/-- The greatest time stamp of some utilization samples, `0` if there are none. -/
def peakTs (samples : List UtilSample) : UInt64 := samples.toFinset.sup (fun s => s.timeStamp)

/-! ### The loops seen at one (pid, device) -/

theorem lookup_listProcesses (devIdx : UInt32) (a : DeviceNvml) (mem : GoMap PidDevKey UInt64)
    (pid dev : UInt32) :
    (listProcesses devIdx a.getComputeRunningProcesses mem).lookup ⟨pid, dev⟩ =
      if devIdx = dev then (reported a pid).or (mem.lookup ⟨pid, dev⟩)
      else mem.lookup ⟨pid, dev⟩ := by
  unfold listProcesses reported
  by_cases hret : wrap a.getComputeRunningProcesses.2 = none
  · rw [if_pos hret, if_pos hret,
      GoMap.lookup_foldl (fun p : ProcessInfo => (⟨p.pid, devIdx⟩ : PidDevKey))
        (recordMemory devIdx) (fun _ p => some p.usedGpuMemory)
        (fun m p k => GoMap.lookup_insert_eq m _ k _),
      foldl_last]
    by_cases hd : devIdx = dev
    · simp [hd]
    · simp [hd]
  · rw [if_neg hret, if_neg hret]
    simp

theorem keySamples_concat (l : List ProcessSample) (x : ProcessSample) (pid dev : UInt32) :
    keySamples (l ++ [x]) pid dev =
      if x.pid = pid ∧ x.deviceIndex = dev then keySamples l pid dev ++ [x]
      else keySamples l pid dev := by
  unfold keySamples
  rw [List.filter_append]
  by_cases h : x.pid = pid ∧ x.deviceIndex = dev
  · simp [h]
  · simp [h]

theorem foldl_mergeSample_maxTs (devIdx : UInt32) (tsNs : UInt64) (samples : List UtilSample)
    (st : MergeLoop) :
    (samples.foldl (mergeSample devIdx tsNs) st).maxTs = max st.maxTs (peakTs samples) := by
  have h := foldl_project (fun st : MergeLoop => st.maxTs) (fun _ => true)
    (mergeSample devIdx tsNs) (fun acc s => raise acc s.timeStamp) (fun _ _ => rfl) samples st
  rw [List.filter_true] at h
  rw [h]
  exact foldl_raise (fun s : UtilSample => s.timeStamp) samples st.maxTs

/-- The merge loop at a pid of its device. -/
theorem foldl_mergeSample_key (dev : UInt32) (tsNs : UInt64) (samples : List UtilSample)
    (st : MergeLoop) (pid : UInt32) :
    let r := samples.foldl (mergeSample dev tsNs) st
    (keySamples r.out pid dev, r.memByPidDev.lookup ⟨pid, dev⟩) =
      (samples.filter (fun s => s.pid = pid)).foldl
        (fun v s => (v.1 ++ [utilOut tsNs dev (v.2.getD 0) s], none))
        (keySamples st.out pid dev, st.memByPidDev.lookup ⟨pid, dev⟩) := by
  refine foldl_project
    (fun st : MergeLoop => (keySamples st.out pid dev, st.memByPidDev.lookup ⟨pid, dev⟩))
    (fun s => s.pid = pid) (mergeSample dev tsNs) _ ?_ samples st
  intro st s
  simp only [mergeSample, keySamples_concat, GoMap.lookup_erase_eq, PidDevKey.mk.injEq, and_true,
    decide_eq_true_eq]
  by_cases h : s.pid = pid
  · subst h
    simp [utilOut]
  · simp [h]

/-- The merge loop at another device. -/
theorem foldl_mergeSample_other {devIdx dev : UInt32} (hne : devIdx ≠ dev) (tsNs : UInt64)
    (samples : List UtilSample) (st : MergeLoop) (pid : UInt32) :
    let r := samples.foldl (mergeSample devIdx tsNs) st
    (keySamples r.out pid dev, r.memByPidDev.lookup ⟨pid, dev⟩) =
      (keySamples st.out pid dev, st.memByPidDev.lookup ⟨pid, dev⟩) := by
  refine foldl_project_const
    (fun st : MergeLoop => (keySamples st.out pid dev, st.memByPidDev.lookup ⟨pid, dev⟩))
    (mergeSample devIdx tsNs) samples (fun st s _ => ?_) st
  simp [mergeSample, keySamples_concat, GoMap.lookup_erase_eq, hne]

/-- What the loop over the utilization samples of a pid appends, and leaves of its memory. -/
theorem foldl_utilOut (tsNs : UInt64) (dev : UInt32) (l : List UtilSample)
    (out : List ProcessSample) (mem : Option UInt64) :
    l.foldl (fun (v : List ProcessSample × Option UInt64) s =>
        (v.1 ++ [utilOut tsNs dev (v.2.getD 0) s], none)) (out, mem) =
      match l with
      | [] => (out, mem)
      | s :: l => (out ++ utilOut tsNs dev (mem.getD 0) s :: l.map (utilOut tsNs dev 0), none) := by
  induction l generalizing out mem with
  | nil => rfl
  | cons s l ih =>
      rw [List.foldl_cons, ih]
      cases l with
      | nil => simp
      | cons s' l => simp

/-- The loop over the memory table at a pid of its device. -/
theorem foldl_emitIdle_key (dev : UInt32) (tsNs : UInt64) (o : RangeOrder (PidDevKey × UInt64))
    (mem : GoMap PidDevKey UInt64) (out : List ProcessSample) (pid : UInt32) :
    let r := (GoMap.range o mem).foldl (emitIdle dev tsNs) (mem, out)
    (keySamples r.2 pid dev, r.1.lookup ⟨pid, dev⟩) =
      (keySamples out pid dev ++ (mem.lookup ⟨pid, dev⟩).toList.map (idleOut tsNs dev pid),
        none) := by
  have h := foldl_project
    (fun st : GoMap PidDevKey UInt64 × List ProcessSample =>
      (keySamples st.2 pid dev, st.1.lookup ⟨pid, dev⟩))
    (fun e => e.1 = ⟨pid, dev⟩) (emitIdle dev tsNs)
    (fun v e => (v.1 ++ [idleOut tsNs dev pid e.2], none)) ?_ (GoMap.range o mem) (mem, out)
  · intro r
    rw [show (keySamples r.2 pid dev, r.1.lookup ⟨pid, dev⟩) = _ from h, GoMap.filter_range_key]
    cases hl : mem.lookup ⟨pid, dev⟩ with
    | none => simp
    | some u => simp
  · rintro ⟨m, l⟩ ⟨⟨p, d⟩, u⟩
    simp only [emitIdle, PidDevKey.mk.injEq, decide_eq_true_eq]
    by_cases hd : d = dev
    · by_cases hp : p = pid
      · simp [hd, hp, keySamples_concat, idleOut]
      · simp [hd, hp, keySamples_concat, GoMap.lookup_erase_eq]
    · simp [hd]

/-- The loop over the memory table at another device. -/
theorem foldl_emitIdle_other {devIdx dev : UInt32} (hne : devIdx ≠ dev) (tsNs : UInt64)
    (l : List (PidDevKey × UInt64)) (st : GoMap PidDevKey UInt64 × List ProcessSample)
    (pid : UInt32) :
    let r := l.foldl (emitIdle devIdx tsNs) st
    (keySamples r.2 pid dev, r.1.lookup ⟨pid, dev⟩) =
      (keySamples st.2 pid dev, st.1.lookup ⟨pid, dev⟩) := by
  refine foldl_project_const
    (fun st : GoMap PidDevKey UInt64 × List ProcessSample =>
      (keySamples st.2 pid dev, st.1.lookup ⟨pid, dev⟩))
    (emitIdle devIdx tsNs) l ?_ st
  rintro ⟨m, out⟩ ⟨⟨p, d⟩, u⟩ -
  unfold emitIdle
  by_cases hd : d = devIdx
  · subst hd
    simp [keySamples_concat, GoMap.lookup_erase_eq, hne]
  · simp [hd]

theorem lookup_advanceLastSeenTs (table : GoMap UInt32 UInt64) (devIdx : UInt32) (maxTs : UInt64)
    (dev : UInt32) :
    (advanceLastSeenTs table devIdx maxTs).lookup dev =
      if devIdx = dev then
        if maxTs > (table.lookup dev).getD 0 then some maxTs else table.lookup dev
      else table.lookup dev := by
  have hpos : maxTs > (table.lookup devIdx).getD 0 → maxTs > 0 :=
    fun h => lt_of_le_of_lt UInt64.zero_le h
  unfold advanceLastSeenTs
  by_cases hd : devIdx = dev
  · subst hd
    rw [if_pos rfl]
    by_cases h : maxTs > (table.lookup devIdx).getD 0
    · rw [if_pos (hpos h), if_pos h, if_pos h, AList.lookup_insert]
    · rw [if_neg h, if_neg h, ite_self]
  · rw [if_neg hd]
    split_ifs
    · rw [GoMap.lookup_insert_eq, if_neg hd]
    · rfl
    · rfl

/-! ### One round of the loop over the handles -/

/-- What the loop over the handles holds for one (pid, device). -/
structure DeviceView where
  out : List ProcessSample
  mem : Option UInt64
  seen : Option UInt64
  calls : List UtilCall

def view (pid dev : UInt32) (st : SampleLoop) : DeviceView :=
  { out := keySamples st.out pid dev
    mem := st.memByPidDev.lookup ⟨pid, dev⟩
    seen := st.lastSeenTs.lookup dev
    calls := utilCalls st.trace dev }

theorem utilCalls_concat (trace : List NvmlCall) (d dev : UInt32) (seen : UInt64)
    (samples : List UtilSample) (ret : Return) :
    utilCalls (trace ++ [.getProcessUtilization d seen samples ret]) dev =
      if d = dev then utilCalls trace dev ++ [⟨seen, samples, ret⟩] else utilCalls trace dev := by
  unfold utilCalls
  rw [List.filterMap_append]
  by_cases h : d = dev
  · simp [h]
  · simp [h]

/-- What a device makes of its utilization samples. -/
def DeviceView.merge (env : NvmlEnv δ) (pid dev : UInt32) (samples : List UtilSample)
    (v : DeviceView) : DeviceView :=
  { v with
    out := v.out ++ keyOut (unixNano env.samplesNow) dev pid v.mem
      (samples.filter (fun s => s.pid = pid))
    mem := none
    seen := if peakTs samples > v.seen.getD 0 then some (peakTs samples) else v.seen }

theorem DeviceView.merge_seen (env : NvmlEnv δ) (pid dev : UInt32) (samples : List UtilSample)
    (v : DeviceView) :
    ((v.merge env pid dev samples).seen).getD 0 = max (v.seen.getD 0) (peakTs samples) := by
  unfold DeviceView.merge
  by_cases hlt : peakTs samples > v.seen.getD 0
  · simp only [if_pos hlt]
    exact (max_eq_right (le_of_lt hlt)).symm
  · simp only [if_neg hlt]
    exact (max_eq_left (not_lt.mp hlt)).symm

/-- The round of a device. -/
def DeviceView.sample (env : NvmlEnv δ) (lastSeenNs : UInt64) (pid dev : UInt32) (h : δ)
    (v : DeviceView) : DeviceView :=
  let c := utilCall env lastSeenNs v.seen h
  let v := { v with mem := (reported (env.device h) pid).or v.mem, calls := v.calls ++ [c] }
  if isHard c.ret then v else v.merge env pid dev c.samples

/-- What the two calls for a device add. -/
def DeviceView.call (env : NvmlEnv δ) (lastSeenNs : UInt64) (pid : UInt32) (h : δ)
    (v : DeviceView) : DeviceView :=
  { v with
    mem := (reported (env.device h) pid).or v.mem
    calls := v.calls ++ [utilCall env lastSeenNs v.seen h] }

theorem DeviceView.sample_eq (env : NvmlEnv δ) (lastSeenNs : UInt64) (pid dev : UInt32) (h : δ)
    (v : DeviceView) :
    v.sample env lastSeenNs pid dev h =
      if isHard (utilCall env lastSeenNs v.seen h).ret then v.call env lastSeenNs pid h
      else (v.call env lastSeenNs pid h).merge env pid dev
        (utilCall env lastSeenNs v.seen h).samples :=
  rfl

theorem DeviceView.sample_out (env : NvmlEnv δ) (lastSeenNs : UInt64) (pid dev : UInt32) (h : δ)
    (v : DeviceView) :
    (v.sample env lastSeenNs pid dev h).out =
      if isHard (utilCall env lastSeenNs v.seen h).ret then v.out
      else v.out ++ keyOut (unixNano env.samplesNow) dev pid
        ((reported (env.device h) pid).or v.mem)
        ((utilCall env lastSeenNs v.seen h).samples.filter (fun s => s.pid = pid)) := by
  rw [DeviceView.sample_eq]
  split_ifs
  · rfl
  · rfl

theorem DeviceView.sample_seen (env : NvmlEnv δ) (lastSeenNs : UInt64) (pid dev : UInt32) (h : δ)
    (v : DeviceView) :
    ((v.sample env lastSeenNs pid dev h).seen).getD 0 =
      if isHard (utilCall env lastSeenNs v.seen h).ret then v.seen.getD 0
      else max (v.seen.getD 0) (peakTs (utilCall env lastSeenNs v.seen h).samples) := by
  rw [DeviceView.sample_eq]
  split_ifs
  · rfl
  · exact DeviceView.merge_seen env pid dev _ (v.call env lastSeenNs pid h)

theorem DeviceView.sample_calls (env : NvmlEnv δ) (lastSeenNs : UInt64) (pid dev : UInt32) (h : δ)
    (v : DeviceView) :
    (v.sample env lastSeenNs pid dev h).calls = v.calls ++ [utilCall env lastSeenNs v.seen h] := by
  rw [DeviceView.sample_eq]
  split_ifs
  · rfl
  · rfl

/-- The two inner loops, one after the other, at a pid of their device. -/
theorem keySamples_merge (dev : UInt32) (tsNs : UInt64) (o : RangeOrder (PidDevKey × UInt64))
    (samples : List UtilSample) (st : MergeLoop) (pid : UInt32) :
    let m := samples.foldl (mergeSample dev tsNs) st
    let r := (GoMap.range o m.memByPidDev).foldl (emitIdle dev tsNs) (m.memByPidDev, m.out)
    (keySamples r.2 pid dev, r.1.lookup ⟨pid, dev⟩) =
      (keySamples st.out pid dev ++ keyOut tsNs dev pid (st.memByPidDev.lookup ⟨pid, dev⟩)
        (samples.filter (fun s => s.pid = pid)), none) := by
  intro m r
  have hm := foldl_mergeSample_key dev tsNs samples st pid
  rw [foldl_utilOut] at hm
  have hr := foldl_emitIdle_key dev tsNs o m.memByPidDev m.out pid
  rw [show (keySamples r.2 pid dev, r.1.lookup ⟨pid, dev⟩) = _ from hr]
  cases hf : samples.filter (fun s => s.pid = pid) with
  | nil =>
      rw [hf] at hm
      obtain ⟨h₁, h₂⟩ := Prod.mk.inj hm
      rw [h₁, h₂]
      rfl
  | cons s l =>
      rw [hf] at hm
      obtain ⟨h₁, h₂⟩ := Prod.mk.inj hm
      rw [h₁, h₂]
      simp [keyOut]

theorem view_mergeDevice (env : NvmlEnv δ) (devIdx : UInt32) (samples : List UtilSample)
    (st : SampleLoop) (pid dev : UInt32) :
    view pid dev (mergeDevice env devIdx samples st) =
      if devIdx = dev then (view pid dev st).merge env pid dev samples else view pid dev st := by
  unfold mergeDevice
  by_cases hd : devIdx = dev
  · subst hd
    obtain ⟨hout, hmem⟩ := Prod.mk.inj (keySamples_merge devIdx (unixNano env.samplesNow)
      (env.memOrder devIdx) samples ⟨0, st.memByPidDev, st.out⟩ pid)
    have hts := (foldl_mergeSample_maxTs devIdx (unixNano env.samplesNow) samples
      ⟨0, st.memByPidDev, st.out⟩).trans (max_eq_right bot_le)
    rw [if_pos rfl, view, DeviceView.merge]
    simp only [hout, hmem, lookup_advanceLastSeenTs, if_true, hts, view]
    rfl
  · obtain ⟨h₁, h₂⟩ := Prod.mk.inj (foldl_mergeSample_other hd (unixNano env.samplesNow) samples
      ⟨0, st.memByPidDev, st.out⟩ pid)
    obtain ⟨h₃, h₄⟩ := Prod.mk.inj (foldl_emitIdle_other hd (unixNano env.samplesNow)
      (GoMap.range (env.memOrder devIdx) (samples.foldl
        (mergeSample devIdx (unixNano env.samplesNow)) ⟨0, st.memByPidDev, st.out⟩).memByPidDev)
      ((samples.foldl (mergeSample devIdx (unixNano env.samplesNow))
          ⟨0, st.memByPidDev, st.out⟩).memByPidDev,
        (samples.foldl (mergeSample devIdx (unixNano env.samplesNow))
          ⟨0, st.memByPidDev, st.out⟩).out) pid)
    rw [if_neg hd, view, view]
    simp only [h₃, h₄, h₁, h₂, lookup_advanceLastSeenTs, if_neg hd]

/-- The loop state after the two calls for a device. -/
def callDevice (env : NvmlEnv δ) (lastSeenNs : UInt64) (devIdx : UInt32) (h : δ)
    (st : SampleLoop) : SampleLoop :=
  let c := utilCall env lastSeenNs (st.lastSeenTs.lookup devIdx) h
  { st with
    memByPidDev := listProcesses devIdx (env.device h).getComputeRunningProcesses st.memByPidDev
    trace := st.trace ++ [.getProcessUtilization devIdx c.seen c.samples c.ret] }

theorem sampleDevice_eq (env : NvmlEnv δ) (lastSeenNs : UInt64) (st : SampleLoop) (d : δ × ℕ) :
    sampleDevice env lastSeenNs st d =
      let devIdx := UInt32.ofNat d.2
      let c := utilCall env lastSeenNs (st.lastSeenTs.lookup devIdx) d.1
      let st := callDevice env lastSeenNs devIdx d.1 st
      if isHard c.ret then st else mergeDevice env devIdx c.samples st := by
  unfold sampleDevice callDevice utilCall
  simp only [raise_eq_max]

theorem view_callDevice (env : NvmlEnv δ) (lastSeenNs : UInt64) (devIdx : UInt32) (h : δ)
    (st : SampleLoop) (pid dev : UInt32) :
    view pid dev (callDevice env lastSeenNs devIdx h st) =
      if devIdx = dev then (view pid dev st).call env lastSeenNs pid h else view pid dev st := by
  unfold callDevice view DeviceView.call
  simp only [lookup_listProcesses, utilCalls_concat]
  split_ifs with hd
  · rw [hd]
  · rfl

/-- **The loop over the handles is local**: at one (pid, device) only the round of the device
counts. -/
theorem view_sampleDevice (env : NvmlEnv δ) (lastSeenNs : UInt64) (st : SampleLoop) (d : δ × ℕ)
    (pid dev : UInt32) :
    view pid dev (sampleDevice env lastSeenNs st d) =
      if UInt32.ofNat d.2 = dev then (view pid dev st).sample env lastSeenNs pid dev d.1
      else view pid dev st := by
  rw [sampleDevice_eq]
  generalize UInt32.ofNat d.2 = devIdx
  have hview := view_callDevice env lastSeenNs devIdx d.1 st pid dev
  by_cases hd : devIdx = dev
  · have hseen : (view pid dev st).seen = st.lastSeenTs.lookup devIdx := by
      rw [hd, view]
    rw [if_pos hd] at hview ⊢
    rw [DeviceView.sample_eq, hseen]
    dsimp only
    split_ifs
    · exact hview
    · rw [view_mergeDevice, if_pos hd, hview]
  · rw [if_neg hd] at hview ⊢
    dsimp only
    split_ifs
    · exact hview
    · rw [view_mergeDevice, if_neg hd, hview]

/-! ### The whole call -/

/-- The handle with index `dev`. -/
def handleAt (s : Session δ) (dev : UInt32) : Option δ := s.real.handles[dev.toNat]?

section handles

variable {s : Session δ} {dev : UInt32} {d : δ × ℕ}

theorem handles_zipIdx_nodup (s : Session δ) : s.real.handles.zipIdx.Nodup :=
  List.Nodup.of_map Prod.snd (List.nodup_zipIdx_map_snd s.real.handles)

/-- A position of the handle list and the device index made of it. -/
theorem handleAt_of_mem (hd : d ∈ s.real.handles.zipIdx) :
    (UInt32.ofNat d.2).toNat = d.2 ∧ handleAt s (UInt32.ofNat d.2) = some d.1 := by
  have hlt := List.snd_lt_of_mem_zipIdx hd
  have hlen := s.real.handles_length
  have hof : (UInt32.ofNat d.2).toNat = d.2 := by
    rw [UInt32.toNat_ofNat']
    omega
  refine ⟨hof, ?_⟩
  unfold handleAt
  rw [hof]
  exact List.mem_zipIdx_iff_getElem?.mp hd

theorem mem_zipIdx_of_handleAt {h : δ} (hh : handleAt s dev = some h) :
    (h, dev.toNat) ∈ s.real.handles.zipIdx := List.mk_mem_zipIdx_iff_getElem?.mpr hh

theorem index_ne_of_handleAt_none (hh : handleAt s dev = none) (hd : d ∈ s.real.handles.zipIdx) :
    UInt32.ofNat d.2 ≠ dev := by
  rintro rfl
  rw [(handleAt_of_mem hd).2] at hh
  cases hh

/-- The other positions of the handle list make other indices. -/
theorem index_ne_of_handleAt {h : δ} (hh : handleAt s dev = some h)
    (hd : d ∈ s.real.handles.zipIdx) (hne : d ≠ (h, dev.toNat)) : UInt32.ofNat d.2 ≠ dev := by
  rintro rfl
  obtain ⟨hof, hat⟩ := handleAt_of_mem hd
  rw [hh] at hat
  exact hne (Prod.ext (Option.some.inj hat).symm hof.symm)

end handles

/-- What the loop over the handles starts with. -/
def startView (s : Session δ) (dev : UInt32) : DeviceView :=
  { out := [], mem := none, seen := s.real.lastSeenTs.lookup dev, calls := utilCalls s.trace dev }

/-- **`ProcessSamples` is local**: what it returns for a (pid, device), the watermark it leaves
for the device and the call it makes for it come from one round of the loop. -/
theorem view_processSamples (env : NvmlEnv δ) (lastSeenNs : UInt64) (s : Session δ)
    (pid dev : UInt32) :
    ({ out := keySamples (s.processSamples env lastSeenNs).1.1 pid dev
       mem := (view pid dev (s.real.handles.zipIdx.foldl (sampleDevice env lastSeenNs)
        { lastSeenTs := s.real.lastSeenTs, trace := s.trace })).mem
       seen := (s.processSamples env lastSeenNs).2.real.lastSeenTs.lookup dev
       calls := utilCalls (s.processSamples env lastSeenNs).2.trace dev } : DeviceView) =
      match handleAt s dev with
      | some h => (startView s dev).sample env lastSeenNs pid dev h
      | none => startView s dev := by
  have hstart : view pid dev { lastSeenTs := s.real.lastSeenTs, trace := s.trace } =
      startView s dev := rfl
  change view pid dev (s.real.handles.zipIdx.foldl (sampleDevice env lastSeenNs)
    { lastSeenTs := s.real.lastSeenTs, trace := s.trace }) = _
  cases hh : handleAt s dev with
  | none =>
      rw [foldl_project_const (view pid dev) (sampleDevice env lastSeenNs), hstart]
      intro st d hd
      rw [view_sampleDevice, if_neg (index_ne_of_handleAt_none hh hd)]
  | some h =>
      rw [foldl_project_at (view pid dev) (sampleDevice env lastSeenNs)
        (DeviceView.sample env lastSeenNs pid dev h) (mem_zipIdx_of_handleAt hh)
        (handles_zipIdx_nodup s), hstart]
      · intro st
        rw [view_sampleDevice, if_pos (UInt32.ofNat_toNat)]
      · intro st d hd hne
        rw [view_sampleDevice, if_neg (index_ne_of_handleAt hh hd hne)]

/-- The call that `ProcessSamples` makes for a device. -/
def sessionCall (env : NvmlEnv δ) (lastSeenNs : UInt64) (s : Session δ) (dev : UInt32) (h : δ) :
    UtilCall :=
  utilCall env lastSeenNs (s.real.lastSeenTs.lookup dev) h

/-- The samples returned for a (pid, device). -/
theorem keySamples_processSamples (env : NvmlEnv δ) (lastSeenNs : UInt64) (s : Session δ)
    (pid dev : UInt32) :
    keySamples (s.processSamples env lastSeenNs).1.1 pid dev =
      match handleAt s dev with
      | some h =>
          if isHard (sessionCall env lastSeenNs s dev h).ret then []
          else keyOut (unixNano env.samplesNow) dev pid (reported (env.device h) pid)
            ((sessionCall env lastSeenNs s dev h).samples.filter (fun x => x.pid = pid))
      | none => [] := by
  have hv := congrArg DeviceView.out (view_processSamples env lastSeenNs s pid dev)
  simp only at hv
  rw [hv]
  cases handleAt s dev with
  | none => rfl
  | some h =>
      simp only [DeviceView.sample_out, startView, sessionCall, Option.or_none, List.nil_append]
      rfl

/-- The watermark of a device after the call. -/
theorem lastSeenTs_processSamples (env : NvmlEnv δ) (lastSeenNs : UInt64) (s : Session δ)
    (dev : UInt32) :
    ((s.processSamples env lastSeenNs).2.real.lastSeenTs.lookup dev).getD 0 =
      match handleAt s dev with
      | some h =>
          if isHard (sessionCall env lastSeenNs s dev h).ret then
            (s.real.lastSeenTs.lookup dev).getD 0
          else max ((s.real.lastSeenTs.lookup dev).getD 0)
            (peakTs (sessionCall env lastSeenNs s dev h).samples)
      | none => (s.real.lastSeenTs.lookup dev).getD 0 := by
  have hv := congrArg DeviceView.seen (view_processSamples env lastSeenNs s 0 dev)
  simp only at hv
  rw [hv]
  cases handleAt s dev with
  | none => rfl
  | some h =>
      simp only [DeviceView.sample_seen, startView, sessionCall]
      rfl

/-- The calls made for a device. -/
theorem utilCalls_processSamples (env : NvmlEnv δ) (lastSeenNs : UInt64) (s : Session δ)
    (dev : UInt32) :
    utilCalls (s.processSamples env lastSeenNs).2.trace dev =
      utilCalls s.trace dev ++
        ((handleAt s dev).map (sessionCall env lastSeenNs s dev)).toList := by
  have hv := congrArg DeviceView.calls (view_processSamples env lastSeenNs s 0 dev)
  simp only at hv
  rw [hv]
  cases handleAt s dev with
  | none => simp [startView]
  | some h =>
      simp only [DeviceView.sample_calls, startView]
      rfl

/-- A tick over `Real`: the samples and the backend it leaves are those of the one
`ProcessSamples` call. -/
theorem tick_real (env : TickEnv (NvmlEnv δ)) (s : State (Session δ)) :
    (tick (realSource δ) env s).samples = (s.source.processSamples env.source
        (minLastSeen env.lastSeenOrder s.lastSeenPerDevice)).1.1 ∧
      (tick (realSource δ) env s).state.source = (s.source.processSamples env.source
        (minLastSeen env.lastSeenOrder s.lastSeenPerDevice)).2 := by
  have h := tick_devices_ok (realSource δ) env s rfl
  rw [h]
  exact ⟨rfl, rfl⟩

end GpuEbpfBridge
