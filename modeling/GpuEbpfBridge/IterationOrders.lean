import GpuEbpfBridge.Accounting
import GpuEbpfBridge.Confluence

/-! # Iteration orders over whole runs

Go leaves the iteration order of a map open, and every tick over `Real` ranges over four of them: the
memory table of `ProcessSamples`, the two tables of `tick` and the watermark table.  Two runs that
get the same answers from NVML but iterate in orders of their own (`SameAnswers`) stay in states
that nobody can tell apart (`SameState`): the same maps, the same watermarks in both tables and the
same calls to NVML.  `SameState.step` is the bisimulation, `iteration_orders_irrelevant` the run. -/

namespace GpuEbpfBridge

open Lib

variable {ε σ δ : Type}

/-! ### What a tick writes when the kernel refuses only keys out of range -/

/-- The key is one the map can hold. -/
def Slot.inRange : Slot → Bool
  | gpuDevice idx => idx.toNat < maxDevices
  | _ => true

theorem Update.inRange_slot (u : Update) : u.slot.inRange = u.inRange := by
  cases u with
  | _ => rfl

theorem tickReport_wrote_noFaults {S : Source ε σ} {env : TickEnv ε} {s : State σ}
    (hf : env.faults = noFaults) (hc : (tick S env s).Completed)
    (hr : (tickReport S env s).Regular) (k : Slot) :
    (tickReport S env s).wrote k = (k.inRange && ((tickReport S env s).publication k).isSome) := by
  have hlast : lastWrite Update.slot
      (tickUpdates env s.helper (tick S env s).devs (tick S env s).samples) k =
        (tickReport S env s).publication k := lastWrite_publication env (tickReport S env s) rfl hr k
  have hissued := tick_issued S env s hc
  rw [Bool.eq_iff_iff, tickReport_wrote, Bool.and_eq_true_iff, ← hlast, hissued, hf]
  constructor
  · rintro ⟨u, hu, rfl⟩
    rw [Update.inRange_slot]
    refine ⟨inRange_of_mem_attempts hu, ?_⟩
    have hmem := List.mem_map_of_mem (f := Prod.fst) hu
    rw [attempts_map_fst] at hmem
    obtain ⟨w, hw⟩ := exists_lastWrite Update.slot hmem
    exact Option.isSome_iff_exists.mpr ⟨w, hw⟩
  · rintro ⟨hk, hsome⟩
    obtain ⟨w, hw⟩ := Option.isSome_iff_exists.mp hsome
    obtain ⟨hmem, rfl⟩ := lastWrite_mem Update.slot hw
    obtain ⟨i, hi⟩ := List.mem_iff_getElem?.mp hmem
    rw [Update.inRange_slot] at hk
    exact ⟨w, List.mem_map.mpr ⟨(w, i), List.mk_mem_zipIdx_iff_getElem?.mpr hi,
      Prod.ext rfl (by simp [noFaults, hk])⟩, rfl⟩

/-! ### Tables seen through their lookups -/

theorem minLastSeen_congr (o o' : RangeOrder (UInt32 × UInt64)) {table table' : GoMap UInt32 UInt64}
    (h : ∀ d, table.lookup d = table'.lookup d) : minLastSeen o table = minLastSeen o' table' := by
  have hnil : ∀ {t : GoMap UInt32 UInt64}, t.entries = [] ↔ ∀ d, t.lookup d = none := by
    intro t
    constructor
    · intro he d
      exact Option.eq_none_iff_forall_not_mem.mpr (fun v hv => by
        rw [Option.mem_def, ← GoMap.mem_pairs, GoMap.pairs, he] at hv
        cases hv)
    · intro hd
      refine List.eq_nil_iff_forall_not_mem.mpr (fun e he => ?_)
      have hmem : (e.1, e.2) ∈ GoMap.pairs t := List.mem_map_of_mem he
      rw [GoMap.mem_pairs, hd] at hmem
      cases hmem
  by_cases he : table.entries = []
  · have he' : table'.entries = [] := hnil.mpr (fun d => (h d).symm.trans (hnil.mp he d))
    unfold minLastSeen
    rw [if_pos (by rw [he]; rfl), if_pos (by rw [he']; rfl)]
  · have he' : table'.entries ≠ [] := fun hn => he (hnil.mpr (fun d => (h d).trans (hnil.mp hn d)))
    have hleast := minLastSeen_isLeast o he
    simp only [h] at hleast
    exact hleast.unique (minLastSeen_isLeast o' he')

theorem lookup_advanceLastSeen (table : GoMap UInt32 UInt64) (dev : UInt32) (ts : UInt64)
    (d : UInt32) :
    (advanceLastSeen table dev ts).lookup d =
      if dev = d ∧ ts > (table.lookup d).getD 0 then some ts else table.lookup d := by
  unfold advanceLastSeen
  by_cases hd : dev = d
  · subst hd
    by_cases hts : ts > (table.lookup dev).getD 0
    · rw [if_pos hts, if_pos ⟨rfl, hts⟩, AList.lookup_insert]
    · have hno : ¬ (dev = dev ∧ ts > (table.lookup dev).getD 0) := fun h => hts h.2
      rw [if_neg hts, if_neg hno]
  · have hno : ¬ (dev = d ∧ ts > (table.lookup d).getD 0) := fun h => hd h.1
    rw [if_neg hno]
    by_cases hts : ts > (table.lookup dev).getD 0
    · rw [if_pos hts, GoMap.lookup_insert_eq, if_neg hd]
    · rw [if_neg hts]

/-- The watermark of a device after the samples of a tick. -/
theorem lookup_advanceAll (table : GoMap UInt32 UInt64) (samples : List ProcessSample) (d : UInt32) :
    (advanceAll table samples).lookup d =
      if greatest samples d > (table.lookup d).getD 0 then some (greatest samples d)
      else table.lookup d := by
  induction samples using List.reverseRecOn with
  | nil =>
      have hno : ¬ greatest [] d > (table.lookup d).getD 0 := not_lt.mpr UInt64.zero_le
      rw [if_neg hno]
      rfl
  | append_singleton samples x ih =>
      have hstep : advanceAll table (samples ++ [x]) =
          advanceLastSeen (advanceAll table samples) x.deviceIndex x.timestampNs := by
        unfold advanceAll
        rw [List.foldl_append]
        rfl
      rw [hstep, greatest_concat, lookup_advanceLastSeen, ih]
      by_cases hd : x.deviceIndex = d
      · rw [if_pos hd]
        simp only [hd, true_and]
        by_cases hg : greatest samples d > (table.lookup d).getD 0
        · rw [if_pos hg, Option.getD_some, if_pos (lt_max_of_lt_left hg)]
          split_ifs with hx
          · rw [max_eq_right (le_of_lt hx)]
          · rw [max_eq_left (not_lt.mp hx)]
        · rw [if_neg hg]
          by_cases hx : x.timestampNs > (table.lookup d).getD 0
          · have hle : greatest samples d ≤ x.timestampNs := le_trans (not_lt.mp hg) (le_of_lt hx)
            rw [if_pos hx, max_eq_right hle, if_pos hx]
          · rw [if_neg hx, if_neg (not_lt.mpr (max_le (not_lt.mp hg) (not_lt.mp hx)))]
      · rw [if_neg hd, if_neg (fun h => hd h.1)]

theorem greatest_perm {l l' : List ProcessSample} (h : l.Perm l') (d : UInt32) :
    greatest l d = greatest l' d := peak_perm _ (h.filter _)

/-! ### The samples of `Real` -/

/-- `Real` reports no MIG instance. -/
theorem migInstance_of_mem_keyOut {tsNs : UInt64} {dev pid : UInt32} {mem : Option UInt64}
    {l : List UtilSample} {x : ProcessSample} (h : x ∈ keyOut tsNs dev pid mem l) :
    x.migInstance = 0 := by
  cases l with
  | nil =>
      obtain ⟨u, -, rfl⟩ := List.mem_map.mp h
      rfl
  | cons s l =>
      rcases List.mem_cons.mp h with rfl | h
      · rfl
      · obtain ⟨y, -, rfl⟩ := List.mem_map.mp h
        rfl

/-- A sample of `Real` is of one of its devices. -/
theorem mem_keyOut_of_mem_processSamples {env : NvmlEnv δ} {n : UInt64} {s : Session δ}
    {x : ProcessSample} (hx : x ∈ (s.processSamples env n).1.1) :
    x.deviceIndex ∈ deviceIndices s ∧ x.migInstance = 0 := by
  have hk : x ∈ keySamples (s.processSamples env n).1.1 x.pid x.deviceIndex :=
    mem_keySamples.mpr ⟨hx, rfl, rfl⟩
  rw [keySamples_processSamples] at hk
  rw [mem_deviceIndices]
  cases hh : handleAt s x.deviceIndex with
  | none =>
      rw [hh] at hk
      cases hk
  | some h =>
      rw [hh] at hk
      simp only at hk
      split_ifs at hk
      · cases hk
      · exact ⟨rfl, migInstance_of_mem_keyOut hk⟩

/-- A tick over fewer than 256 devices makes a regular report. -/
theorem realReport_regular (env : TickEnv (NvmlEnv δ)) {s : State (Session δ)}
    (hlen : s.source.real.handles.length < 256) :
    (tickReport (realSource δ) env s).Regular ∧
      OneInstance (tickReport (realSource δ) env s).samples := by
  obtain ⟨hsamples, -⟩ := tick_real env s
  have hdevs : (tick (realSource δ) env s).devs = (s.source.devices env.source).1.1 := by
    rw [tick_devices_ok (realSource δ) env s rfl]
    rfl
  refine ⟨⟨?_, fun pid hcard => ?_⟩, ?_⟩
  · have hmap : (tickReport (realSource δ) env s).devs.map (fun d => d.index) =
        (s.source.real.handles.zipIdx.map Prod.snd).map UInt32.ofNat := by
      have hl : (tickReport (realSource δ) env s).devs.map (fun d => d.index) =
          (s.source.devices env.source).1.1.map (fun d => d.index) := congrArg _ hdevs
      rw [hl, Session.devices, List.map_map, List.map_map]
      rfl
    rw [hmap]
    refine List.Nodup.map_on ?_ (List.nodup_zipIdx_map_snd s.source.real.handles)
    intro i hi j hj he
    obtain ⟨d, hd, rfl⟩ := List.mem_map.mp hi
    obtain ⟨d', hd', rfl⟩ := List.mem_map.mp hj
    rw [← (handleAt_of_mem hd).1, ← (handleAt_of_mem hd').1, he]
  · have hsub : pidDevices (tickReport (realSource δ) env s).samples pid ⊆
        deviceIndices s.source := by
      intro d hd
      obtain ⟨x, hx, -, rfl⟩ := mem_pidDevices_iff_exists.mp hd
      have hx' : x ∈ (tick (realSource δ) env s).samples := hx
      rw [hsamples] at hx'
      exact (mem_keyOut_of_mem_processSamples hx').1
    have hle := (Finset.card_image_le (f := UInt32.toUInt8)).trans (Finset.card_le_card hsub)
    have hidx : (deviceIndices s.source).card ≤ s.source.real.handles.length := by
      refine Finset.card_image_le.trans ?_
      rw [Finset.card_range]
    unfold deviceBytes at hcard
    omega
  · intro x hx y hy _ _
    have hx' : x ∈ (tick (realSource δ) env s).samples := hx
    have hy' : y ∈ (tick (realSource δ) env s).samples := hy
    rw [hsamples] at hx' hy'
    rw [(mem_keyOut_of_mem_processSamples hx').2, (mem_keyOut_of_mem_processSamples hy').2]

/-! ### The bisimulation -/

/-- Two ticks at which NVML and the clocks answer alike, while each iterates in orders of its own; the
kernel refuses nothing but keys that are out of range. -/
structure SameAnswers (env env' : TickEnv (NvmlEnv δ)) : Prop where
  source : ∃ o, env'.source = { env.source with memOrder := o }
  now : env.now = env'.now
  faults : env.faults = noFaults
  faults' : env'.faults = noFaults

/-- Two backends that no later call can tell apart. -/
structure SameSession (s s' : Session δ) : Prop where
  handles : s.real.handles = s'.real.handles
  lastSeenTs : ∀ d, s.real.lastSeenTs.lookup d = s'.real.lastSeenTs.lookup d
  trace : s.trace = s'.trace

/-- Two states that neither a reader of the maps nor a later tick can tell apart. -/
structure SameState (s s' : State (Session δ)) : Prop where
  source : SameSession s.source s'.source
  helper : s.helper = s'.helper
  lastSeenPerDevice : ∀ d, s.lastSeenPerDevice.lookup d = s'.lastSeenPerDevice.lookup d
  objs : s.objs.read = s'.objs.read

/-- Two rounds of the loop over the handles that have made the same calls to NVML, and will. -/
structure SameCalls (st st' : SampleLoop) : Prop where
  lastSeenTs : ∀ d, st.lastSeenTs.lookup d = st'.lastSeenTs.lookup d
  trace : st.trace = st'.trace

/-- One round, whatever the order in which the memory table is visited. -/
theorem SameCalls.sampleDevice {st st' : SampleLoop} (h : SameCalls st st') (e : NvmlEnv δ)
    (o : UInt32 → RangeOrder (PidDevKey × UInt64)) (n : UInt64) (d : δ × ℕ) :
    SameCalls (sampleDevice e n st d) (sampleDevice { e with memOrder := o } n st' d) := by
  unfold GpuEbpfBridge.sampleDevice
  simp only [h.lastSeenTs, h.trace]
  split_ifs
  · exact ⟨h.lastSeenTs, rfl⟩
  · refine ⟨fun k => ?_, rfl⟩
    simp only [mergeDevice, foldl_mergeSample_maxTs, lookup_advanceLastSeenTs, h.lastSeenTs]

theorem SameCalls.foldl_sampleDevice {st st' : SampleLoop} (h : SameCalls st st') (e : NvmlEnv δ)
    (o : UInt32 → RangeOrder (PidDevKey × UInt64)) (n : UInt64) (l : List (δ × ℕ)) :
    SameCalls (l.foldl (GpuEbpfBridge.sampleDevice e n) st)
      (l.foldl (GpuEbpfBridge.sampleDevice { e with memOrder := o } n) st') := by
  induction l generalizing st st' with
  | nil => exact h
  | cons d l ih => exact ih (h.sampleDevice e o n d)

/-- A call of `ProcessSamples`. -/
theorem SameSession.processSamples {s s' : Session δ} (h : SameSession s s') {e e' : NvmlEnv δ}
    (he : ∃ o, e' = { e with memOrder := o }) (n : UInt64) :
    (s.processSamples e n).1.1.Perm (s'.processSamples e' n).1.1 ∧
      SameSession (s.processSamples e n).2 (s'.processSamples e' n).2 := by
  obtain ⟨o, rfl⟩ := he
  have hat : ∀ d, handleAt s d = handleAt s' d := fun d => by rw [handleAt, handleAt, h.handles]
  have hstart : ∀ d, startView s d = startView s' d := fun d => by
    rw [startView, startView, h.lastSeenTs, h.trace]
  -- at one (pid, device) both calls are one round of the loop, with the same answers
  have hview := fun pid dev => view_processSamples e n s pid dev
  have hview' := fun pid dev => view_processSamples { e with memOrder := o } n s' pid dev
  simp only [hat, hstart] at hview
  have hsame := fun pid dev => (hview pid dev).trans (hview' pid dev).symm
  refine ⟨perm_of_keySamples (fun pid dev => congrArg DeviceView.out (hsame pid dev)), ?_⟩
  have hinit : SameCalls { lastSeenTs := s.real.lastSeenTs, trace := s.trace }
      { lastSeenTs := s'.real.lastSeenTs, trace := s'.trace } :=
    ⟨h.lastSeenTs, h.trace⟩
  have hcalls := hinit.foldl_sampleDevice e o n s.real.handles.zipIdx
  unfold Session.processSamples
  rw [← h.handles]
  exact ⟨h.handles, hcalls.lastSeenTs, hcalls.trace⟩

/-- **One tick**: states that cannot be told apart stay so. -/
theorem SameState.step {s s' : State (Session δ)} (h : SameState s s')
    (hlen : s.source.real.handles.length < 256) {env env' : TickEnv (NvmlEnv δ)}
    (he : SameAnswers env env') :
    SameState (step (realSource δ) s env) (step (realSource δ) s' env') := by
  have hlen' : s'.source.real.handles.length < 256 := by rwa [← h.source.handles]
  have hbound : minLastSeen env.lastSeenOrder s.lastSeenPerDevice =
      minLastSeen env'.lastSeenOrder s'.lastSeenPerDevice := minLastSeen_congr _ _ h.lastSeenPerDevice
  obtain ⟨hsamples, hsource⟩ := tick_real env s
  obtain ⟨hsamples', hsource'⟩ := tick_real env' s'
  rw [← hbound] at hsamples' hsource'
  obtain ⟨hperm, hsession⟩ := h.source.processSamples he.source
    (minLastSeen env.lastSeenOrder s.lastSeenPerDevice)
  rw [← hsamples, ← hsamples'] at hperm
  rw [← hsource, ← hsource'] at hsession
  have hdevs : (tick (realSource δ) env s).devs = (tick (realSource δ) env' s').devs := by
    rw [tick_devices_ok (realSource δ) env s rfl, tick_devices_ok (realSource δ) env' s' rfl]
    obtain ⟨o, ho⟩ := he.source
    change (s.source.devices env.source).1.1 = (s'.source.devices env'.source).1.1
    rw [Session.devices, Session.devices, h.source.handles, ho]
  have halike : (tickReport (realSource δ) env s).Alike (tickReport (realSource δ) env' s') :=
    ⟨List.Perm.of_eq hdevs, hperm, he.now, h.helper⟩
  obtain ⟨hr, hone⟩ := realReport_regular env hlen
  have hr' := (realReport_regular env' hlen').1
  have hcompleted : ∀ (e : TickEnv (NvmlEnv δ)) (t : State (Session δ)),
      (tick (realSource δ) e t).Completed := by
    intro e t
    rw [tick_devices_ok (realSource δ) e t rfl]
    exact completedOutcome_completed e t _ _ _
  have hwrote : (tickReport (realSource δ) env s).wrote = (tickReport (realSource δ) env' s').wrote := by
    funext k
    rw [tickReport_wrote_noFaults he.faults (hcompleted env s) hr,
      tickReport_wrote_noFaults he.faults' (hcompleted env' s') hr', halike.publication hr hone]
  constructor
  case source => exact hsession
  case helper =>
      rw [GpuEbpfBridge.step, GpuEbpfBridge.step, tick_helper, tick_helper]
      exact h.helper
  case lastSeenPerDevice =>
      intro d
      rw [GpuEbpfBridge.step, GpuEbpfBridge.step, tick_lastSeen, tick_lastSeen, lookup_advanceAll,
        lookup_advanceAll, greatest_perm hperm, h.lastSeenPerDevice]
  case objs =>
      rw [GpuEbpfBridge.step, GpuEbpfBridge.step, tick_board _ _ _ hr, tick_board _ _ _ hr', h.objs]
      exact halike.post hwrote hr hone _

/-- **Go's iteration orders cannot be observed.**  Two runs of the poll loop over `Real`, with fewer
than 256 devices and the same answers from NVML and the clocks, whatever orders their four kinds
of map are visited in, leave the same maps and the same watermarks and have made the same calls to
NVML.  There is no LRU eviction here: a full map drops entries by the order of the updates. -/
theorem iteration_orders_irrelevant {s s' : State (Session δ)} (h : SameState s s')
    (hlen : s.source.real.handles.length < 256) {envs envs' : List (TickEnv (NvmlEnv δ))}
    (he : List.Forall₂ SameAnswers envs envs') :
    SameState (reach (step (realSource δ)) s envs) (reach (step (realSource δ)) s' envs') := by
  induction he generalizing s s' with
  | nil => exact h
  | cons he₁ _ ih =>
      refine ih (h.step hlen he₁) ?_
      rw [step, (tick_real _ s).2]
      exact hlen

/-- `twoDeviceTick` with every map visited the other way round. -/
def twoDeviceTickReversed : TickEnv (NvmlEnv ℕ) :=
  { twoDeviceTick with
    source := { twoDeviceTick.source with memOrder := fun _ => .reversed _ }
    lastSeenOrder := .reversed _
    perDevOrder := .reversed _
    aggOrder := .reversed _ }

theorem iteration_orders_irrelevant_twoDeviceTick :
    let s : State (Session ℕ) := State.initial { real := { handles := [0, 1] } } 1
    SameState (reach (step (realSource ℕ)) s [twoDeviceTick, twoDeviceTick])
      (reach (step (realSource ℕ)) s [twoDeviceTickReversed, twoDeviceTick]) := by
  intro s
  have hsame : SameState s s := ⟨⟨rfl, fun _ => rfl, rfl⟩, rfl, fun _ => rfl, rfl⟩
  exact iteration_orders_irrelevant hsame (by decide)
    (.cons ⟨⟨_, rfl⟩, rfl, rfl, rfl⟩ (.cons ⟨⟨_, rfl⟩, rfl, rfl, rfl⟩ .nil))

end GpuEbpfBridge
