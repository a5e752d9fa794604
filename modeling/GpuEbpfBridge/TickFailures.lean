import GpuEbpfBridge.TickSpec

/-! # Failures within a tick

A tick meets failures of three kinds.  When `Devices` fails it stops and leaves the maps and the
watermarks as they were; an error of `ProcessSamples` is logged and makes no difference
(`tick_silent`); a map update that fails keeps its own entry from being refreshed and nothing
else (`failed_updates_contained`).  So `gpu_meta` ages exactly over the ticks whose `Devices` call
or whose own `gpu_meta` update failed (`freshness_of_failing_tick`). -/

namespace GpuEbpfBridge

open Lib

variable {ε σ : Type}

/-! ### Calls that fail -/

/-- The backend `S` whose `ProcessSamples` returns the same slices and never an error. -/
def Source.silent (S : Source ε σ) : Source ε σ :=
  { S with
    processSamples := fun e n s => (((S.processSamples e n s).1.1, none),
      (S.processSamples e n s).2) }

/-- Whether `ProcessSamples` returned an error makes no difference to a tick. -/
theorem tick_silent (S : Source ε σ) (env : TickEnv ε) (s : State σ) :
    tick S.silent env s = tick S env s := rfl

/-- A tick whose `Devices` call fails. -/
theorem tick_devices_failed {S : Source ε σ} {env : TickEnv ε} {s : State σ}
    (h : (S.devices env.source s.source).1.2 ≠ none) :
    (tick S env s).state.objs = s.objs ∧
      (tick S env s).state.lastSeenPerDevice = s.lastSeenPerDevice ∧
      (tick S env s).issued = [] ∧ (tick S env s).err ≠ none := by
  rcases tick_cases S env s with ⟨_, err, source, _, ho⟩ | ⟨_, _, _, _, _, hd, _, _⟩
  · rw [ho]
    exact ⟨rfl, rfl, rfl, nofun⟩
  · rw [hd] at h
    exact absurd rfl h

/-- **What a failing tick does to the freshness signal.**  If `Devices` fails, the maps, `gpu_meta`
among them, and the watermarks are as before.  The tick is the same whether `ProcessSamples`
reports an error or not.  `gpu_meta` changes only in a tick whose `Devices` call succeeded and
that returned no error itself. -/
theorem freshness_of_failing_tick (S : Source ε σ) (env : TickEnv ε) (s : State σ) :
    ((S.devices env.source s.source).1.2 ≠ none →
      (tick S env s).state.objs = s.objs ∧
        (tick S env s).state.lastSeenPerDevice = s.lastSeenPerDevice ∧
        (tick S env s).issued = []) ∧
    tick S.silent env s = tick S env s ∧
    ((tick S env s).state.objs.gpuMeta ≠ s.objs.gpuMeta →
      (S.devices env.source s.source).1.2 = none ∧ (tick S env s).err = none ∧
        (tick S env s).state.objs.gpuMeta.lastUpdateNs = unixNano env.now) := by
  refine ⟨?_, tick_silent S env s, ?_⟩
  · intro h
    obtain ⟨hobjs, hseen, hissued, -⟩ := tick_devices_failed h
    exact ⟨hobjs, hseen, hissued⟩
  · intro hne
    have hdev : (S.devices env.source s.source).1.2 = none := by
      by_contra h
      exact hne (congrArg Maps.gpuMeta (tick_devices_failed h).1)
    rw [tick_meta] at hne ⊢
    split_ifs at hne ⊢ with herr
    · exact ⟨hdev, herr, rfl⟩
    · exact absurd rfl hne

/-- A backend that gives the answers it is told, slices and errors. -/
def answering :
    Source ((List DeviceSnapshot × Option GoError) × (List ProcessSample × Option GoError)) Unit
    where
  init _ s := (none, s)
  devices e s := (e.1, s)
  processSamples e _ s := (e.2, s)
  close _ s := (none, s)

/-- Process 7 on device 0. -/
def publishedTick : TickEnv ((List DeviceSnapshot × Option GoError) ×
    (List ProcessSample × Option GoError)) :=
  { source := (([{ index := 0, timestampNs := 5 }], none),
      ([{ pid := 7, deviceIndex := 0, timestampNs := 5, usedGpuMemory := 10 }], none))
    now := 6 }

/-- After it the devices are lost, and its data stay as they are. -/
theorem freshness_of_failing_tick_devices :
    let s := reach (step answering) (State.initial () 1) [publishedTick]
    let o := tick answering { source := (([], some (.new "nvml: lost")), ([], none)), now := 9 } s
    (s.objs.gpuMeta.lastUpdateNs = 6 ∧ (s.objs.gpuPerPid.lookup 7).isSome ∧
        s.lastSeenPerDevice.lookup 0 = some 5) ∧
      o.state.objs = s.objs ∧ o.state.lastSeenPerDevice = s.lastSeenPerDevice ∧ o.issued = [] := by
  intro s o
  exact ⟨by decide +kernel, (freshness_of_failing_tick answering _ s).1 (by decide)⟩

/-- `ProcessSamples` fails and `gpu_meta` advances all the same. -/
theorem failed_sampling_publishes :
    let env : TickEnv ((List DeviceSnapshot × Option GoError) ×
        (List ProcessSample × Option GoError)) :=
      { source := (([{ index := 0, timestampNs := 5 }], none), ([], some (.new "nvml: lost")))
        now := 6 }
    (answering.processSamples env.source 0 ()).1.2 ≠ none ∧
      (State.initial () 1).objs.gpuMeta.lastUpdateNs = 0 ∧
      (tick answering env (State.initial () 1)).state.objs.gpuMeta.lastUpdateNs = 6 := by
  decide +kernel

/-! ### Updates that fail -/

section attempts

variable {faults : Faults} {us : List Update} {i j : ℕ} {u v : Update}

theorem mem_attempts_iff {b : Bool} :
    (u, b) ∈ attempts faults 0 us ↔ ∃ i, us[i]? = some u ∧ b = (!faults i && u.inRange) := by
  unfold attempts
  rw [List.mem_map]
  constructor
  · rintro ⟨⟨v, i⟩, hm, he⟩
    obtain ⟨rfl, rfl⟩ := Prod.mk.inj he
    exact ⟨i, List.mk_mem_zipIdx_iff_getElem?.mp hm, rfl⟩
  · rintro ⟨i, hi, rfl⟩
    exact ⟨(u, i), List.mk_mem_zipIdx_iff_getElem?.mpr hi, rfl⟩

variable (hnd : (us.map Update.slot).Nodup)
include hnd

theorem position_unique (hi : us[i]? = some u) (hj : us[j]? = some v) (h : v.slot = u.slot) :
    j = i := by
  have hlt : j < (us.map Update.slot).length := by
    rw [List.length_map]
    exact (List.getElem?_eq_some_iff.mp hj).1
  refine (List.getElem?_inj hlt hnd).mp ?_
  rw [List.getElem?_map, List.getElem?_map, hj, hi, Option.map_some, Option.map_some, h]

/-- Where no entry is written twice, what is written to the entry of the update at position
`i`. -/
theorem lastWrite_taken (hu : us[i]? = some u) :
    lastWrite Update.slot (taken (attempts faults 0 us)) u.slot =
      if !faults i && u.inRange then some u else none := by
  have hmem : ∀ v, v ∈ taken (attempts faults 0 us) → v.slot = u.slot →
      v = u ∧ (!faults i && u.inRange) = true := by
    intro v hv hs
    obtain ⟨j, hj, hb⟩ := mem_attempts_iff.mp (mem_taken.mp hv)
    obtain rfl := position_unique hnd hu hj hs
    obtain rfl := Option.some.inj (hj.symm.trans hu)
    exact ⟨rfl, hb.symm⟩
  split_ifs with hb
  · have hin : u ∈ taken (attempts faults 0 us) :=
      mem_taken.mpr (mem_attempts_iff.mpr ⟨i, hu, hb.symm⟩)
    obtain ⟨w, hw⟩ := exists_lastWrite Update.slot hin
    obtain ⟨hwm, hws⟩ := lastWrite_mem _ hw
    rw [hw, (hmem w hwm hws).1]
  · rw [lastWrite_eq_none_iff]
    intro v hv hs
    exact hb (hmem v hv hs).2

end attempts

/-- The update of entry `k` is one of those that `faults` makes fail. -/
def Outcome.Hit (o : Outcome σ) (faults : Faults) (k : Slot) : Prop :=
  ∃ i u, (o.issued.map Prod.fst)[i]? = some u ∧ u.slot = k ∧ faults i = true

/-- What failing updates do to a tick from `s`: `o` is the outcome with them, `o₀` without. -/
structure Contained (s : State σ) (faults : Faults) (o o₀ : Outcome σ) : Prop where
  devs : o.devs = o₀.devs
  samples : o.samples = o₀.samples
  /-- The same records are written, in the same order. -/
  updates : o.issued.map Prod.fst = o₀.issued.map Prod.fst
  source : o.state.source = o₀.state.source
  helper : o.state.helper = o₀.state.helper
  lastSeenPerDevice : o.state.lastSeenPerDevice = o₀.state.lastSeenPerDevice
  kept : ∀ k, o.Hit faults k → o.state.objs.read k = s.objs.read k
  /-- The updates that the kernel does not fail or refuse take effect. -/
  effective : ∀ i u, (o.issued.map Prod.fst)[i]? = some u → faults i = false → u.inRange = true →
    o.state.objs.read u.slot = some u
  rest : ∀ k, ¬ o.Hit faults k → o.state.objs.read k = o₀.state.objs.read k
  meta_attempted : ∃ v, (o.issued.map Prod.fst).getLast? = some (.gpuMeta v)
  err_iff : o.err ≠ none ↔ o.Hit faults .gpuMeta

section contained

variable (env : TickEnv ε) (s : State σ) {devs : List DeviceSnapshot}
  (hnd : (devs.map (fun d => d.index)).Nodup) (samples : List ProcessSample) (source : σ)

theorem completedOutcome_updates (devs : List DeviceSnapshot) :
    (completedOutcome env s devs samples source).issued.map Prod.fst =
      tickUpdates env s.helper devs samples := by
  rw [completedOutcome_issued, attempts_map_fst]

/-- An entry after a tick some of whose updates fail. -/
theorem read_completedOutcome (devs : List DeviceSnapshot) (k : Slot) :
    (completedOutcome env s devs samples source).state.objs.read k =
      (lastWrite Update.slot (taken (attempts env.faults 0
        (tickUpdates env s.helper devs samples))) k).or (s.objs.read k) := by
  rw [completedOutcome_objs]
  exact Maps.read_storeAll s.objs (fun u hu => inRange_of_mem_attempts (mem_taken.mp hu)) k

include hnd

/-- The entries whose update failed. -/
theorem read_of_hit {k : Slot} (hk : (completedOutcome env s devs samples source).Hit env.faults k) :
    (completedOutcome env s devs samples source).state.objs.read k = s.objs.read k := by
  obtain ⟨i, u, hu, rfl, hf⟩ := hk
  rw [completedOutcome_updates] at hu
  have hslots := tickUpdates_slots_nodup env s.helper devs samples hnd
  rw [read_completedOutcome, lastWrite_taken hslots hu, hf]
  rfl

/-- The entries whose update succeeded. -/
theorem read_of_effective {i : ℕ} {u : Update}
    (hu : ((completedOutcome env s devs samples source).issued.map Prod.fst)[i]? = some u)
    (hf : env.faults i = false) (hr : u.inRange = true) :
    (completedOutcome env s devs samples source).state.objs.read u.slot = some u := by
  rw [completedOutcome_updates] at hu
  have hslots := tickUpdates_slots_nodup env s.helper devs samples hnd
  rw [read_completedOutcome, lastWrite_taken hslots hu, hf, hr]
  rfl

/-- The other entries. -/
theorem read_of_not_hit {k : Slot}
    (hk : ¬ (completedOutcome env s devs samples source).Hit env.faults k) :
    (completedOutcome env s devs samples source).state.objs.read k =
      (completedOutcome { env with faults := noFaults } s devs samples source).state.objs.read k := by
  have hslots := tickUpdates_slots_nodup env s.helper devs samples hnd
  rw [read_completedOutcome, read_completedOutcome]
  congr 1
  change _ = lastWrite Update.slot (taken (attempts noFaults 0
    (tickUpdates env s.helper devs samples))) k
  by_cases hw : ∃ u ∈ tickUpdates env s.helper devs samples, u.slot = k
  · obtain ⟨u, hu, rfl⟩ := hw
    obtain ⟨i, hi⟩ := List.mem_iff_getElem?.mp hu
    have hf : env.faults i = false := by
      rw [← Bool.not_eq_true]
      intro hf
      apply hk
      refine ⟨i, u, ?_, rfl, hf⟩
      rw [completedOutcome_updates]
      exact hi
    rw [lastWrite_taken hslots hi, lastWrite_taken hslots hi, hf]
    rfl
  · -- nothing is written there, whatever fails
    have hnone : ∀ faults, lastWrite Update.slot (taken (attempts faults 0
        (tickUpdates env s.helper devs samples))) k = none := by
      intro faults
      rw [lastWrite_eq_none_iff]
      intro u hu hs
      obtain ⟨i, hi, -⟩ := mem_attempts_iff.mp (mem_taken.mp hu)
      exact hw ⟨u, List.mem_of_getElem? hi, hs⟩
    rw [hnone, hnone]

/-- The `gpu_meta` update, the last of the tick, is the one that failed exactly if it is missing
from those that succeeded. -/
theorem meta_hit_iff :
    (completedOutcome env s devs samples source).Hit env.faults .gpuMeta ↔
      (Update.gpuMeta (metaRecord env s.helper devs), true) ∉
        (completedOutcome env s devs samples source).issued := by
  have hslots := tickUpdates_slots_nodup env s.helper devs samples hnd
  have hmeta : (tickUpdates env s.helper devs samples)[(dataUpdates env devs samples).length]? =
      some (.gpuMeta (metaRecord env s.helper devs)) := List.getElem?_concat_length
  unfold Outcome.Hit
  rw [completedOutcome_updates, completedOutcome_issued, mem_attempts_iff]
  constructor
  · rintro ⟨i, u, hu, hs, hf⟩ ⟨j, hj, hb⟩
    obtain rfl := position_unique hslots hj hu hs
    rw [hf] at hb
    cases hb
  · intro hno
    refine ⟨_, _, hmeta, rfl, ?_⟩
    by_contra hf
    apply hno
    refine ⟨_, hmeta, ?_⟩
    rw [Bool.not_eq_true] at hf
    rw [hf]
    rfl

end contained

/-- **Failed updates are contained.**  Over distinct devices, a tick some of whose updates fail
leaves what the same tick without failures leaves, except that the entries whose update failed
keep their old value; all other updates in range take effect, and the tick returns an error exactly
when the update of `gpu_meta` failed. -/
theorem failed_updates_contained (S : Source ε σ) (env : TickEnv ε) (s : State σ)
    (hdev : (S.devices env.source s.source).1.2 = none)
    (hnd : ((S.devices env.source s.source).1.1.map (fun d => d.index)).Nodup) :
    Contained s env.faults (tick S env s) (tick S { env with faults := noFaults } s) := by
  have herr := tick_err_eq_none_iff S env s
  have ho := tick_devices_ok S env s hdev
  have ho₀ := tick_devices_ok S { env with faults := noFaults } s hdev
  simp only at ho ho₀
  rw [ho] at herr ⊢
  rw [ho₀]
  generalize (S.devices env.source s.source).1.1 = devs at hnd herr
  generalize (S.processSamples env.source (minLastSeen env.lastSeenOrder s.lastSeenPerDevice)
    (S.devices env.source s.source).2) = r at herr
  constructor
  case devs => rfl
  case samples => rfl
  case source => rfl
  case helper => rfl
  case lastSeenPerDevice => rfl
  case updates =>
      rw [completedOutcome_updates, completedOutcome_updates]
      rfl
  case kept => exact fun k hk => read_of_hit env s hnd r.1.1 r.2 hk
  case effective => exact fun i u hu hf hr => read_of_effective env s hnd r.1.1 r.2 hu hf hr
  case rest => exact fun k hk => read_of_not_hit env s hnd r.1.1 r.2 hk
  case meta_attempted =>
      refine ⟨metaRecord env s.helper devs, ?_⟩
      rw [completedOutcome_updates, tickUpdates, List.getLast?_concat]
  case err_iff =>
      rw [meta_hit_iff env s hnd, ne_eq, herr]
      rfl

/-- One process on two devices, and the update of its detail record on device 1 fails. -/
def detailFails : TickEnv (List DeviceSnapshot × List ProcessSample) :=
  { source := ([{ index := 0, timestampNs := 5 }, { index := 1, timestampNs := 5 }],
      [{ pid := 7, deviceIndex := 0, timestampNs := 5, usedGpuMemory := 100 },
       { pid := 7, deviceIndex := 1, timestampNs := 5, usedGpuMemory := 40 }])
    now := 7
    faults := fun i => i = 2 }

theorem failed_updates_contained_detailFails :
    Contained (State.initial () 1) detailFails.faults
      (tick fakeNvml detailFails (State.initial () 1))
      (tick fakeNvml { detailFails with faults := noFaults } (State.initial () 1)) :=
  failed_updates_contained fakeNvml detailFails (State.initial () 1) rfl (by decide)

end GpuEbpfBridge
