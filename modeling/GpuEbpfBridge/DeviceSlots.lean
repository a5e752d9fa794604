import GpuEbpfBridge.TickSpec

/-! # The device count and the device slots

`gpu_device` has `GPU_MAX_DEVICES` slots.  The device loop logs the failure of an update past the
last slot and goes on, and `gpu_meta` is then written with the number of all devices.  So
`n_devices` bounds the slots that hold data of the tick only while there are no more devices than
slots (`n_devices_honest_iff`). -/

namespace GpuEbpfBridge

open Lib

variable {ε σ : Type}

/-- The snapshots are those of devices 0, 1, 2, ... in order. -/
def IndexedInOrder (devs : List DeviceSnapshot) : Prop :=
  ∀ i (h : i < devs.length), devs[i].index.toNat = i

instance (devs : List DeviceSnapshot) : Decidable (IndexedInOrder devs) :=
  inferInstanceAs (Decidable (∀ i (h : i < devs.length), devs[i].index.toNat = i))

/-- Every index below `n_devices` is a slot, and the slot holds the snapshot of that device. -/
def NDevicesHonest (m : Maps) (devs : List DeviceSnapshot) : Prop :=
  ∀ i < m.gpuMeta.nDevices.toNat, ∃ (h : i < maxDevices) (h' : i < devs.length),
    m.gpuDevice ⟨i, h⟩ = deviceSnapshotToMap devs[i]

/-- What the kernel does with device updates: one fails exactly when its index is out of range. -/
def Outcome.DeviceUpdatesInRange (o : Outcome σ) : Prop :=
  ∀ x ∈ o.issued, ∀ idx, x.1.slot = .gpuDevice idx → (x.2 = true ↔ idx.toNat < maxDevices)

theorem IndexedInOrder.length_le {devs : List DeviceSnapshot} (h : IndexedInOrder devs) :
    devs.length ≤ 2 ^ 32 := by
  by_contra hlt
  have hi := h (2 ^ 32) (by omega)
  have := devs[2 ^ 32].index.toNat_lt
  omega

theorem deviceUpdatesInRange_of_noFaults (S : Source ε σ) {env : TickEnv ε} (s : State σ)
    (h : env.faults = noFaults) : (tick S env s).DeviceUpdatesInRange := by
  rintro ⟨u, b⟩ hx idx hs
  obtain ⟨d, -, rfl, rfl⟩ := eq_device_of_mem_issued hx hs
  by_cases hc : (tick S env s).Completed
  · rw [tick_issued S env s hc, h] at hx
    obtain ⟨e, -, he⟩ := List.mem_map.mp hx
    obtain ⟨he₁, he₂⟩ := Prod.mk.inj he
    rw [← he₂, he₁]
    simp [noFaults, deviceUpdate, Update.inRange]
  · rw [(tick_not_completed S env s hc).2] at hx
    cases hx

/-- The slot of a device after a tick that completed. -/
theorem tick_gpuDevice (S : Source ε σ) (env : TickEnv ε) (s : State σ)
    (hidx : IndexedInOrder (tick S env s).devs) (hkernel : (tick S env s).DeviceUpdatesInRange)
    (hc : (tick S env s).Completed) {i : ℕ} (hi : i < maxDevices)
    (hi' : i < (tick S env s).devs.length) :
    (tick S env s).state.objs.gpuDevice ⟨i, hi⟩ = deviceSnapshotToMap (tick S env s).devs[i] := by
  have hto : (tick S env s).devs[i].index.toNat = i := hidx i hi'
  have hmem : deviceUpdate (tick S env s).devs[i] ∈ (tick S env s).issued.map Prod.fst := by
    rw [tick_updates S env s hc, mem_tickUpdates]
    exact Or.inl ⟨_, List.getElem_mem hi', rfl⟩
  obtain ⟨⟨u, b⟩, hx, hu⟩ := List.mem_map.mp hmem
  simp only at hu
  subst hu
  have hb : b = true := (hkernel _ hx (tick S env s).devs[i].index rfl).mpr (by rw [hto]; exact hi)
  subst hb
  -- the last update to the slot is that of the only snapshot with this index
  obtain ⟨w, hw⟩ := exists_lastWrite Update.slot (mem_taken.mpr hx)
  obtain ⟨hwmem, hwslot⟩ := lastWrite_mem _ hw
  obtain ⟨d, hd, rfl, hdi⟩ := eq_device_of_mem_issued (mem_taken.mp hwmem) hwslot
  obtain ⟨j, hj, rfl⟩ := List.getElem_of_mem hd
  have hij : j = i := by
    rw [← hidx j hj, hdi, hto]
  subst hij
  have hread := read_tick S env s (deviceUpdate (tick S env s).devs[j]).slot
  rw [hw, Option.some_or] at hread
  obtain ⟨h, hv⟩ := Maps.read_gpuDevice_eq.mp hread
  rw [← hv]
  congr 1
  exact Fin.ext hto.symm

/-- **When `n_devices` is an honest bound.**  After a tick over devices 0, ..., n - 1 that
published `gpu_meta`, every index below `n_devices` is a slot that holds the snapshot of its
device exactly when there are at most 16 devices, or 2^32 of them. -/
theorem n_devices_honest_iff (S : Source ε σ) (env : TickEnv ε) (s : State σ)
    (hidx : IndexedInOrder (tick S env s).devs) (hkernel : (tick S env s).DeviceUpdatesInRange)
    (hmeta : (tick S env s).err = none) :
    NDevicesHonest (tick S env s).state.objs (tick S env s).devs ↔
      (tick S env s).devs.length ≤ maxDevices ∨ (tick S env s).devs.length = 2 ^ 32 := by
  have hc : (tick S env s).Completed := by
    intro hnil
    have hm := (tick_err_eq_none_iff S env s).mp hmeta
    rw [hnil] at hm
    cases hm
  have hle := hidx.length_le
  have hn : (tick S env s).state.objs.gpuMeta.nDevices.toNat =
      (tick S env s).devs.length % 2 ^ 32 := by
    rw [tick_meta, if_pos hmeta, metaRecord, UInt32.toNat_ofNat']
  unfold NDevicesHonest
  rw [hn]
  constructor
  · intro h
    by_contra hno
    rw [not_or] at hno
    have hmod : (tick S env s).devs.length % 2 ^ 32 = (tick S env s).devs.length :=
      Nat.mod_eq_of_lt (by omega)
    obtain ⟨hlt, -⟩ := h maxDevices (by omega)
    omega
  · rintro (h | h)
    · intro i hi
      have hi' : i < (tick S env s).devs.length := lt_of_lt_of_le hi (Nat.mod_le _ _)
      exact ⟨by omega, hi', tick_gpuDevice S env s hidx hkernel hc (by omega) hi'⟩
    · intro i hi
      rw [h, Nat.mod_self] at hi
      exact absurd hi (Nat.not_lt_zero i)

/-- A tick over `n` devices. -/
def tickOver (n : ℕ) : TickEnv (List DeviceSnapshot × List ProcessSample) :=
  { source := ((List.range n).map (fun i => { index := UInt32.ofNat i, timestampNs := 5 }), [])
    now := 6 }

theorem n_devices_honest_sixteen :
    NDevicesHonest (tick fakeNvml (tickOver 16) (State.initial () 1)).state.objs
      (tickOver 16).source.1 :=
  (n_devices_honest_iff fakeNvml (tickOver 16) (State.initial () 1) (by decide +kernel)
    (deviceUpdatesInRange_of_noFaults fakeNvml _ rfl) (by decide +kernel)).mpr (by decide +kernel)

/-- With 17 devices `gpu_meta` announces 17, and index 16 is not a slot. -/
theorem n_devices_seventeen :
    IndexedInOrder (tick fakeNvml (tickOver 17) (State.initial () 1)).devs ∧
      (tick fakeNvml (tickOver 17) (State.initial () 1)).DeviceUpdatesInRange ∧
      (tick fakeNvml (tickOver 17) (State.initial () 1)).err = none ∧
      (tick fakeNvml (tickOver 17) (State.initial () 1)).state.objs.gpuMeta.nDevices = 17 ∧
      ¬ NDevicesHonest (tick fakeNvml (tickOver 17) (State.initial () 1)).state.objs
        (tick fakeNvml (tickOver 17) (State.initial () 1)).devs := by
  have hn : (tick fakeNvml (tickOver 17) (State.initial () 1)).state.objs.gpuMeta.nDevices = 17 := by
    decide +kernel
  refine ⟨by decide +kernel, deviceUpdatesInRange_of_noFaults fakeNvml _ rfl, by decide +kernel,
    hn, fun h => ?_⟩
  obtain ⟨hlt, -⟩ := h 16 (by rw [hn]; decide)
  exact absurd hlt (by decide)

end GpuEbpfBridge
