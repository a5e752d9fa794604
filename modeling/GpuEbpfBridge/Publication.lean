import GpuEbpfBridge.DetailMap

/-! # Readers between two updates

A consumer reads the maps while a tick is under way.  Its view is the state after some number of
the single updates of a run (`mapsAt`), and the tick that wrote the record it finds in an entry
is given by `writtenBy`.  Each tick writes `gpu_meta` last (`issued_commitLast`), so a run is a
sequence of batches with a commit record, and what a reader that checks `gpu_meta` first may
rely on is `gated_read` at the entries of the tick (`gated_publication`). -/

namespace GpuEbpfBridge

open Lib

variable {ε σ : Type}

/-! ### The updates of a run -/

/-- The updates of a run in the order in which they are issued, each with the number of its
tick. -/
def updateLog (os : List (Outcome σ)) : List (ℕ × Update) :=
  numbered 0 (os.map (fun o => o.issued.map Prod.fst))

/-- The maps `m` after the first `i` updates, when all of them succeed. -/
def mapsAt (m : Maps) (log : List (ℕ × Update)) (i : ℕ) : Maps :=
  m.storeAll ((log.take i).map Prod.snd)

/-- The update whose record an entry holds after the first `i` updates, with the number of its
tick. -/
def writtenBy (log : List (ℕ × Update)) (i : ℕ) (k : Slot) : Option (ℕ × Update) :=
  lastWrite (fun w => w.2.slot) (log.take i) k

/-- The maps a run leaves are those after all of its updates. -/
theorem run_maps (S : Source ε σ) (s₀ : State σ) (envs : List (TickEnv ε))
    (ht : ∀ o ∈ outcomes S s₀ envs, o.AllTaken) :
    (reach (step S) s₀ envs).objs =
      mapsAt s₀.objs (updateLog (outcomes S s₀ envs))
        (updateLog (outcomes S s₀ envs)).length := by
  unfold mapsAt updateLog
  rw [List.take_length, numbered_map_snd]
  revert ht
  refine run_invariant (P := fun es (st : State σ) =>
    (∀ o ∈ outcomes S s₀ es, o.AllTaken) →
      st.objs = s₀.objs.storeAll ((outcomes S s₀ es).map
        (fun o => o.issued.map Prod.fst)).flatten) ?_ ?_ envs
  · intro _
    rfl
  · intro es e ih ht
    rw [outcomes_concat] at ht ⊢
    have htick := ht _ (List.mem_append_right _ (List.mem_singleton.mpr rfl))
    rw [step, tick_objs, ih (fun o ho => ht o (List.mem_append_left _ ho)), taken_eq_map htick,
      List.map_append, List.flatten_append, Maps.storeAll_append]
    simp

/-- Every update of a run whose updates all succeed is in range. -/
theorem updateLog_inRange {S : Source ε σ} {s : State σ} {envs : List (TickEnv ε)}
    (ht : ∀ o ∈ outcomes S s envs, o.AllTaken) {w : ℕ × Update}
    (hw : w ∈ updateLog (outcomes S s envs)) : w.2.inRange = true := by
  have hmem : w.2 ∈ (updateLog (outcomes S s envs)).map Prod.snd := List.mem_map_of_mem hw
  unfold updateLog at hmem
  rw [numbered_map_snd, List.mem_flatten] at hmem
  obtain ⟨us, hus, hu⟩ := hmem
  obtain ⟨o, ho, rfl⟩ := List.mem_map.mp hus
  obtain ⟨⟨u, b⟩, hx, hu⟩ := List.mem_map.mp hu
  have hb : b = true := ht o ho _ hx
  obtain ⟨pre, env, post, -, rfl⟩ := exists_of_mem_outputs ho
  subst hb hu
  exact tick_inRange S env _ hx

/-- What a reader finds in an entry is the record of the last update to it. -/
theorem read_mapsAt {m : Maps} {log : List (ℕ × Update)} (hlog : ∀ w ∈ log, w.2.inRange = true) {i : ℕ}
    {k : Slot} {w : ℕ × Update} (h : writtenBy log i k = some w) :
    (mapsAt m log i).read k = some w.2 := by
  have hrange : ∀ u ∈ (log.take i).map Prod.snd, u.inRange = true := by
    intro u hu
    obtain ⟨w, hw, rfl⟩ := List.mem_map.mp hu
    exact hlog w (List.mem_of_mem_take hw)
  have hlast : lastWrite (fun w : ℕ × Update => w.2.slot) (log.take i) k = some w := h
  unfold mapsAt
  rw [Maps.read_storeAll _ hrange, lastWrite_map, hlast]
  rfl

/-! ### Ticks as batches -/

/-- No update of a tick follows that of `gpu_meta`. -/
theorem issued_commitLast (S : Source ε σ) (env : TickEnv ε) (s : State σ) :
    CommitLast Update.slot .gpuMeta ((tick S env s).issued.map Prod.fst) := by
  by_cases hc : (tick S env s).Completed
  · rw [tick_updates S env s hc, tickUpdates, CommitLast, List.pairwise_append]
    have hdata : ∀ u ∈ dataUpdates env (tick S env s).devs (tick S env s).samples,
        u.slot ≠ .gpuMeta := by
      intro u hu hs
      simp only [dataUpdates, detailUpdates, aggregateUpdates, List.mem_append,
        List.mem_map] at hu
      rcases hu with ⟨d, -, rfl⟩ | ⟨e, -, rfl⟩ | ⟨e, -, rfl⟩
      · cases hs
      · cases hs
      · cases hs
    exact ⟨List.pairwise_of_forall_mem_list (fun u hu _ _ => hdata u hu),
      List.pairwise_singleton _ _, fun u hu _ _ => hdata u hu⟩
  · rw [(tick_not_completed S env s hc).2]
    exact List.Pairwise.nil

/-- The records a completed tick issues: one for each device, for each sampled pair and for
each sampled PID. -/
theorem mem_tick_updates (S : Source ε σ) (env : TickEnv ε) (s : State σ)
    (hc : (tick S env s).Completed) :
    (∀ d ∈ (tick S env s).devs, deviceUpdate d ∈ (tick S env s).issued.map Prod.fst) ∧
      ∀ x ∈ (tick S env s).samples, x.pid ≠ 0 →
        (∃ v, .gpuPerPid x.pid v ∈ (tick S env s).issued.map Prod.fst) ∧
          ∃ v, .gpuPerPidPerDevice (perPidPerDeviceKey x.pid x.deviceIndex) v ∈
            (tick S env s).issued.map Prod.fst := by
  constructor
  · intro d hd
    rw [tick_updates S env s hc, mem_tickUpdates]
    exact Or.inl ⟨d, hd, rfl⟩
  · intro x hx h0
    constructor
    · have hs : pidSamples (tick S env s).samples x.pid ≠ [] :=
        List.ne_nil_of_mem (mem_pidSamples.mpr ⟨hx, rfl⟩)
      exact exists_mem_issued S env s h0 hs
    · rw [tick_updates S env s hc]
      have hk : keySamples (tick S env s).samples x.pid x.deviceIndex ≠ [] :=
        List.ne_nil_of_mem (mem_keySamples.mpr ⟨hx, rfl, rfl⟩)
      have hlast := lastWrite_detail env s.helper (tick S env s).devs (tick S env s).samples
        x.pid x.deviceIndex
      rw [if_neg (not_or.mpr ⟨h0, hk⟩)] at hlast
      exact ⟨_, (lastWrite_mem _ hlast).1⟩

/-! ### Gated reads -/

/-- A reader that finds the `gpu_meta` record of tick `k` finds, then or later, in every entry
that tick `k` wrote, a record of tick `k` or of a later one. -/
theorem gated_entry (S : Source ε σ) (s₀ : State σ) (envs : List (TickEnv ε))
    (ht : ∀ o ∈ outcomes S s₀ envs, o.AllTaken) {i j k : ℕ} (hij : i ≤ j) {m : Update}
    (hm : writtenBy (updateLog (outcomes S s₀ envs)) i .gpuMeta = some (k, m)) {o : Outcome σ}
    (ho : (outcomes S s₀ envs)[k]? = some o) {u : Update} (hu : u ∈ o.issued.map Prod.fst) :
    ∃ k' w, k ≤ k' ∧ writtenBy (updateLog (outcomes S s₀ envs)) j u.slot = some (k', w) ∧
      w.slot = u.slot ∧
      (mapsAt s₀.objs (updateLog (outcomes S s₀ envs)) j).read u.slot = some w := by
  have hcommit : ∀ b ∈ (outcomes S s₀ envs).map (fun o => o.issued.map Prod.fst),
      CommitLast Update.slot .gpuMeta b := by
    intro b hb
    obtain ⟨o, ho, rfl⟩ := List.mem_map.mp hb
    obtain ⟨pre, env, post, -, rfl⟩ := exists_of_mem_outputs ho
    exact issued_commitLast S env _
  obtain ⟨k', w, hw, hk⟩ := gated_read Update.slot hcommit hij hm
    (by rw [List.getElem?_map, ho]; rfl) hu
  exact ⟨k', w, hk, hw, (lastWrite_mem _ hw).2, read_mapsAt (fun w => updateLog_inRange ht) hw⟩

/-- **Publication order.**  Take a run whose updates all succeed, without LRU eviction, from any state,
a point `i` between two of its updates and a later point `j`.  If the `gpu_meta` record read at `i` is that
of tick `k`, then the per-PID records read at `j`, of every PID other than 0 that tick `k`
sampled, and the device records of every device it was given, are of tick `k` or later. -/
theorem gated_publication (S : Source ε σ) (s₀ : State σ) (envs : List (TickEnv ε))
    (ht : ∀ o ∈ outcomes S s₀ envs, o.AllTaken) :
    let os := outcomes S s₀ envs
    let log := updateLog os
    ∀ i j, i ≤ j → ∀ k m, writtenBy log i .gpuMeta = some (k, m) →
      ∃ o, os[k]? = some o ∧ m = .gpuMeta (mapsAt s₀.objs log i).gpuMeta ∧
        (∀ x ∈ o.samples, x.pid ≠ 0 →
          (∃ k' v, k ≤ k' ∧ writtenBy log j (.gpuPerPid x.pid) = some (k', .gpuPerPid x.pid v) ∧
            (mapsAt s₀.objs log j).gpuPerPid.lookup x.pid = some v) ∧
          ∃ k' v, k ≤ k' ∧
            writtenBy log j (.gpuPerPidPerDevice (perPidPerDeviceKey x.pid x.deviceIndex)) =
              some (k', .gpuPerPidPerDevice (perPidPerDeviceKey x.pid x.deviceIndex) v) ∧
            (mapsAt s₀.objs log j).gpuPerPidPerDevice.lookup
              (perPidPerDeviceKey x.pid x.deviceIndex) = some v) ∧
        ∀ d ∈ o.devs, ∃ (h : d.index.toNat < maxDevices) (k' : ℕ) (v : DeviceMetrics), k ≤ k' ∧
          writtenBy log j (.gpuDevice d.index) = some (k', .gpuDevice d.index v) ∧
          (mapsAt s₀.objs log j).gpuDevice ⟨d.index.toNat, h⟩ = v := by
  intro os log i j hij k m hm
  obtain ⟨hmem, hslot⟩ := lastWrite_mem _ hm
  have hlog : (0 + k, m) ∈ log := by
    rw [Nat.zero_add]
    exact List.mem_of_mem_take hmem
  obtain ⟨b, hb, hmb⟩ := mem_numbered.mp hlog
  rw [List.getElem?_map, Option.map_eq_some_iff] at hb
  obtain ⟨o, ho, rfl⟩ := hb
  have hgated := fun {u} => gated_entry S s₀ envs ht hij hm ho (u := u)
  have hoc : o.Completed := by
    intro hnil
    rw [hnil] at hmb
    cases hmb
  obtain ⟨pre, env, post, -, hot⟩ := exists_of_mem_outputs (List.mem_of_getElem? ho)
  subst hot
  obtain ⟨hdevs, hpids⟩ := mem_tick_updates S env _ hoc
  refine ⟨_, ho, ?_, fun x hx h0 => ?_, fun d hd => ?_⟩
  · have hread := read_mapsAt (m := s₀.objs) (fun w => updateLog_inRange ht) hm
    rw [Maps.read, Option.some.injEq] at hread
    exact hread.symm
  · obtain ⟨⟨v, hv⟩, ⟨v', hv'⟩⟩ := hpids x hx h0
    constructor
    · obtain ⟨k', w, hk, hw, hs, hr⟩ := hgated hv
      cases w <;> cases hs
      exact ⟨k', _, hk, hw, Maps.read_gpuPerPid_eq.mp hr⟩
    · obtain ⟨k', w, hk, hw, hs, hr⟩ := hgated hv'
      cases w <;> cases hs
      exact ⟨k', _, hk, hw, Maps.read_gpuPerPidPerDevice_eq.mp hr⟩
  · obtain ⟨k', w, hk, hw, hs, hr⟩ := hgated (hdevs d hd)
    cases w <;> cases hs
    obtain ⟨h, hv⟩ := Maps.read_gpuDevice_eq.mp hr
    exact ⟨h, k', _, hk, hw, hv⟩

/-- A reader that looks at `gpu_meta` after the first tick of `shrinkingProcess`, and at the
process while the second tick is writing its device records. -/
theorem gated_publication_shrinkingProcess :
    let log := updateLog (outcomes fakeNvml (State.initial () 1) shrinkingProcess)
    writtenBy log 6 .gpuMeta = some (0, .gpuMeta ⟨1, 2, 6, 1⟩) ∧
      ∃ k' v, 0 ≤ k' ∧ writtenBy log 8 (.gpuPerPid 7) = some (k', .gpuPerPid 7 v) ∧
        (mapsAt Maps.empty log 8).gpuPerPid.lookup 7 = some v := by
  have hm : writtenBy (updateLog (outcomes fakeNvml (State.initial () 1) shrinkingProcess)) 6
      .gpuMeta = some (0, .gpuMeta ⟨1, 2, 6, 1⟩) := by decide +kernel
  refine ⟨hm, ?_⟩
  obtain ⟨o, ho, -, h, -⟩ := gated_publication fakeNvml (State.initial () 1) shrinkingProcess
    (by decide +kernel) 6 8 (by decide) 0 _ hm
  obtain rfl := Option.some.inj ho
  exact (h { pid := 7, deviceIndex := 1, timestampNs := 5, usedGpuMemory := 20 }
    (by decide +kernel) (by decide)).1

end GpuEbpfBridge
