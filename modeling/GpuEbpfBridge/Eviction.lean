import GpuEbpfBridge.Board
import GpuEbpfBridge.Executions

/-! # LRU eviction

`gpu_per_pid` and `gpu_per_pid_per_device` are LRU hash maps: an update that finds no free node, be it
only to rewrite an entry of a full map, makes the kernel drop entries of its choice.  `tick` is over a
kernel that never does.  `evictingTick` is the same tick over one that may drop any entries of the two
maps before any update; without drops it is `tick` (`evictingTick_noDrops`).

No tick reads the maps, so a run with drops goes on as one without: same calls, same updates, same
errors (`evictingOutcomes_same`).  `evicted_run` adds what the drops do to the maps: at every moment
an entry is missing if it was dropped after its last update, and otherwise is as it would be without
eviction. -/

namespace GpuEbpfBridge

open Lib

namespace Change

/-- The entry that a change is about. -/
def slot : Change → Slot
  | store u => u.slot
  | erasePerPid pid => .gpuPerPid pid
  | erasePerPidPerDevice key => .gpuPerPidPerDevice key

/-- What a change leaves in its entry. -/
def stored : Change → Option Update
  | store u => some u
  | _ => none

theorem slot_of_stored {c : Change} {u : Update} (h : c.stored = some u) : u.slot = c.slot := by
  cases c with
  | store v =>
      obtain rfl := Option.some.inj h
      rfl
  | erasePerPid pid => cases h
  | erasePerPidPerDevice key => cases h

theorem inRange_of_stored {c : Change} (h : ∀ u, c.stored = some u → u.inRange = true) :
    c.inRange = true := by
  cases c with
  | store u => exact h u rfl
  | erasePerPid pid => rfl
  | erasePerPidPerDevice key => rfl

/-- A change replaces its own entry and no other. -/
theorem read_apply (m : Maps) {c : Change} (hc : c.inRange = true) (k : Slot) :
    (c.apply m).read k = if c.slot = k then c.stored else m.read k := by
  cases c with
  | store u => exact m.read_store hc k
  | erasePerPid pid =>
      cases k with
      | gpuPerPid pid' =>
          simp only [apply, Maps.read, slot, stored, Slot.gpuPerPid.injEq, GoMap.lookup_erase_eq]
          split_ifs
          · rfl
          · rfl
      | _ => simp [apply, Maps.read, slot]
  | erasePerPidPerDevice key =>
      cases k with
      | gpuPerPidPerDevice key' =>
          simp only [apply, Maps.read, slot, stored, Slot.gpuPerPidPerDevice.injEq,
            GoMap.lookup_erase_eq]
          split_ifs
          · rfl
          · rfl
      | _ => simp [apply, Maps.read, slot]

end Change

/-- The kernel dropped the entry after its last update. -/
def dropped (cs : List Change) (k : Slot) : Bool :=
  (lastWrite Change.slot cs k).any (fun c => c.stored.isNone)

/-- The entries of the two ARRAY maps are never dropped. -/
theorem dropped_array (cs : List Change) {k : Slot} (hk : k = .gpuMeta ∨ ∃ idx, k = .gpuDevice idx) :
    dropped cs k = false := by
  rw [dropped, Option.any_eq_false]
  intro c hc
  obtain ⟨-, hslot⟩ := lastWrite_mem Change.slot hc
  cases c with
  | store u => rfl
  | erasePerPid pid => rcases hk with rfl | ⟨idx, rfl⟩ <;> cases hslot
  | erasePerPidPerDevice key => rcases hk with rfl | ⟨idx, rfl⟩ <;> cases hslot

theorem read_evicted (m : Maps) {us : List Update} (hus : ∀ u ∈ us, u.inRange = true)
    {cs : List Change} (hcs : cs.filterMap Change.stored = us) (k : Slot) :
    (cs.foldl Change.apply m).read k = if dropped cs k then none else (m.storeAll us).read k := by
  subst hcs
  have hin : ∀ c ∈ cs, c.inRange = true := by
    intro c hc
    exact Change.inRange_of_stored fun u hu => hus u (List.mem_filterMap.mpr ⟨c, hc, hu⟩)
  exact read_forgetting Update.slot (fun m c hc k => Change.read_apply m (hin c hc) k)
    (fun m u hu k => m.read_store (hus u hu) k) (fun c u h => Change.slot_of_stored h) m k

/-! ### A kernel that drops entries -/

/-- An entry of the two LRU maps. -/
inductive LruEntry where
  | gpuPerPid (pid : UInt32)
  | gpuPerPidPerDevice (key : UInt64)
deriving DecidableEq, Repr

/-- What becomes of the maps when the kernel drops the entry. -/
def LruEntry.drop : LruEntry → Change
  | gpuPerPid pid => .erasePerPid pid
  | gpuPerPidPerDevice key => .erasePerPidPerDevice key

/-- The entries that the kernel drops before each update, by its position in the tick. -/
abbrev Drops := ℕ → List LruEntry

/-- A kernel that keeps all entries. -/
def noDrops : Drops := fun _ => []

/-- The maps after the kernel dropped some entries. -/
def Maps.drop (m : Maps) (l : List LruEntry) : Maps := (l.map LruEntry.drop).foldl Change.apply m

namespace Bridge

/-- One `Map.Update` call, before which the kernel drops some entries. -/
def evictingUpdate (faults : Faults) (drops : Drops) (b : Bridge) (u : Update) :
    Bridge × Option GoError :=
  Bridge.update faults { b with objs := b.objs.drop (drops b.issued.length) } u

/-- A loop of such calls that ignores their errors. -/
def evictingUpdateAll (faults : Faults) (drops : Drops) (b : Bridge) (us : List Update) : Bridge :=
  us.foldl (fun b u => (b.evictingUpdate faults drops u).1) b

end Bridge

/-- What happens to the maps while updates are issued from position `n` on: the drops before each
update, and the update where the kernel takes it. -/
def mapChanges (drops : Drops) : ℕ → List (Update × Bool) → List Change
  | _, [] => []
  | n, x :: issued =>
      (drops n).map LruEntry.drop ++
        ((if x.2 then [.store x.1] else []) ++ mapChanges drops (n + 1) issued)

theorem mapChanges_append (drops : Drops) (n : ℕ) (l l' : List (Update × Bool)) :
    mapChanges drops n (l ++ l') = mapChanges drops n l ++ mapChanges drops (n + l.length) l' := by
  induction l generalizing n with
  | nil => rfl
  | cons x l ih =>
      rw [List.cons_append, mapChanges, mapChanges, ih, List.length_cons, Nat.add_assoc,
        Nat.add_comm 1, List.append_assoc, List.append_assoc]

/-- Drops store nothing. -/
theorem filterMap_drop (l : List LruEntry) : (l.map LruEntry.drop).filterMap Change.stored = [] := by
  rw [List.filterMap_eq_nil_iff]
  intro c hc
  obtain ⟨e, -, rfl⟩ := List.mem_map.mp hc
  cases e with
  | gpuPerPid pid => rfl
  | gpuPerPidPerDevice key => rfl

theorem filterMap_mapChanges (drops : Drops) (n : ℕ) (issued : List (Update × Bool)) :
    (mapChanges drops n issued).filterMap Change.stored = taken issued := by
  induction issued generalizing n with
  | nil => rfl
  | cons x issued ih =>
      obtain ⟨u, b⟩ := x
      rw [mapChanges, List.filterMap_append, List.filterMap_append, filterMap_drop, ih]
      cases b with
      | true => rfl
      | false => rfl

theorem mapChanges_noDrops (n : ℕ) (issued : List (Update × Bool)) :
    mapChanges noDrops n issued = (taken issued).map Change.store := by
  induction issued generalizing n with
  | nil => rfl
  | cons x issued ih =>
      obtain ⟨u, b⟩ := x
      rw [mapChanges, ih]
      cases b with
      | true => rfl
      | false => rfl

theorem foldl_store (m : Maps) (us : List Update) :
    (us.map Change.store).foldl Change.apply m = m.storeAll us := by
  rw [List.foldl_map]
  rfl

/-- The kernel drops first; whether it takes the update is as without drops. -/
theorem Bridge.evictingUpdate_fst (faults : Faults) (drops : Drops) (b : Bridge) (u : Update) :
    (b.evictingUpdate faults drops u).1 =
      ⟨(mapChanges drops b.issued.length [(u, b.takes faults u)]).foldl Change.apply b.objs,
        b.issued ++ [(u, b.takes faults u)]⟩ := by
  have ht : Bridge.takes faults { b with objs := b.objs.drop (drops b.issued.length) } u =
      b.takes faults u := rfl
  rw [evictingUpdate, update_fst, ht, mapChanges, List.foldl_append]
  cases b.takes faults u with
  | true => rfl
  | false => rfl

theorem Bridge.evictingUpdateAll_eq (faults : Faults) (drops : Drops) (b : Bridge)
    (us : List Update) :
    b.evictingUpdateAll faults drops us =
      ⟨(mapChanges drops b.issued.length (attempts faults b.issued.length us)).foldl Change.apply
          b.objs,
        b.issued ++ attempts faults b.issued.length us⟩ := by
  induction us generalizing b with
  | nil =>
      have hnil : attempts faults b.issued.length [] = [] := rfl
      rw [hnil, List.append_nil]
      rfl
  | cons u us ih =>
      have hfold : b.evictingUpdateAll faults drops (u :: us) =
          (b.evictingUpdate faults drops u).1.evictingUpdateAll faults drops us := rfl
      have ht : b.takes faults u = (!faults b.issued.length && u.inRange) := rfl
      have hcons : (u, b.takes faults u) :: attempts faults (b.issued.length + 1) us =
          [(u, b.takes faults u)] ++ attempts faults (b.issued.length + 1) us := rfl
      rw [hfold, ih, evictingUpdate_fst, attempts_cons, ← ht, hcons, mapChanges_append,
        List.foldl_append, List.length_append, List.length_singleton, List.append_assoc]

/-- Nor does a drop change what an update reports. -/
theorem Bridge.evictingUpdate_snd (faults : Faults) (drops : Drops) (b : Bridge) (u : Update) :
    (b.evictingUpdate faults drops u).2 = (b.update faults u).2 := by
  refine Bridge.update_snd_congr ?_ u
  rfl

/-! ### A tick over it -/

variable {ε σ : Type}

/-- `tick`, over a kernel that drops entries. -/
def evictingTick (S : Source ε σ) (env : TickEnv ε) (drops : Drops) (s : State σ) : Outcome σ :=
  match S.devices env.source s.source with
  | ((_, some devErr), source) =>
      { state := { s with source := source }
        devs := [], samples := [], issued := []
        err := some (.wrapf "devices: %w" devErr) }
  | ((devs, none), source) =>
      let lastSeen := minLastSeen env.lastSeenOrder s.lastSeenPerDevice
      let ((samples, _), source) := S.processSamples env.source lastSeen source
      let b := (Bridge.mk s.objs []).evictingUpdateAll env.faults drops
        (dataUpdates env devs samples)
      let (b, err) := b.evictingUpdate env.faults drops (.gpuMeta (metaRecord env s.helper devs))
      { state :=
          { s with
            source := source
            lastSeenPerDevice := advanceAll s.lastSeenPerDevice samples
            objs := b.objs }
        devs := devs, samples := samples, issued := b.issued
        err := err.map (.wrapf "UpdateMeta: %w") }

/-- All updates of a tick whose calls returned `devs` and `samples`. -/
theorem evictingUpdates_eq (env : TickEnv ε) (drops : Drops) (s : State σ)
    (devs : List DeviceSnapshot) (samples : List ProcessSample) :
    (((Bridge.mk s.objs []).evictingUpdateAll env.faults drops
        (dataUpdates env devs samples)).evictingUpdate env.faults drops
          (.gpuMeta (metaRecord env s.helper devs))) =
      (⟨(mapChanges drops 0 (attempts env.faults 0
          (tickUpdates env s.helper devs samples))).foldl Change.apply s.objs,
          attempts env.faults 0 (tickUpdates env s.helper devs samples)⟩,
        (((Bridge.mk s.objs []).updateAll env.faults (dataUpdates env devs samples)).updateMeta
          env.faults (metaRecord env s.helper devs)).2) := by
  apply Prod.ext
  · have hall := Bridge.evictingUpdateAll_eq env.faults drops ⟨s.objs, []⟩
      (tickUpdates env s.helper devs samples)
    unfold tickUpdates at hall ⊢
    rw [Bridge.evictingUpdateAll, List.foldl_append] at hall
    exact hall
  · rw [Bridge.evictingUpdate_snd]
    refine Bridge.update_snd_congr ?_ _
    rw [Bridge.evictingUpdateAll_eq, Bridge.updateAll_eq]

/-- **A tick over a kernel that drops entries** is the tick, but for what it leaves in the maps. -/
theorem evictingTick_eq (S : Source ε σ) (env : TickEnv ε) (drops : Drops) (s : State σ) :
    evictingTick S env drops s =
      { tick S env s with
        state :=
          { (tick S env s).state with
            objs := (mapChanges drops 0 (tick S env s).issued).foldl Change.apply s.objs } } := by
  rcases tick_cases S env s with
    ⟨devs, err, src, hd, ho⟩ | ⟨devs, src, samples, serr, src', hd, hs, ho⟩
  · rw [ho]
    unfold evictingTick
    rw [hd]
    rfl
  · rw [ho, completedOutcome_issued]
    unfold evictingTick
    rw [hd]
    simp only [hs, evictingUpdates_eq]
    rw [← completedOutcome_issued env s devs samples src']
    rfl

/-- Without drops it is the tick. -/
theorem evictingTick_noDrops (S : Source ε σ) (env : TickEnv ε) (s : State σ) :
    evictingTick S env noDrops s = tick S env s := by
  rw [evictingTick_eq, mapChanges_noDrops, foldl_store, ← tick_objs]

/-! ### Runs -/

section runs

variable (S : Source ε σ)

/-- The state after a tick. -/
def evictingStep (s : State σ) (e : TickEnv ε × Drops) : State σ := (evictingTick S e.1 e.2 s).state

/-- The outcomes of the ticks of a run. -/
def evictingOutcomes (s : State σ) (es : List (TickEnv ε × Drops)) : List (Outcome σ) :=
  outputs (evictingStep S) (fun s e => evictingTick S e.1 e.2 s) s es

/-- What happens to the maps in a run. -/
def runChanges (s : State σ) (es : List (TickEnv ε × Drops)) : List Change :=
  (outputs (evictingStep S) (fun s e => mapChanges e.2 0 (evictingTick S e.1 e.2 s).issued)
    s es).flatten

variable {S}

/-- A tick with drops and one without, from states that differ in the maps alone. -/
theorem evictingTick_same {s t : State σ} (h : SameButMaps s t) (e : TickEnv ε × Drops) :
    SameReport (evictingTick S e.1 e.2 s) (tick S e.1 t) := by
  have hsame := h.after_tick (S := S) e.1
  rw [evictingTick_eq]
  exact ⟨⟨hsame.state.source, hsame.state.helper, hsame.state.lastSeen⟩, hsame.devs, hsame.samples,
    hsame.issued, hsame.err⟩

/-- **Drops change nothing but the maps**: tick by tick a run with them makes the same calls to the
backend, issues the same updates with the same success and returns the same errors. -/
theorem evictingOutcomes_same {s t : State σ} (h : SameButMaps s t)
    (es : List (TickEnv ε × Drops)) :
    List.Forall₂ SameReport (evictingOutcomes S s es) (outcomes S t (es.map Prod.fst)) ∧
      SameButMaps (reach (evictingStep S) s es) (reach (step S) t (es.map Prod.fst)) := by
  induction es generalizing s t with
  | nil => exact ⟨List.Forall₂.nil, h⟩
  | cons e es ih =>
      have htick := evictingTick_same (S := S) h e
      obtain ⟨hreports, hstate⟩ := ih htick.state
      exact ⟨List.Forall₂.cons htick hreports, hstate⟩

/-- The maps after a run. -/
theorem evictingRun_objs (s : State σ) (es : List (TickEnv ε × Drops)) :
    (reach (evictingStep S) s es).objs = (runChanges S s es).foldl Change.apply s.objs := by
  induction es generalizing s with
  | nil => rfl
  | cons e es ih =>
      have hrun : reach (evictingStep S) s (e :: es) =
          reach (evictingStep S) (evictingStep S s e) es := rfl
      have hchanges : runChanges S s (e :: es) =
          mapChanges e.2 0 (evictingTick S e.1 e.2 s).issued ++
            runChanges S (evictingStep S s e) es := rfl
      have hobjs : (evictingStep S s e).objs =
          (mapChanges e.2 0 (evictingTick S e.1 e.2 s).issued).foldl Change.apply s.objs := by
        rw [evictingStep, evictingTick_eq]
      rw [hrun, ih, hchanges, List.foldl_append, hobjs]

/-- What a run stores in the maps is what it stores without drops. -/
theorem filterMap_runChanges {s t : State σ} (h : SameButMaps s t)
    (es : List (TickEnv ε × Drops)) :
    (runChanges S s es).filterMap Change.stored =
      taken ((outcomes S t (es.map Prod.fst)).map (fun o => o.issued)).flatten := by
  induction es generalizing s t with
  | nil => rfl
  | cons e es ih =>
      have hsame := evictingTick_same (S := S) h e
      have hchanges : runChanges S s (e :: es) =
          mapChanges e.2 0 (evictingTick S e.1 e.2 s).issued ++
            runChanges S (evictingStep S s e) es := rfl
      have hout : outcomes S t ((e :: es).map Prod.fst) =
          tick S e.1 t :: outcomes S (step S t e.1) (es.map Prod.fst) := rfl
      have hlater : (runChanges S (evictingStep S s e) es).filterMap Change.stored =
          taken ((outcomes S (step S t e.1) (es.map Prod.fst)).map (fun o => o.issued)).flatten :=
        ih hsame.state
      rw [hchanges, List.filterMap_append, filterMap_mapChanges, hsame.issued, hlater, hout,
        List.map_cons, List.flatten_cons, taken_append]

end runs

/-- **Eviction makes entries disappear and nothing else.**  For every run of ticks over any backend,
whatever calls and updates fail and whatever the kernel drops before each update: the run makes the
same calls, issues the same updates with the same success and returns the same errors as without
drops, and ends in the same state but for the maps.  At every moment between two changes of the maps
(after the first `i`) the updates so far are the first ones of the run without drops, and an entry is
missing if it was dropped after its last update, and otherwise shows what these updates leave there;
`gpu_meta` and `gpu_device` always do. -/
theorem evicted_run (S : Source ε σ) (s₀ : State σ) (es : List (TickEnv ε × Drops)) :
    List.Forall₂ SameReport (evictingOutcomes S s₀ es) (outcomes S s₀ (es.map Prod.fst)) ∧
      SameButMaps (reach (evictingStep S) s₀ es) (reach (step S) s₀ (es.map Prod.fst)) ∧
      (reach (evictingStep S) s₀ es).objs = (runChanges S s₀ es).foldl Change.apply s₀.objs ∧
      ∀ i,
        let cs := (runChanges S s₀ es).take i
        let us := cs.filterMap Change.stored
        us <+: taken ((outcomes S s₀ (es.map Prod.fst)).map (fun o => o.issued)).flatten ∧
          ∀ k, (cs.foldl Change.apply s₀.objs).read k =
              (if dropped cs k then none else (s₀.objs.storeAll us).read k) ∧
            ((k = .gpuMeta ∨ ∃ idx, k = .gpuDevice idx) → dropped cs k = false) := by
  obtain ⟨hreports, hstate⟩ := evictingOutcomes_same (S := S) (s := s₀) ⟨rfl, rfl, rfl⟩ es
  refine ⟨hreports, hstate, evictingRun_objs s₀ es, fun i => ?_⟩
  intro cs us
  have hearlier : us <+:
      taken ((outcomes S s₀ (es.map Prod.fst)).map (fun o => o.issued)).flatten := by
    rw [← filterMap_runChanges (S := S) (s := s₀) ⟨rfl, rfl, rfl⟩ es]
    exact (List.take_prefix i _).filterMap _
  refine ⟨hearlier, fun k => ⟨read_evicted s₀.objs (fun u hu => ?_) rfl k, dropped_array cs⟩⟩
  exact inRange_of_mem_outcomes (mem_taken.mp (hearlier.subset hu))

/-- Where the kernel drops a detail record of process 7 at the end of the second tick, its aggregated
record still counts it. -/
example :
    let es := refusedDetail.zip [noDrops, fun i =>
      if i = 3 then [.gpuPerPidPerDevice (perPidPerDeviceKey 7 0)] else []]
    let m := (reach (evictingStep fakeNvml) (State.initial () 1) es).objs
    (m.gpuPerPid.lookup 7).map (fun v => v.usedGpuMemoryTotal) = some 70 ∧
      m.gpuPerPidPerDevice.lookup (perPidPerDeviceKey 7 0) = none := by
  decide +kernel

end GpuEbpfBridge
