import GpuEbpfBridge.Main
import GpuEbpfBridge.TickSpec

/-! # The reference count of NVML over an execution

`Init` that succeeds leaves the library with one reference more, `Init` that fails with as many as
before (`init_cases`), and `Close` gives back one reference at most, however many `Init` calls went
before it.  An execution of `run` calls `Init` twice on the backend it obtains, once in
`chooseSource` and once in the poll loop, and `Close` once: `nvml_balance_iff` says when the count
comes out even. -/

namespace GpuEbpfBridge

open Lib

variable {δ : Type}

/-! ### `Init` and `Close` -/

/-- `Init` loads the library. -/
def NvmlEnv.Loads (env : NvmlEnv δ) : Prop := wrap env.init = none

/-- `Init` loads the library, counts the devices and gets a handle for each. -/
def NvmlEnv.Succeeds (env : NvmlEnv δ) : Prop :=
  env.Loads ∧ wrap env.deviceGetCount.2 = none ∧
    ∀ i < env.deviceGetCount.1.toNat, wrap (env.deviceGetHandleByIndex i).2 = none

instance (env : NvmlEnv δ) : Decidable env.Loads :=
  inferInstanceAs (Decidable (wrap env.init = none))

instance (env : NvmlEnv δ) : Decidable env.Succeeds :=
  inferInstanceAs (Decidable (_ ∧ _ ∧ ∀ i < env.deviceGetCount.1.toNat, _))

theorem getHandles_eq_none_iff (env : NvmlEnv δ) (i n : ℕ) :
    (getHandles env i n).2 = none ↔
      ∀ j < n, wrap (env.deviceGetHandleByIndex (i + j)).2 = none := by
  induction n generalizing i with
  | zero => simp [getHandles]
  | succ n ih =>
      unfold getHandles
      cases hw : wrap (env.deviceGetHandleByIndex i).2 with
      | some err =>
          simp only [reduceCtorEq, false_iff]
          intro h
          have h0 := h 0 (Nat.succ_pos n)
          rw [Nat.add_zero, hw] at h0
          cases h0
      | none =>
          simp only [ih]
          constructor
          · intro h j hj
            cases j with
            | zero => exact hw
            | succ j =>
                rw [show i + (j + 1) = i + 1 + j by omega]
                exact h j (by omega)
          · intro h j hj
            rw [show i + 1 + j = i + (j + 1) by omega]
            exact h (j + 1) (by omega)

theorem handles_lt (env : NvmlEnv δ) :
    (getHandles env 0 env.deviceGetCount.1.toNat).1.length < 2 ^ 32 :=
  Nat.lt_of_le_of_lt (getHandles_length env 0 _) env.deviceGetCount.1.toNat_lt

/-- **Inversion of `Init`.**  It fails to load the library and changes nothing, it loads the
library and shuts it down again, or it succeeds. -/
theorem init_cases (env : NvmlEnv δ) (s : Session δ) :
    (¬ env.Loads ∧ ∃ err, s.init env = (some err, { s with trace := s.trace ++ [.init env.init] })) ∨
    (env.Loads ∧ ¬ env.Succeeds ∧ ∃ err handles h, s.init env = (some err,
      { real := { s.real with handles := handles, handles_length := h, initialized := false }
        trace := s.trace ++ [.init .success] ++ [.shutdown] })) ∨
    (env.Succeeds ∧ ∃ handles h, s.init env = (none,
      { real := { s.real with handles := handles, handles_length := h, initialized := true }
        trace := s.trace ++ [.init .success] })) := by
  unfold Session.init
  cases hw : wrap env.init with
  | some err => exact Or.inl ⟨by simp [NvmlEnv.Loads, hw], err, rfl⟩
  | none =>
      have hret : env.init = .success := (wrap_eq_none_iff env.init).mp hw
      cases hc : wrap env.deviceGetCount.2 with
      | some err =>
          refine Or.inr (Or.inl ⟨hw, by simp [NvmlEnv.Succeeds, hc],
            .wrapf "DeviceGetCount: %w" err, s.real.handles, s.real.handles_length, ?_⟩)
          rw [hret, List.append_assoc]
          rfl
      | none =>
          have hiff := getHandles_eq_none_iff env 0 env.deviceGetCount.1.toNat
          cases hh : (getHandles env 0 env.deviceGetCount.1.toNat).2 with
          | some err =>
              refine Or.inr (Or.inl ⟨hw, fun hs => ?_, err,
                (getHandles env 0 env.deviceGetCount.1.toNat).1, handles_lt env, ?_⟩)
              · have := hiff.mpr (fun j hj => by rw [Nat.zero_add]; exact hs.2.2 j hj)
                rw [hh] at this
                cases this
              · rw [List.append_assoc]
                simp only [hret, hh]
                rfl
          | none =>
              refine Or.inr (Or.inr ⟨⟨hw, hc, fun j hj => ?_⟩,
                (getHandles env 0 env.deviceGetCount.1.toNat).1, handles_lt env, ?_⟩)
              · have := hiff.mp hh j hj
                rwa [Nat.zero_add] at this
              · simp only [hret, hh]

theorem init_err_eq_none_iff (env : NvmlEnv δ) (s : Session δ) :
    (s.init env).1 = none ↔ env.Succeeds := by
  rcases init_cases env s with ⟨hl, _, h⟩ | ⟨_, hs, _, _, _, h⟩ | ⟨hs, _, _, h⟩
  · rw [h]
    exact iff_of_false (by simp) (fun hs => hl hs.1)
  · rw [h]
    exact iff_of_false (by simp) hs
  · rw [h]
    exact iff_of_true rfl hs

theorem init_closed (env : NvmlEnv δ) (s : Session δ) :
    (s.init env).2.real.closed = s.real.closed := by
  rcases init_cases env s with ⟨_, _, h⟩ | ⟨_, _, _, _, _, h⟩ | ⟨_, _, _, h⟩ <;> rw [h]

theorem init_initialized (env : NvmlEnv δ) (s : Session δ) :
    (s.init env).2.real.initialized =
      if env.Loads then decide env.Succeeds else s.real.initialized := by
  rcases init_cases env s with ⟨hl, _, h⟩ | ⟨hl, hs, _, _, _, h⟩ | ⟨hs, _, _, h⟩
  · rw [h, if_neg hl]
  · rw [h, if_pos hl, decide_eq_false hs]
  · rw [h, if_pos hs.1, decide_eq_true hs]

/-! ### The count -/

@[simp] theorem refCount_nil : refCount [] = 0 := rfl

@[simp] theorem refCount_append (l₁ l₂ : List NvmlCall) :
    refCount (l₁ ++ l₂) = refCount l₁ + refCount l₂ := balance_append _ l₁ l₂

@[simp] theorem refCount_cons (c : NvmlCall) (l : List NvmlCall) :
    refCount (c :: l) = c.weight + refCount l := balance_cons _ c l

theorem refCount_concat (l : List NvmlCall) (c : NvmlCall) :
    refCount (l ++ [c]) = refCount l + c.weight := by
  rw [refCount_append, refCount_cons, refCount_nil, add_zero]

@[simp] theorem weight_init_success : (NvmlCall.init .success).weight = 1 := rfl

@[simp] theorem weight_shutdown : NvmlCall.shutdown.weight = -1 := rfl

theorem weight_init_of_not_loads {env : NvmlEnv δ} (h : ¬ env.Loads) :
    (NvmlCall.init env.init).weight = 0 := by
  unfold NvmlEnv.Loads at h
  cases hret : env.init with
  | success => exact absurd (by rw [hret]; rfl) h
  | _ => rfl

/-- `Init` takes a reference if it succeeds, whatever the backend held before. -/
theorem init_refCount (env : NvmlEnv δ) (s : Session δ) :
    refCount (s.init env).2.trace = refCount s.trace + if env.Succeeds then 1 else 0 := by
  rcases init_cases env s with ⟨hl, _, h⟩ | ⟨_, hs, _, _, _, h⟩ | ⟨hs, _, _, h⟩
  · have hs : ¬ env.Succeeds := fun hs => hl hs.1
    rw [h, if_neg hs]
    simp [weight_init_of_not_loads hl]
  · rw [h, if_neg hs]
    simp
  · rw [h, if_pos hs]
    simp

/-- `Close` gives one reference back if the backend is open and initialised. -/
theorem close_refCount (env : NvmlEnv δ) (s : Session δ) :
    refCount (s.close env).2.trace =
      refCount s.trace - if s.real.closed = false ∧ s.real.initialized = true then 1 else 0 := by
  unfold Session.close
  cases s.real.closed <;> cases s.real.initialized <;> simp [sub_eq_add_neg]

/-! ### A backend never gives back more than it took -/

/-- The count was never negative, and an initialised backend holds a reference. -/
structure Session.RefHeld (s : Session δ) : Prop where
  solvent : Solvent NvmlCall.weight s.trace
  held : s.real.initialized = true → 1 ≤ refCount s.trace

theorem newReal_refHeld : (newReal δ).RefHeld :=
  ⟨solvent_nil _, by simp [newReal]⟩

theorem Session.RefHeld.init {s : Session δ} (h : s.RefHeld) (env : NvmlEnv δ) :
    (s.init env).2.RefHeld := by
  have hc : 0 ≤ refCount s.trace := h.solvent.nonneg
  have hheld := h.held
  rcases init_cases env s with ⟨hl, _, ho⟩ | ⟨_, _, _, _, _, ho⟩ | ⟨_, _, _, ho⟩
  · rw [ho]
    refine ⟨h.solvent.concat ?_, fun hi => ?_⟩
    · rw [weight_init_of_not_loads hl, add_zero]
      exact hc
    · rw [refCount_concat, weight_init_of_not_loads hl, add_zero]
      exact hheld hi
  · have hinit : Solvent NvmlCall.weight (s.trace ++ [.init .success]) := by
      refine h.solvent.concat ?_
      change 0 ≤ refCount s.trace + 1
      omega
    rw [ho]
    refine ⟨hinit.concat ?_, by simp⟩
    change 0 ≤ refCount (s.trace ++ [.init .success]) + -1
    rw [refCount_concat, weight_init_success]
    omega
  · rw [ho]
    refine ⟨h.solvent.concat ?_, fun _ => ?_⟩
    · change 0 ≤ refCount s.trace + 1
      omega
    · rw [refCount_concat, weight_init_success]
      omega

theorem Session.RefHeld.close {s : Session δ} (h : s.RefHeld) (env : NvmlEnv δ) :
    (s.close env).2.RefHeld := by
  unfold Session.close
  split
  · exact h
  · split
    · rename_i hi
      have hheld := h.held hi
      refine ⟨h.solvent.concat ?_, by simp⟩
      change 0 ≤ refCount s.trace + -1
      omega
    · exact ⟨h.solvent, h.held⟩

/-! ### Sampling leaves the count alone -/

/-- The calls from `s` to `s'` are not about the life of the library. -/
structure Session.SampledFrom (s s' : Session δ) : Prop where
  initialized : s'.real.initialized = s.real.initialized
  closed : s'.real.closed = s.real.closed
  calls : ∃ calls, s'.trace = s.trace ++ calls ∧ ∀ c ∈ calls, c.weight = 0

theorem Session.SampledFrom.refl (s : Session δ) : s.SampledFrom s :=
  ⟨rfl, rfl, [], (List.append_nil _).symm, by simp⟩

theorem sampleDevice_trace (env : NvmlEnv δ) (lastSeenNs : UInt64) (st : SampleLoop) (d : δ × ℕ) :
    ∃ seen samples ret, (sampleDevice env lastSeenNs st d).trace =
      st.trace ++ [.getProcessUtilization (UInt32.ofNat d.2) seen samples ret] := by
  unfold sampleDevice
  dsimp only
  split
  · exact ⟨_, _, _, rfl⟩
  · exact ⟨_, _, _, rfl⟩

theorem foldl_sampleDevice_trace (env : NvmlEnv δ) (lastSeenNs : UInt64) (l : List (δ × ℕ))
    (st : SampleLoop) :
    ∃ calls : List NvmlCall, (l.foldl (sampleDevice env lastSeenNs) st).trace = st.trace ++ calls ∧
      ∀ c ∈ calls, c.weight = 0 := by
  induction l generalizing st with
  | nil => exact ⟨[], (List.append_nil _).symm, by simp⟩
  | cons d l ih =>
      obtain ⟨seen, samples, ret, htrace⟩ := sampleDevice_trace env lastSeenNs st d
      obtain ⟨calls, hcalls, hzero⟩ := ih (sampleDevice env lastSeenNs st d)
      refine ⟨.getProcessUtilization (UInt32.ofNat d.2) seen samples ret :: calls, ?_, ?_⟩
      · rw [List.foldl_cons, hcalls, htrace, List.append_assoc]
        rfl
      · intro c hc
        rcases List.mem_cons.mp hc with rfl | hc
        · rfl
        · exact hzero c hc

theorem Session.SampledFrom.processSamples {s₀ s : Session δ} (h : s₀.SampledFrom s)
    (env : NvmlEnv δ) (lastSeenNs : UInt64) :
    s₀.SampledFrom (s.processSamples env lastSeenNs).2 := by
  obtain ⟨calls, hcalls, hzero⟩ := h.calls
  obtain ⟨calls', hcalls', hzero'⟩ := foldl_sampleDevice_trace env lastSeenNs
    s.real.handles.zipIdx { lastSeenTs := s.real.lastSeenTs, trace := s.trace }
  refine ⟨h.initialized, h.closed, calls ++ calls', ?_, ?_⟩
  · rw [← List.append_assoc, ← hcalls]
    exact hcalls'
  · intro c hc
    rcases List.mem_append.mp hc with hc | hc
    · exact hzero c hc
    · exact hzero' c hc

theorem Session.SampledFrom.refCount_eq {s s' : Session δ} (h : s.SampledFrom s') :
    refCount s'.trace = refCount s.trace := by
  obtain ⟨calls, hcalls, hzero⟩ := h.calls
  have hb : refCount calls = 0 := balance_eq_zero hzero
  rw [hcalls, refCount_append, hb, add_zero]

theorem Session.SampledFrom.refHeld {s s' : Session δ} (h : s.SampledFrom s') (hs : s.RefHeld) :
    s'.RefHeld := by
  obtain ⟨calls, hcalls, hzero⟩ := h.calls
  refine ⟨?_, fun hi => ?_⟩
  · rw [hcalls]
    exact hs.solvent.append_weightless hzero
  · rw [h.refCount_eq]
    exact hs.held (h.initialized ▸ hi)

/-! ### An execution of `run` -/

/-- A backend as `chooseSource` returns it. -/
structure Session.Started (s : Session δ) : Prop where
  refHeld : s.RefHeld
  initialized : s.real.initialized = true
  opened : s.real.closed = false
  one : refCount s.trace = 1

/-- `chooseSource` finds NVML in working order. -/
def RunEnv.FindsReal (env : RunEnv δ) (mode : Mode) : Prop :=
  mode ≠ .mock ∧ env.newRealPoller = none ∧ env.choose.1.Succeeds

theorem tryReal_cases (env : RunEnv δ) :
    (¬ (env.newRealPoller = none ∧ env.choose.1.Succeeds) ∧ ∃ err calls,
      tryReal env = (.error err, calls) ∧ Solvent NvmlCall.weight calls ∧ refCount calls = 0) ∨
    ((env.newRealPoller = none ∧ env.choose.1.Succeeds) ∧ ∃ s : Session δ,
      tryReal env = (.ok s, []) ∧ s.Started) := by
  unfold tryReal
  cases hp : env.newRealPoller with
  | some err => exact Or.inl ⟨by simp, err, [], rfl, solvent_nil _, rfl⟩
  | none =>
      have hheld := newReal_refHeld.init env.choose.1
      have hcount := init_refCount env.choose.1 (newReal δ)
      have hinit := init_initialized env.choose.1 (newReal δ)
      have hclosed := init_closed env.choose.1 (newReal δ)
      have herr := init_err_eq_none_iff env.choose.1 (newReal δ)
      rcases hi : (newReal δ).init env.choose.1 with ⟨err, s⟩
      rw [hi] at hheld hcount hinit hclosed herr
      cases err with
      | some err =>
          have hfail : ¬ env.choose.1.Succeeds := fun hs => by cases herr.mpr hs
          have hoff : s.real.initialized = false := by
            rw [hinit, decide_eq_false hfail]
            split <;> rfl
          refine Or.inl ⟨fun h => hfail h.2, err, _, rfl, (hheld.close env.dropped).solvent, ?_⟩
          rw [close_refCount, hcount, if_neg hfail, hoff]
          simp [newReal]
      | none =>
          have hs : env.choose.1.Succeeds := herr.mp rfl
          refine Or.inr ⟨⟨rfl, hs⟩, s, rfl, hheld, ?_, hclosed, ?_⟩
          · rw [hinit, if_pos hs.1, decide_eq_true hs]
          · rw [hcount, if_pos hs]
            simp [newReal]

/-- `chooseSource` returns no `Real`, and what it tried is given back, or it returns one that
holds the only reference. -/
theorem chooseSource_cases (env : RunEnv δ) (mode : Mode) :
    (¬ env.FindsReal mode ∧ ∃ calls, Solvent NvmlCall.weight calls ∧ refCount calls = 0 ∧
      ((∃ err, chooseSource env mode = (.error err, calls)) ∨
        ∃ m name, chooseSource env mode = (.ok (.inr m, name), calls))) ∨
    (env.FindsReal mode ∧ ∃ s : Session δ, s.Started ∧
      chooseSource env mode = (.ok (.inl s, "real"), [])) := by
  have hmock : ∃ m name, tryMock env = .ok (.inr m, name) := ⟨_, _, rfl⟩
  obtain ⟨m, name, hm⟩ := hmock
  cases mode with
  | mock =>
      refine Or.inl ⟨fun h => h.1 rfl, [], solvent_nil _, rfl, Or.inr ⟨m, name, ?_⟩⟩
      rw [chooseSource, hm]
  | real =>
      rcases tryReal_cases env with ⟨hno, err, calls, ht, hsol, hzero⟩ | ⟨hyes, s, ht, hs⟩
      · refine Or.inl ⟨fun h => hno h.2, calls, hsol, hzero,
          Or.inl ⟨.wrapf "real NVML backend requested but unavailable: %w" err, ?_⟩⟩
        rw [chooseSource, ht]
      · refine Or.inr ⟨⟨by decide, hyes⟩, s, hs, ?_⟩
        rw [chooseSource, ht]
  | auto =>
      rcases tryReal_cases env with ⟨hno, err, calls, ht, hsol, hzero⟩ | ⟨hyes, s, ht, hs⟩
      · refine Or.inl ⟨fun h => hno h.2, calls, hsol, hzero, Or.inr ⟨m, name, ?_⟩⟩
        rw [chooseSource, ht, hm]
      · refine Or.inr ⟨⟨by decide, hyes⟩, s, hs, ?_⟩
        rw [chooseSource, ht]

/-- What the poll loop does to its backend. -/
theorem pollerRun_cases {ε σ : Type} (S : Source ε σ) (env : LoopEnv ε) (s : State σ) :
    (∃ err source, S.init env.init s.source = (some err, source) ∧
      pollerRun S env s = (some (.wrapf "nvml init: %w" err), { s with source := source })) ∨
    (∃ source, S.init env.init s.source = (none, source) ∧ (pollerRun S env s).1 = none ∧
      (pollerRun S env s).2.source = (S.close env.close
        (reach (step S) { s with source := source } (env.initial :: env.ticks)).source).2) := by
  unfold pollerRun
  rcases S.init env.init s.source with ⟨err, source⟩
  cases err with
  | some err => exact Or.inl ⟨err, source, rfl, rfl⟩
  | none => exact Or.inr ⟨source, rfl, rfl, rfl⟩

/-- A run of ticks over the backends leaves a `Real` sampled. -/
theorem run_backend_real {s : State (Backend δ)} {b : Session δ} (h : s.source = .inl b)
    (envs : List (TickEnv (BackendEnv δ))) :
    ∃ b', (reach (step (backendSource δ)) s envs).source = .inl b' ∧ b.SampledFrom b' := by
  refine run_source (backendSource δ) (P := fun x => ∃ b', x = .inl b' ∧ b.SampledFrom b')
    ?_ ?_ ⟨b, h, Session.SampledFrom.refl b⟩ envs
  · rintro e _ ⟨b', rfl, hb⟩
    exact ⟨b', rfl, hb⟩
  · rintro e n _ ⟨b', rfl, hb⟩
    exact ⟨_, rfl, hb.processSamples e.1 n⟩

theorem run_backend_mock {s : State (Backend δ)} {m : Mock} (h : s.source = .inr m)
    (envs : List (TickEnv (BackendEnv δ))) :
    ∃ m', (reach (step (backendSource δ)) s envs).source = .inr m' := by
  refine run_source (backendSource δ) (P := fun x => ∃ m', x = .inr m') ?_ ?_ ⟨m, h⟩ envs
  · rintro e _ ⟨m', rfl⟩
    exact ⟨_, rfl⟩
  · rintro e n _ ⟨m', rfl⟩
    exact ⟨_, rfl⟩

/-- The poll loop takes a second reference if its `Init` succeeds and gives one back then. -/
theorem pollerRun_real (env : LoopEnv (BackendEnv δ)) {s : State (Backend δ)} {b : Session δ}
    (h : s.source = .inl b) (hb : b.Started) :
    Solvent NvmlCall.weight (Backend.trace (pollerRun (backendSource δ) env s).2.source) ∧
      refCount (Backend.trace (pollerRun (backendSource δ) env s).2.source) = 1 := by
  have hheld := hb.refHeld.init env.init.1
  have hcount := init_refCount env.init.1 b
  have herr := init_err_eq_none_iff env.init.1 b
  have hinit : (backendSource δ).init env.init s.source =
      ((b.init env.init.1).1, .inl (b.init env.init.1).2) := by rw [h]; rfl
  rcases pollerRun_cases (backendSource δ) env s with ⟨err, source, hi, ho⟩ | ⟨source, hi, _, ho⟩
  · rw [hinit, Prod.mk.injEq] at hi
    obtain ⟨he, rfl⟩ := hi
    have hfail : ¬ env.init.1.Succeeds := fun hs => by
      rw [herr.mpr hs] at he
      cases he
    rw [ho]
    refine ⟨hheld.solvent, ?_⟩
    change refCount (b.init env.init.1).2.trace = 1
    rw [hcount, if_neg hfail, hb.one, add_zero]
  · rw [hinit, Prod.mk.injEq] at hi
    obtain ⟨he, rfl⟩ := hi
    have hs : env.init.1.Succeeds := herr.mp he
    obtain ⟨b', hb', hsampled⟩ := run_backend_real
      (s := { s with source := .inl (b.init env.init.1).2 }) rfl (env.initial :: env.ticks)
    rw [ho, hb']
    refine ⟨((hsampled.refHeld hheld).close env.close.1).solvent, ?_⟩
    change refCount (b'.close env.close.1).2.trace = 1
    rw [close_refCount, hsampled.refCount_eq, hsampled.closed, hsampled.initialized, hcount,
      init_closed, init_initialized, if_pos hs, if_pos hs.1, decide_eq_true hs, hb.opened, hb.one]
    simp

theorem pollerRun_mock (env : LoopEnv (BackendEnv δ)) {s : State (Backend δ)} {m : Mock}
    (h : s.source = .inr m) :
    Backend.trace (pollerRun (backendSource δ) env s).2.source = [] := by
  have hinit : (backendSource δ).init env.init s.source =
      ((m.init env.init.2).1, .inr (m.init env.init.2).2) := by rw [h]; rfl
  rcases pollerRun_cases (backendSource δ) env s with ⟨err, source, hi, ho⟩ | ⟨source, hi, _, ho⟩
  · rw [hinit, Prod.mk.injEq] at hi
    obtain ⟨_, rfl⟩ := hi
    rw [ho]
    rfl
  · rw [hinit, Prod.mk.injEq] at hi
    obtain ⟨_, rfl⟩ := hi
    obtain ⟨m', hm'⟩ := run_backend_mock
      (s := { s with source := .inr (m.init env.init.2).2 }) rfl (env.initial :: env.ticks)
    rw [ho, hm']
    rfl

/-- `maps.Open` succeeds. -/
def RunEnv.OpensMaps (env : RunEnv δ) : Prop := ∃ bridge, env.mapsOpen = .ok bridge

theorem runSource_mock (env : RunEnv δ) (pinDir : String) (m : Mock) :
    (runSource env pinDir (.inr m)).2 = [] := by
  unfold runSource
  cases env.mapsOpen with
  | error err => rfl
  | ok bridge => exact pollerRun_mock env.loop rfl

/-- A `Real` is given back where `maps.Open` fails, and not where the poll loop runs. -/
theorem runSource_real (env : RunEnv δ) (pinDir : String) {b : Session δ} (hb : b.Started) :
    Solvent NvmlCall.weight (runSource env pinDir (.inl b)).2 ∧
      (env.OpensMaps ∧ refCount (runSource env pinDir (.inl b)).2 = 1 ∨
        ¬ env.OpensMaps ∧ refCount (runSource env pinDir (.inl b)).2 = 0) := by
  unfold runSource
  cases hopen : env.mapsOpen with
  | error err =>
      refine ⟨(hb.refHeld.close env.abandon.1).solvent, Or.inr ⟨?_, ?_⟩⟩
      · rintro ⟨bridge, hbridge⟩
        rw [hopen] at hbridge
        cases hbridge
      · change refCount (b.close env.abandon.1).2.trace = 0
        rw [close_refCount, hb.one, hb.opened, hb.initialized]
        simp
  | ok bridge =>
      obtain ⟨hsol, hone⟩ := pollerRun_real env.loop
        (s := ⟨.inl b, UInt32.ofNat env.getpid, ∅, bridge⟩) rfl hb
      exact ⟨hsol, Or.inl ⟨⟨bridge, hopen⟩, hone⟩⟩

/-- `run` gets as far as `chooseSource`, and that returns a `Real`. -/
def RunEnv.ObtainsReal (env : RunEnv δ) : Prop :=
  ∃ opt, env.parseFlags = .ok opt ∧ opt.showVersion = false ∧ opt.dump = false ∧
    env.removeMemlock = none ∧ env.FindsReal opt.mode

theorem obtainsReal_iff {env : RunEnv δ} {opt : Options} (h : env.parseFlags = .ok opt) :
    env.ObtainsReal ↔ opt.showVersion = false ∧ opt.dump = false ∧ env.removeMemlock = none ∧
      env.FindsReal opt.mode := by
  constructor
  · rintro ⟨opt', hopt', hrest⟩
    rw [h, Except.ok.injEq] at hopt'
    exact hopt' ▸ hrest
  · intro hrest
    exact ⟨opt, h, hrest⟩

/-- The count at the end of an execution. -/
theorem run_cases (env : RunEnv δ) :
    Solvent NvmlCall.weight (run env).2 ∧
      ((env.ObtainsReal ∧ env.OpensMaps) ∧ refCount (run env).2 = 1 ∨
        ¬ (env.ObtainsReal ∧ env.OpensMaps) ∧ refCount (run env).2 = 0) := by
  unfold run
  cases hopt : env.parseFlags with
  | error err =>
      refine ⟨solvent_nil _, Or.inr ⟨?_, rfl⟩⟩
      rintro ⟨⟨opt, hopt', _⟩, _⟩
      rw [hopt] at hopt'
      cases hopt'
  | ok opt =>
      have hobt := obtainsReal_iff hopt
      by_cases hv : opt.showVersion = true
      · simp only [hv, if_true]
        exact ⟨solvent_nil _, Or.inr ⟨fun h => by simp [hobt, hv] at h, rfl⟩⟩
      by_cases hd : opt.dump = true
      · simp only [hv, hd, if_true]
        exact ⟨solvent_nil _, Or.inr ⟨fun h => by simp [hobt, hd] at h, rfl⟩⟩
      simp only [hv, hd, Bool.false_eq_true, if_false]
      cases hm : env.removeMemlock with
      | some err =>
          exact ⟨solvent_nil _, Or.inr ⟨fun h => by simp [hobt, hm] at h, rfl⟩⟩
      | none =>
          rcases chooseSource_cases env opt.mode with
            ⟨hno, calls, hsol, hzero, hfail | ⟨m, name, hmock⟩⟩ | ⟨hyes, b, hb, hreal⟩
          · obtain ⟨err, hfail⟩ := hfail
            rw [hfail]
            exact ⟨hsol, Or.inr ⟨fun h => hno (hobt.mp h.1).2.2.2, hzero⟩⟩
          · simp only [hmock, runSource_mock, List.append_nil]
            exact ⟨hsol, Or.inr ⟨fun h => hno (hobt.mp h.1).2.2.2, hzero⟩⟩
          · rw [hreal]
            have hobtains : env.ObtainsReal :=
              hobt.mpr ⟨by simpa using hv, by simpa using hd, hm, hyes⟩
            obtain ⟨hsol, hend⟩ := runSource_real env opt.pinDir hb
            refine ⟨hsol, ?_⟩
            rcases hend with ⟨hopen, hone⟩ | ⟨hopen, hzero⟩
            · exact Or.inl ⟨⟨hobtains, hopen⟩, hone⟩
            · exact Or.inr ⟨fun h => hopen h.2, hzero⟩

/-! ### Sequences of `Init` calls ended by `Close` -/

/-- One `Init` call of a sequence. -/
def initStep (s : Session δ) (env : NvmlEnv δ) : Session δ := (s.init env).2

/-- The `Init` calls of a sequence that load the library. -/
def loading (inits : List (NvmlEnv δ)) : List (NvmlEnv δ) := inits.filter (fun e => e.Loads)

theorem loading_concat (inits : List (NvmlEnv δ)) (env : NvmlEnv δ) :
    loading (inits ++ [env]) = if env.Loads then loading inits ++ [env] else loading inits := by
  unfold loading
  rw [List.filter_append]
  by_cases h : env.Loads
  · simp [h]
  · simp [h]

/-- A sequence of `Init` calls takes a reference for each that succeeds, and leaves the backend as
the last of them that loads the library does. -/
theorem inits_effect (s : Session δ) (inits : List (NvmlEnv δ)) :
    refCount (reach initStep s inits).trace =
        refCount s.trace + (loading inits).countP (fun e => decide e.Succeeds) ∧
      (reach initStep s inits).real.initialized =
        ((loading inits).getLast?.map (fun e => decide e.Succeeds)).getD s.real.initialized ∧
      (reach initStep s inits).real.closed = s.real.closed := by
  refine run_invariant (P := fun inits (t : Session δ) =>
    refCount t.trace = refCount s.trace + (loading inits).countP (fun e => decide e.Succeeds) ∧
      t.real.initialized =
        ((loading inits).getLast?.map (fun e => decide e.Succeeds)).getD s.real.initialized ∧
      t.real.closed = s.real.closed) ?_ ?_ inits
  · simp [loading]
  · rintro inits env ⟨hcount, hinit, hclosed⟩
    rw [initStep, init_refCount, init_initialized, init_closed, loading_concat]
    by_cases hl : env.Loads
    · rw [if_pos hl, if_pos hl, hcount, hclosed]
      by_cases hs : env.Succeeds
      · simp [hs, List.countP_append]
        omega
      · simp [hs, List.countP_append]
    · have hs : ¬ env.Succeeds := fun hs => hl hs.1
      rw [if_neg hl, if_neg hl, if_neg hs, add_zero]
      exact ⟨hcount, hinit, hclosed⟩

/-- `Close` gives back what a sequence of `Init` calls took exactly if of the calls that load the
library none but the last succeeds (on a closed backend, none at all), and the backend held
nothing before that no call took over. -/
theorem inits_close_balanced_iff (s : Session δ) (inits : List (NvmlEnv δ)) (env : NvmlEnv δ) :
    refCount ((reach initStep s inits).close env).2.trace = refCount s.trace ↔
      (∀ e ∈ if s.real.closed then loading inits else (loading inits).dropLast, ¬ e.Succeeds) ∧
        (s.real.closed = true ∨ s.real.initialized = false ∨ loading inits ≠ []) := by
  obtain ⟨hcount, hinit, hclosed⟩ := inits_effect s inits
  rw [close_refCount, hcount, hinit, hclosed]
  cases s.real.closed with
  | true =>
      have hzero := List.countP_eq_zero (p := fun e : NvmlEnv δ => decide e.Succeeds)
        (l := loading inits)
      simp only [decide_eq_true_eq] at hzero
      simp only [Bool.true_eq_false, false_and, if_false, if_true, sub_zero, true_or, and_true,
        ← hzero]
      omega
  | false =>
      simp only [true_and, Bool.false_eq_true, if_false, false_or]
      rcases List.eq_nil_or_concat (loading inits) with hnil | ⟨pre, last, hlast⟩
      · -- no call loads the library: `Close` gives back what was held before
        rw [hnil]
        cases s.real.initialized <;> simp
      · have hzero := List.countP_eq_zero (p := fun e : NvmlEnv δ => decide e.Succeeds) (l := pre)
        simp only [decide_eq_true_eq] at hzero
        rw [List.concat_eq_append] at hlast
        rw [hlast, List.dropLast_concat, List.getLast?_concat, List.countP_append]
        by_cases hs : last.Succeeds
        · simp [hs]
          rw [← hzero]
          omega
        · simp [hs]

/-- **When NVML initialisation is balanced.**  In no execution of `run` is the count ever negative.
At the end it is 0 exactly if `chooseSource` returned no `Real` or `maps.Open` failed: the poll
loop calls `Init` again on a `Real` that `chooseSource` has initialised, and returns with one
reference left whether or not that call succeeds.  `Close` after any sequence of `Init` calls gives
back what they took exactly if none of them succeeded before the last that loaded the library. -/
theorem nvml_balance_iff :
    (∀ env : RunEnv δ, Solvent NvmlCall.weight (run env).2 ∧
      (refCount (run env).2 = 0 ↔ ¬ (env.ObtainsReal ∧ env.OpensMaps))) ∧
    (∀ (s : Session δ) (inits : List (NvmlEnv δ)) (env : NvmlEnv δ),
      refCount ((reach initStep s inits).close env).2.trace = refCount s.trace ↔
        (∀ e ∈ if s.real.closed then loading inits else (loading inits).dropLast, ¬ e.Succeeds) ∧
          (s.real.closed = true ∨ s.real.initialized = false ∨ loading inits ≠ [])) := by
  refine ⟨fun env => ?_, inits_close_balanced_iff⟩
  obtain ⟨hsol, hend⟩ := run_cases env
  refine ⟨hsol, ?_⟩
  rcases hend with ⟨hloop, hone⟩ | ⟨hno, hzero⟩
  · rw [hone]
    exact iff_of_false one_ne_zero (fun h => h hloop)
  · exact iff_of_true hzero hno

/-- NVML in working order, with one device. -/
def workingNvml : NvmlEnv ℕ :=
  { deviceGetCount := (1, .success)
    deviceGetHandleByIndex := fun i => (i, .success)
    device := fun _ => {}
    devicesNow := 1
    samplesNow := 1 }

/-- `--mode=real` on a machine where everything works, stopped after the first tick. -/
def workingRun : RunEnv ℕ :=
  { parseFlags := .ok { mode := .real }
    choose := (workingNvml, { devicesNow := 1, samplesNow := 1 })
    dropped := workingNvml
    mapsOpen := .ok Maps.empty
    getpid := 1
    loop :=
      { init := (workingNvml, { devicesNow := 1, samplesNow := 1 })
        initial := { source := (workingNvml, { devicesNow := 1, samplesNow := 1 }), now := 1 }
        ticks := []
        close := (workingNvml, { devicesNow := 1, samplesNow := 1 }) }
    abandon := (workingNvml, { devicesNow := 1, samplesNow := 1 }) }

/-- The execution obtains a `Real`, ends without error and leaves one reference, and so do two
successful `Init` calls ended by `Close`. -/
theorem workingRun_leaks :
    workingRun.ObtainsReal ∧ (run workingRun).1 = none ∧ refCount (run workingRun).2 = 1 ∧
      refCount ((reach initStep (newReal ℕ) [workingNvml, workingNvml]).close workingNvml).2.trace =
        refCount (newReal ℕ).trace + 1 := by
  refine ⟨⟨{ mode := .real }, rfl, rfl, rfl, rfl, ?_⟩, ?_⟩
  · exact ⟨by decide, rfl, by decide⟩
  · decide

end GpuEbpfBridge
