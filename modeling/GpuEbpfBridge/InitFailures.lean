import GpuEbpfBridge.Lifecycle

/-! # What a failing `Init` leaves behind

`Real.Init` undoes on its error paths what it did to the library, but not what it did to the
backend: a call that loads the library and fails afterwards clears `initialized` whatever it was
before, and keeps the handles it found.  `init_rollback_iff` says for which sequences of `Init`
and `Close` calls that shows.

The second half follows the error of `Init` to `chooseSource`, which in auto mode does not look
at it: `auto_honest_iff` says for which answers of NVML the choice is the documented one. -/

namespace GpuEbpfBridge

open Lib

variable {δ : Type}

/-! ### Sequences of `Init` and `Close` -/

/-- A call of one of the two methods, with what it meets. -/
inductive LifeOp (δ : Type) where
  | init (env : NvmlEnv δ)
  | close (env : NvmlEnv δ)

/-- The backend after a call. -/
def lifeStep (s : Session δ) : LifeOp δ → Session δ
  | .init env => (s.init env).2
  | .close env => (s.close env).2

/-- The backend after some calls on a new one. -/
def lifeAfter (ops : List (LifeOp δ)) : Session δ := reach lifeStep (newReal δ) ops

/-- What the calls of a sequence should leave: a failing `Init` changes nothing, a backend with
handles holds the library, and `Close` shuts down an initialised one. -/
structure RollsBack (ops : List (LifeOp δ)) : Prop where
  rollback : ∀ pre env post, ops = pre ++ .init env :: post →
    ((lifeAfter pre).init env).1 ≠ none →
      let s := lifeAfter pre
      let s' := (s.init env).2
      s'.real.handles = s.real.handles ∧ s'.real.initialized = s.real.initialized ∧
        refCount s'.trace = refCount s.trace
  handles_held : ∀ pre post, ops = pre ++ post →
    (lifeAfter pre).real.handles ≠ [] → 0 < refCount (lifeAfter pre).trace
  close_shuts : ∀ pre post, ops = pre ++ post → (lifeAfter pre).real.initialized = true →
    ∀ env, ((lifeAfter pre).close env).2.trace = (lifeAfter pre).trace ++ [.shutdown]

/-- `Init` stops before it has a handle. -/
def NvmlEnv.StopsEarly (env : NvmlEnv δ) : Prop :=
  wrap env.deviceGetCount.2 ≠ none ∨ wrap (env.deviceGetHandleByIndex 0).2 ≠ none

/-- An `Init` call that leaves nothing behind on a backend: it does not load the library, or it
succeeds on a backend that is not closed, or it fails before it has a handle on one that is not
initialised. -/
def NvmlEnv.Harmless (env : NvmlEnv δ) (r : Real δ) : Prop :=
  ¬ env.Loads ∨ (env.Succeeds ∧ r.closed = false) ∨
    (¬ env.Succeeds ∧ env.StopsEarly ∧ r.initialized = false)

theorem init_handles (env : NvmlEnv δ) (s : Session δ) :
    (s.init env).2.real.handles =
      if env.Loads ∧ wrap env.deviceGetCount.2 = none then
        (getHandles env 0 env.deviceGetCount.1.toNat).1
      else s.real.handles := by
  unfold Session.init
  cases hw : wrap env.init with
  | some err =>
      have hl : ¬ env.Loads := by simp [NvmlEnv.Loads, hw]
      rw [if_neg (fun h => hl h.1)]
  | none =>
      have hl : env.Loads := hw
      cases hc : wrap env.deviceGetCount.2 with
      | some err => rw [if_neg (fun h => by cases h.2)]
      | none =>
          rw [if_pos ⟨hl, rfl⟩]
          cases hh : (getHandles env 0 env.deviceGetCount.1.toNat).2 with
          | some err => simp only [hh]
          | none => simp only [hh]

/-- A failing handle loop has found nothing exactly when it failed at the first device. -/
theorem getHandles_eq_nil_iff {env : NvmlEnv δ} (hl : env.Loads)
    (hc : wrap env.deviceGetCount.2 = none) (hs : ¬ env.Succeeds) :
    (getHandles env 0 env.deviceGetCount.1.toNat).1 = [] ↔
      wrap (env.deviceGetHandleByIndex 0).2 ≠ none := by
  cases hn : env.deviceGetCount.1.toNat with
  | zero =>
      refine absurd ⟨hl, hc, fun i hi => ?_⟩ hs
      omega
  | succ n =>
      unfold getHandles
      cases hw : wrap (env.deviceGetHandleByIndex 0).2 with
      | some err => simp
      | none => simp

/-- What holds of a backend as long as all `Init` calls are harmless. -/
structure Session.Tidy (s : Session δ) : Prop where
  solvent : Solvent NvmlCall.weight s.trace
  no_handles : s.real.initialized = false → s.real.handles = []
  held : s.real.initialized = true → 0 < refCount s.trace ∧ s.real.closed = false

theorem newReal_tidy : (newReal δ).Tidy := ⟨solvent_nil _, fun _ => rfl, nofun⟩

theorem Session.Tidy.close {s : Session δ} (h : s.Tidy) (env : NvmlEnv δ) :
    (s.close env).2.Tidy := by
  have hsol := (Session.RefHeld.close ⟨h.solvent, fun hi => (h.held hi).1⟩ env).solvent
  refine ⟨hsol, ?_, ?_⟩
  · intro hoff
    unfold Session.close at hoff ⊢
    split_ifs with hc hi
    · rw [if_pos hc] at hoff
      exact h.no_handles hoff
    · rfl
    · rfl
  · intro hon
    unfold Session.close at hon ⊢
    split_ifs at hon ⊢ with hc hi
    · exact h.held hon
    · exact absurd hon hi

/-- **A harmless `Init`** keeps the backend tidy, and if it fails it changes nothing. -/
theorem Session.Tidy.init {s : Session δ} (h : s.Tidy) {env : NvmlEnv δ}
    (hh : env.Harmless s.real) :
    (s.init env).2.Tidy ∧ (¬ env.Succeeds →
      (s.init env).2.real.handles = s.real.handles ∧
        (s.init env).2.real.initialized = s.real.initialized) := by
  have hsol := (Session.RefHeld.init ⟨h.solvent, fun hi => (h.held hi).1⟩ env).solvent
  have hhandles := init_handles env s
  have hinit := init_initialized env s
  have hclosed := init_closed env s
  have hcount := init_refCount env s
  by_cases hl : env.Loads
  · rcases hh with hno | ⟨hs, hopen⟩ | ⟨hs, hearly, hoff⟩
    · exact absurd hl hno
    · rw [if_pos hl, decide_eq_true hs] at hinit
      refine ⟨⟨hsol, ?_, fun _ => ⟨?_, hclosed.trans hopen⟩⟩, fun hno => absurd hs hno⟩
      · rw [hinit]
        exact nofun
      · have := h.solvent.nonneg
        rw [hcount, if_pos hs]
        change 0 ≤ refCount s.trace at this
        omega
    · rw [if_pos hl, decide_eq_false hs] at hinit
      have hnil : (s.init env).2.real.handles = [] := by
        rw [hhandles]
        split_ifs with hc
        · apply (getHandles_eq_nil_iff hl hc.2 hs).mpr
          exact hearly.resolve_left (fun hne => hne hc.2)
        · exact h.no_handles hoff
      refine ⟨⟨hsol, fun _ => hnil, ?_⟩, fun _ => ⟨?_, hinit.trans hoff.symm⟩⟩
      · rw [hinit]
        exact nofun
      · rw [hnil, h.no_handles hoff]
  · have hs : ¬ env.Succeeds := fun hs => hl hs.1
    rw [if_neg (fun hc => hl hc.1)] at hhandles
    rw [if_neg hl] at hinit
    rw [if_neg hs, add_zero] at hcount
    refine ⟨⟨hsol, ?_, ?_⟩, fun _ => ⟨hhandles, hinit⟩⟩
    · rw [hinit, hhandles]
      exact h.no_handles
    · rw [hinit, hcount, hclosed]
      exact h.held

/-- A tidy backend on which an `Init` call does what it should is met by a harmless one. -/
theorem Session.Tidy.harmless {s : Session δ} (h : s.Tidy) {env : NvmlEnv δ}
    (hroll : (s.init env).1 ≠ none →
      (s.init env).2.real.handles = s.real.handles ∧
        (s.init env).2.real.initialized = s.real.initialized)
    (hshut : (s.init env).2.real.initialized = true → (s.init env).2.real.closed = false) :
    env.Harmless s.real := by
  by_cases hl : env.Loads
  · have hinit := init_initialized env s
    rw [if_pos hl] at hinit
    by_cases hs : env.Succeeds
    · rw [decide_eq_true hs] at hinit
      refine Or.inr (Or.inl ⟨hs, ?_⟩)
      rw [← init_closed env s]
      exact hshut hinit
    · rw [decide_eq_false hs] at hinit
      obtain ⟨hhandles, hkeep⟩ := hroll (fun hnone => hs ((init_err_eq_none_iff env s).mp hnone))
      have hoff : s.real.initialized = false := hkeep.symm.trans hinit
      refine Or.inr (Or.inr ⟨hs, ?_, hoff⟩)
      by_cases hc : wrap env.deviceGetCount.2 = none
      · rw [init_handles, if_pos ⟨hl, hc⟩, h.no_handles hoff] at hhandles
        exact Or.inr ((getHandles_eq_nil_iff hl hc hs).mp hhandles)
      · exact Or.inl hc
  · exact Or.inl hl

/-- All `Init` calls of a sequence are harmless. -/
def AllHarmless (ops : List (LifeOp δ)) : Prop :=
  ∀ pre env post, ops = pre ++ .init env :: post → env.Harmless (lifeAfter pre).real

theorem AllHarmless.of_append {pre post : List (LifeOp δ)} (h : AllHarmless (pre ++ post)) :
    AllHarmless pre := by
  rintro p env q rfl
  exact h p env (q ++ post) (by simp)

theorem AllHarmless.tidy {ops : List (LifeOp δ)} (h : AllHarmless ops) : (lifeAfter ops).Tidy := by
  refine run_invariant (P := fun ops (s : Session δ) => AllHarmless ops → s.Tidy)
    (fun _ => newReal_tidy) ?_ ops h
  intro es op ih hall
  have htidy := ih hall.of_append
  cases op with
  | init env => exact (htidy.init (hall es env [] rfl)).1
  | close env => exact htidy.close env

theorem close_trace_of_initialized {s : Session δ} (hi : s.real.initialized = true)
    (env : NvmlEnv δ) :
    (s.close env).2.trace = s.trace ++ [.shutdown] ↔ s.real.closed = false := by
  unfold Session.close
  cases s.real.closed with
  | false => simp [hi]
  | true => simp

theorem RollsBack.of_append {pre post : List (LifeOp δ)} (h : RollsBack (pre ++ post)) :
    RollsBack pre := by
  constructor
  · rintro p env q rfl
    exact h.rollback p env (q ++ post) (by simp)
  · rintro p q rfl
    exact h.handles_held p (q ++ post) (by simp)
  · rintro p q rfl
    exact h.close_shuts p (q ++ post) (by simp)

/-- The last call of a sequence that does what it should, after harmless ones. -/
theorem RollsBack.last {ops : List (LifeOp δ)} {env : NvmlEnv δ}
    (h : RollsBack (ops ++ [.init env])) (htidy : (lifeAfter ops).Tidy) :
    env.Harmless (lifeAfter ops).real := by
  apply htidy.harmless
  · intro herr
    obtain ⟨hhandles, hinit, -⟩ := h.rollback ops env [] rfl herr
    exact ⟨hhandles, hinit⟩
  · have hlast : lifeAfter (ops ++ [.init env]) = ((lifeAfter ops).init env).2 :=
      reach_concat lifeStep (newReal δ) ops (.init env)
    intro hon
    rw [← hlast] at hon ⊢
    exact (close_trace_of_initialized hon env).mp
      (h.close_shuts (ops ++ [.init env]) [] (List.append_nil _).symm hon env)

theorem RollsBack.allHarmless {ops : List (LifeOp δ)} (h : RollsBack ops) : AllHarmless ops := by
  induction ops using List.reverseRecOn with
  | nil =>
      intro pre env post he
      simp at he
  | append_singleton ops op ih =>
      have hpre : AllHarmless ops := ih h.of_append
      intro pre env post he
      rcases List.eq_nil_or_concat post with rfl | ⟨post, last, rfl⟩
      · obtain ⟨rfl, hop⟩ := List.append_inj' he rfl
        obtain rfl := List.singleton_inj.mp hop
        exact h.last hpre.tidy
      · have he' : ops ++ [op] = pre ++ .init env :: post ++ [last] := by simpa using he
        obtain ⟨rfl, -⟩ := List.append_inj' he' rfl
        exact hpre pre env post rfl

theorem AllHarmless.rollsBack {ops : List (LifeOp δ)} (h : AllHarmless ops) : RollsBack ops := by
  constructor
  · rintro pre env post rfl
    intro herr
    have hs : ¬ env.Succeeds := fun hs => herr ((init_err_eq_none_iff env _).mpr hs)
    obtain ⟨hhandles, hinit⟩ := (h.of_append.tidy.init (h pre env post rfl)).2 hs
    refine ⟨hhandles, hinit, ?_⟩
    rw [init_refCount, if_neg hs, add_zero]
  · rintro pre post rfl
    intro hne
    have htidy := h.of_append.tidy
    cases hi : (lifeAfter pre).real.initialized with
    | false => exact absurd (htidy.no_handles hi) hne
    | true => exact (htidy.held hi).1
  · rintro pre post rfl
    intro hon env
    exact (close_trace_of_initialized hon env).mpr (h.of_append.tidy.held hon).2

/-- **When a failing `Init` leaves the backend as it was.**  A sequence of `Init` and `Close` calls
does what it should exactly when each `Init` call does not load the library, or succeeds on a
backend that is not closed, or fails before it has a handle on one that is not initialised. -/
theorem init_rollback_iff (ops : List (LifeOp δ)) : RollsBack ops ↔ AllHarmless ops :=
  ⟨RollsBack.allHarmless, AllHarmless.rollsBack⟩

/-- NVML that loads and then fails to count the devices. -/
def countFails : NvmlEnv ℕ := { workingNvml with deviceGetCount := (0, .other 999) }

/-- NVML with two devices, of which the second has no handle. -/
def secondHandleFails : NvmlEnv ℕ :=
  { workingNvml with
    deviceGetCount := (2, .success)
    deviceGetHandleByIndex := fun i => (i, if i = 1 then .other 15 else .success) }

/-- A second `Init` that fails makes the backend forget that it holds the library, which `Close`
then leaves loaded; a first one that fails at the second device keeps the handle of the first. -/
theorem failing_init_forgets :
    ¬ RollsBack [.init workingNvml, .init countFails] ∧
      (lifeAfter [.init workingNvml]).real.initialized = true ∧
      (lifeAfter [.init workingNvml, .init countFails]).real.initialized = false ∧
      refCount (lifeAfter [.init workingNvml, .init countFails, .close workingNvml]).trace = 1 ∧
      (lifeAfter [.init secondHandleFails]).real.handles = [0] ∧
      refCount (lifeAfter [.init secondHandleFails]).trace = 0 := by
  refine ⟨fun h => ?_, by decide⟩
  have hroll := h.rollback [.init workingNvml] countFails [] rfl (by decide)
  exact absurd hroll.2.1 (by decide)

/-! ### The error of `Init` -/

/-- The first return code of the handle loop from index `i` on that is not SUCCESS. -/
def handleFailure (env : NvmlEnv δ) : ℕ → ℕ → Option Return
  | _, 0 => none
  | i, n + 1 =>
      if (env.deviceGetHandleByIndex i).2 = .success then handleFailure env (i + 1) n
      else some (env.deviceGetHandleByIndex i).2

/-- The first return code in `Init` that is not SUCCESS. -/
def firstFailure (env : NvmlEnv δ) : Option Return :=
  if env.init = .success then
    if env.deviceGetCount.2 = .success then
      handleFailure env 0 env.deviceGetCount.1.toNat
    else some env.deviceGetCount.2
  else some env.init

theorem getHandles_error (env : NvmlEnv δ) (i n : ℕ) :
    ((getHandles env i n).2 = none ↔ handleFailure env i n = none) ∧
      (NotAvailable (getHandles env i n).2 ↔
        ∃ ret, handleFailure env i n = some ret ∧ ret.unavailable) := by
  induction n generalizing i with
  | zero => simp [getHandles, handleFailure, NotAvailable]
  | succ n ih =>
      unfold getHandles handleFailure
      have hwrap := wrap_notAvailable_iff (env.deviceGetHandleByIndex i).2
      have hnone := wrap_eq_none_iff (env.deviceGetHandleByIndex i).2
      cases hw : wrap (env.deviceGetHandleByIndex i).2 with
      | some err =>
          rw [hw] at hwrap hnone
          have hne : (env.deviceGetHandleByIndex i).2 ≠ .success := fun h => by
            cases hnone.mpr h
          rw [if_neg hne, wrapf_notAvailable_iff, hwrap]
          simp
      | none =>
          rw [if_pos (hnone.mp hw)]
          exact ih (i + 1)

/-- **The error of `Init`** is about the first return code that is not SUCCESS, whatever step of
`Init` it came from. -/
theorem init_error (env : NvmlEnv δ) (s : Session δ) :
    ((s.init env).1 = none ↔ firstFailure env = none) ∧
      (NotAvailable (s.init env).1 ↔ ∃ ret, firstFailure env = some ret ∧ ret.unavailable) := by
  have hi := wrap_notAvailable_iff env.init
  have hin := wrap_eq_none_iff env.init
  have hc := wrap_notAvailable_iff env.deviceGetCount.2
  have hcn := wrap_eq_none_iff env.deviceGetCount.2
  have hh := getHandles_error env 0 env.deviceGetCount.1.toNat
  unfold Session.init firstFailure
  cases hwi : wrap env.init with
  | some err =>
      rw [hwi] at hi hin
      have hne : env.init ≠ .success := fun h => by cases hin.mpr h
      rw [if_neg hne, hi]
      simp
  | none =>
      rw [if_pos (hin.mp hwi)]
      cases hwc : wrap env.deviceGetCount.2 with
      | some err =>
          rw [hwc] at hc hcn
          have hne : env.deviceGetCount.2 ≠ .success := fun h => by cases hcn.mpr h
          rw [if_neg hne, wrapf_notAvailable_iff, hc]
          simp
      | none =>
          rw [if_pos (hcn.mp hwc)]
          cases he : (getHandles env 0 env.deviceGetCount.1.toNat).2 with
          | some err =>
              rw [he] at hh
              simp only [he]
              exact hh
          | none =>
              rw [he] at hh
              simpa only [he] using hh

/-! ### The choice of a backend -/

/-- What auto mode should return: the mock exactly where there is no NVML, the real backend exactly
if its `Init` succeeded, and an error in all other cases. -/
structure AutoHonest (env : RunEnv δ) : Prop where
  mock : (∃ m, (chooseSource env .auto).1 = .ok (.inr m, "mock")) ↔
    env.newRealPoller ≠ none ∨ NotAvailable ((newReal δ).init env.choose.1).1
  real : (∃ s, (chooseSource env .auto).1 = .ok (.inl s, "real")) ↔
    env.newRealPoller = none ∧ ((newReal δ).init env.choose.1).1 = none
  error : (∃ err, (chooseSource env .auto).1 = .error err) ↔
    env.newRealPoller = none ∧ ((newReal δ).init env.choose.1).1 ≠ none ∧
      ¬ NotAvailable ((newReal δ).init env.choose.1).1

/-- What auto mode returns. -/
theorem chooseSource_auto (env : RunEnv δ) :
    (env.newRealPoller = none ∧ ((newReal δ).init env.choose.1).1 = none ∧
      ∃ s, (chooseSource env .auto).1 = .ok (.inl s, "real")) ∨
    ((env.newRealPoller ≠ none ∨ ((newReal δ).init env.choose.1).1 ≠ none) ∧
      ∃ m, (chooseSource env .auto).1 = .ok (.inr m, "mock")) := by
  have hmock : ∃ m, tryMock env = .ok (.inr m, "mock") := ⟨_, rfl⟩
  obtain ⟨m, hm⟩ := hmock
  unfold chooseSource tryReal
  cases hp : env.newRealPoller with
  | some err => exact Or.inr ⟨Or.inl (by simp), m, hm⟩
  | none =>
      rcases hi : (newReal δ).init env.choose.1 with ⟨err, s⟩
      cases err with
      | some err => exact Or.inr ⟨Or.inr (by simp), m, hm⟩
      | none => exact Or.inl ⟨rfl, rfl, s, rfl⟩

/-- **When auto mode falls back honestly.**  The error of `Init` says that there is no NVML exactly
if the first code that was not SUCCESS did, and the choice of auto mode is the documented one
exactly if the real backend is not compiled in, or `Init` succeeds, or that first code says that
there is no NVML. -/
theorem auto_honest_iff (env : RunEnv δ) :
    (NotAvailable ((newReal δ).init env.choose.1).1 ↔
      ∃ ret, firstFailure env.choose.1 = some ret ∧ ret.unavailable) ∧
    (AutoHonest env ↔
      env.newRealPoller ≠ none ∨ firstFailure env.choose.1 = none ∨
        ∃ ret, firstFailure env.choose.1 = some ret ∧ ret.unavailable) := by
  obtain ⟨hnone, hna⟩ := init_error env.choose.1 (newReal δ)
  refine ⟨hna, ?_⟩
  rw [← hna, ← hnone]
  have habs : ((newReal δ).init env.choose.1).1 = none →
      ¬ NotAvailable ((newReal δ).init env.choose.1).1 := by
    rintro h ⟨e, he, -⟩
    rw [h] at he
    cases he
  rcases chooseSource_auto env with ⟨hp, hi, s, hs⟩ | ⟨hno, m, hm⟩
  · refine iff_of_true ⟨?_, ?_, ?_⟩ (Or.inr (Or.inl hi))
    · rw [hs]
      refine iff_of_false (by simp) (fun h => ?_)
      exact h.elim (fun h => h hp) (habs hi)
    · exact iff_of_true ⟨s, hs⟩ ⟨hp, hi⟩
    · rw [hs]
      exact iff_of_false (by simp) (fun h => h.2.1 hi)
  · constructor
    · intro h
      rcases h.mock.mp ⟨m, hm⟩ with hp | hn
      · exact Or.inl hp
      · exact Or.inr (Or.inr hn)
    · intro h
      have hcases : env.newRealPoller ≠ none ∨
          NotAvailable ((newReal δ).init env.choose.1).1 := by
        rcases h with hp | hi | hn
        · exact Or.inl hp
        · exact hno.elim Or.inl (fun hne => absurd hi hne)
        · exact Or.inr hn
      constructor
      · exact iff_of_true ⟨m, hm⟩ hcases
      · rw [hm]
        refine iff_of_false (by simp) ?_
        rintro ⟨hp, hi⟩
        exact hcases.elim (fun h => h hp) (habs hi)
      · rw [hm]
        refine iff_of_false (by simp) ?_
        rintro ⟨hp, -, hna'⟩
        exact hcases.elim (fun h => h hp) hna'

/-- On a host whose NVML answers `DeviceGetCount` with another code, auto mode returns the mock
backend. -/
theorem auto_mode_fabricates :
    let env : RunEnv ℕ :=
      { workingRun with choose := (countFails, { devicesNow := 1, samplesNow := 1 }) }
    env.newRealPoller = none ∧ ¬ NotAvailable ((newReal ℕ).init env.choose.1).1 ∧
      (∃ m, (chooseSource env .auto).1 = .ok (.inr m, "mock")) ∧ ¬ AutoHonest env := by
  intro env
  have hna : ¬ NotAvailable ((newReal ℕ).init env.choose.1).1 := by
    rintro ⟨e, he, his⟩
    obtain rfl := Option.some.inj (he.symm.trans
      (show _ = some (.wrapf "DeviceGetCount: %w" (.errorf "nvml: %s" (.other 999))) from rfl))
    exact absurd his (by decide)
  refine ⟨rfl, hna, ⟨_, rfl⟩, fun h => ?_⟩
  rcases h.mock.mp ⟨_, rfl⟩ with hp | hn
  · exact hp rfl
  · exact hna hn

end GpuEbpfBridge
