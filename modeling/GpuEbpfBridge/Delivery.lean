import GpuEbpfBridge.DetailMap
import GpuEbpfBridge.RealSpec

/-! # Utilization samples from NVML to the poller

`Real` keeps per device the greatest NVML time stamp it has seen and passes it to NVML as a lower
bound, so no sample comes twice (`window_exact`).  The bound it passes is raised to the one the
poller asks for, the least entry of the poller's own table.  The entries of that table are
`TimestampNs` values, which `Real` fills with its wall clock in nanoseconds, while NVML's time
stamps are microseconds: `lossless_iff` says exactly which samples the raised bound costs. -/

namespace GpuEbpfBridge

open Lib

variable {δ : Type}

/-! ### Samples do not come twice -/

/-- What NVML documents of the rolling window: samples are newer than the bound, and a call that
fails returns none. -/
def NvmlEnv.Windowed (env : NvmlEnv δ) : Prop :=
  ∀ h seen, (∀ x ∈ ((env.device h).getProcessUtilization seen).1, seen < x.timeStamp) ∧
    (((env.device h).getProcessUtilization seen).2 ≠ .success →
      ((env.device h).getProcessUtilization seen).1 = [])

/-- One `ProcessSamples` call of a run. -/
def sampleStep (s : Session δ) (c : NvmlEnv δ × UInt64) : Session δ :=
  (s.processSamples c.1 c.2).2

/-- A backend that has not sampled yet. -/
structure Session.Fresh (s : Session δ) : Prop where
  noWatermark : ∀ dev, s.real.lastSeenTs.lookup dev = none
  noCalls : ∀ dev, utilCalls s.trace dev = []

/-- All samples returned for a device. -/
def returned (s : Session δ) (dev : UInt32) : List UtilSample :=
  (utilCalls s.trace dev).flatMap (fun c => c.samples)

/-- The watermark of a device is the greatest time stamp returned, and each call returned newer
samples than the calls before it. -/
structure WindowExact (s : Session δ) (dev : UInt32) : Prop where
  watermark : (s.real.lastSeenTs.lookup dev).getD 0 = peakTs (returned s dev)
  increasing : (utilCalls s.trace dev).Pairwise
    (fun c c' => ∀ x ∈ c.samples, ∀ y ∈ c'.samples, x.timeStamp < y.timeStamp)

theorem peakTs_append (l₁ l₂ : List UtilSample) :
    peakTs (l₁ ++ l₂) = max (peakTs l₁) (peakTs l₂) := by
  unfold peakTs
  rw [List.toFinset_append, Finset.sup_union]

theorem le_peakTs {l : List UtilSample} {x : UtilSample} (h : x ∈ l) :
    x.timeStamp ≤ peakTs l :=
  Finset.le_sup (f := fun s : UtilSample => s.timeStamp) (List.mem_toFinset.mpr h)

theorem Session.Fresh.windowExact {s : Session δ} (h : s.Fresh) (dev : UInt32) :
    WindowExact s dev := by
  constructor
  · rw [h.noWatermark, returned, h.noCalls]
    rfl
  · rw [h.noCalls]
    exact List.Pairwise.nil

/-- One call keeps the window exact. -/
theorem WindowExact.step {env : NvmlEnv δ} (hw : env.Windowed) {s : Session δ} {dev : UInt32}
    (h : WindowExact s dev) (lastSeenNs : UInt64) :
    WindowExact (s.processSamples env lastSeenNs).2 dev := by
  have hcalls := utilCalls_processSamples env lastSeenNs s dev
  have hseen := lastSeenTs_processSamples env lastSeenNs s dev
  cases hh : handleAt s dev with
  | none =>
      rw [hh, Option.map_none, Option.toList_none, List.append_nil] at hcalls
      rw [hh] at hseen
      exact ⟨by rw [hseen, returned, hcalls]; exact h.watermark, by rw [hcalls]; exact h.increasing⟩
  | some d =>
      rw [hh, Option.map_some, Option.toList_some] at hcalls
      rw [hh] at hseen
      obtain ⟨hnew, hfail⟩ := hw d (sessionCall env lastSeenNs s dev d).seen
      have hret : returned (s.processSamples env lastSeenNs).2 dev =
          returned s dev ++ (sessionCall env lastSeenNs s dev d).samples := by
        simp [returned, hcalls]
      constructor
      · rw [hseen, hret, peakTs_append, ← h.watermark]
        by_cases hard : isHard (sessionCall env lastSeenNs s dev d).ret = true
        · -- a call that failed returned nothing
          have hnil : (sessionCall env lastSeenNs s dev d).samples = [] :=
            hfail ((isHard_iff _).mp hard).1
          simp only [hard, if_true, hnil]
          exact (max_eq_left UInt64.zero_le).symm
        · simp only [hard]
          rfl
      · rw [hcalls, List.pairwise_append]
        refine ⟨h.increasing, List.pairwise_singleton _ _, ?_⟩
        intro c hc c' hc' x hx y hy
        obtain rfl := List.mem_singleton.mp hc'
        have hx' : x ∈ returned s dev := List.mem_flatMap.mpr ⟨c, hc, hx⟩
        have hb : (s.real.lastSeenTs.lookup dev).getD 0 ≤
            (sessionCall env lastSeenNs s dev d).seen := le_max_left _ _
        calc x.timeStamp ≤ peakTs (returned s dev) := le_peakTs hx'
          _ ≤ (sessionCall env lastSeenNs s dev d).seen := by rw [← h.watermark]; exact hb
          _ < y.timeStamp := hnew y hy

/-- A call for a device is logged with the answer that NVML gave for the bound passed. -/
def UtilCall.Answered (c : UtilCall) (env : NvmlEnv δ) (h : δ) : Prop :=
  (env.device h).getProcessUtilization c.seen = (c.samples, c.ret)

/-- **No sample is delivered twice.**  In every run of `ProcessSamples` calls, whatever bounds the
caller passes and whichever calls fail, each call of the run asks NVML once for a device and gets what
NVML answers for the bound passed, which is no lower than the caller's; the watermark of the device is
the greatest time stamp ever returned for it, and a later call returns only samples newer than those
of every earlier one. -/
theorem window_exact (s₀ : Session δ) (h₀ : s₀.Fresh) (calls : List (NvmlEnv δ × UInt64))
    (hw : ∀ c ∈ calls, c.1.Windowed) (dev : UInt32) :
    let s := reach sampleStep s₀ calls
    (s.real.lastSeenTs.lookup dev).getD 0 = peakTs (returned s dev) ∧
      (utilCalls s.trace dev).Pairwise
        (fun c c' => ∀ x ∈ c.samples, ∀ y ∈ c'.samples, x.timeStamp < y.timeStamp) ∧
      ((handleAt s₀ dev).isSome → (utilCalls s.trace dev).length = calls.length) ∧
      ∀ h, handleAt s₀ dev = some h →
        List.Forall₂ (fun c call => c.Answered call.1 h ∧ call.2 ≤ c.seen) (utilCalls s.trace dev)
          calls := by
  have hrun : (∀ c ∈ calls, c.1.Windowed) →
      WindowExact (reach sampleStep s₀ calls) dev ∧
        (reach sampleStep s₀ calls).real.handles = s₀.real.handles ∧
        ∀ h, handleAt s₀ dev = some h →
          List.Forall₂ (fun c call => c.Answered call.1 h ∧ call.2 ≤ c.seen)
            (utilCalls (reach sampleStep s₀ calls).trace dev) calls := by
    refine run_invariant (P := fun cs (s : Session δ) => (∀ c ∈ cs, c.1.Windowed) →
      WindowExact s dev ∧ s.real.handles = s₀.real.handles ∧
        ∀ h, handleAt s₀ dev = some h →
          List.Forall₂ (fun c call => c.Answered call.1 h ∧ call.2 ≤ c.seen)
            (utilCalls s.trace dev) cs) ?_ ?_ calls
    · intro _
      refine ⟨h₀.windowExact dev, rfl, fun _ _ => ?_⟩
      rw [h₀.noCalls]
      exact List.Forall₂.nil
    · intro cs c ih hcs
      obtain ⟨hexact, hhandles, hall⟩ := ih (fun c' hc' => hcs c' (List.mem_append_left _ hc'))
      have hc := hcs c (List.mem_append_right _ (List.mem_singleton.mpr rfl))
      refine ⟨hexact.step hc c.2, hhandles, fun h hh => ?_⟩
      have hat : handleAt (reach sampleStep s₀ cs) dev = some h := by
        rw [handleAt, hhandles]
        exact hh
      rw [sampleStep, utilCalls_processSamples, hat]
      exact List.rel_append (hall h hh)
        (List.Forall₂.cons ⟨rfl, le_max_right _ _⟩ List.Forall₂.nil)
  obtain ⟨hexact, -, hall⟩ := hrun hw
  refine ⟨hexact.watermark, hexact.increasing, fun hsome => ?_, hall⟩
  obtain ⟨h, hh⟩ := Option.isSome_iff_exists.mp hsome
  exact (hall h hh).length_eq

/-- NVML with one buffer of samples for each device, whose handle is its index. -/
def bufferedNvml (buffers : List (List UtilSample)) (now : ℤ) : NvmlEnv ℕ :=
  { deviceGetCount := (UInt32.ofNat buffers.length, .success)
    deviceGetHandleByIndex := fun i => (i, .success)
    device := fun i =>
      { getProcessUtilization := fun seen =>
          ((buffers.getD i []).filter (fun x => seen < x.timeStamp), .success) }
    devicesNow := now
    samplesNow := now }

theorem bufferedNvml_windowed (buffers : List (List UtilSample)) (now : ℤ) :
    (bufferedNvml buffers now).Windowed := by
  intro h seen
  refine ⟨fun x hx => ?_, fun hret => absurd rfl hret⟩
  have hx' := (List.mem_filter.mp hx).2
  rwa [decide_eq_true_eq] at hx'

/-- A backend just initialised on it. -/
def bufferedSession (buffers : List (List UtilSample)) : Session ℕ :=
  (Session.init (bufferedNvml buffers 0) (newReal ℕ)).2

theorem window_exact_two_calls :
    let calls := [(bufferedNvml [[{ pid := 7, timeStamp := 5 }, { pid := 7, timeStamp := 3 }]] 0, 0),
      (bufferedNvml [[{ pid := 7, timeStamp := 5 }, { pid := 8, timeStamp := 6 }]] 0, 2)]
    let s := reach sampleStep (bufferedSession [[]]) calls
    returned s 0 = [{ pid := 7, timeStamp := 5 }, { pid := 7, timeStamp := 3 },
        { pid := 8, timeStamp := 6 }] ∧
      (s.real.lastSeenTs.lookup 0).getD 0 = peakTs (returned s 0) ∧
      List.Forall₂ (fun c call => c.Answered call.1 0 ∧ call.2 ≤ c.seen) (utilCalls s.trace 0)
        calls := by
  intro calls s
  obtain ⟨hwatermark, -, -, hall⟩ := window_exact (bufferedSession [[]])
    ⟨fun _ => rfl, fun _ => rfl⟩ calls (by
      intro c hc
      rcases List.mem_cons.mp hc with rfl | hc
      · exact bufferedNvml_windowed _ _
      · obtain rfl := List.mem_singleton.mp hc
        exact bufferedNvml_windowed _ _) 0
  exact ⟨by decide +kernel, hwatermark, hall 0 rfl⟩

/-! ### Samples that the poller's bound withholds -/

/-- The running minimum of `minLastSeen`, once it has taken an entry. -/
theorem foldl_minLastSeen_lt (l : List (UInt32 × UInt64)) (m x : UInt64) :
    (l.foldl (fun (st : UInt64 × Bool) e => if st.2 ∨ e.2 < st.1 then (e.2, false) else st)
      (m, false)).1 < x ↔ m < x ∨ ∃ e ∈ l, e.2 < x := by
  induction l generalizing m with
  | nil => simp
  | cons e l ih =>
      rw [List.foldl_cons]
      by_cases hlt : e.2 < m
      · rw [if_pos (Or.inr hlt), ih]
        constructor
        · rintro (h | ⟨e', he', h⟩)
          · exact Or.inr ⟨e, List.mem_cons_self, h⟩
          · exact Or.inr ⟨e', List.mem_cons_of_mem e he', h⟩
        · rintro (h | ⟨e', he', h⟩)
          · exact Or.inl (lt_trans hlt h)
          · rcases List.mem_cons.mp he' with rfl | he'
            · exact Or.inl h
            · exact Or.inr ⟨e', he', h⟩
      · rw [if_neg (by simpa using hlt), ih]
        constructor
        · rintro (h | ⟨e', he', h⟩)
          · exact Or.inl h
          · exact Or.inr ⟨e', List.mem_cons_of_mem e he', h⟩
        · rintro (h | ⟨e', he', h⟩)
          · exact Or.inl h
          · rcases List.mem_cons.mp he' with rfl | he'
            · exact Or.inl (lt_of_le_of_lt (not_lt.mp hlt) h)
            · exact Or.inr ⟨e', he', h⟩

/-- `minLastSeen` as a bound: it is the least entry of the table, and 0 if there is none. -/
theorem minLastSeen_lt_iff (o : RangeOrder (UInt32 × UInt64)) (table : GoMap UInt32 UInt64)
    (x : UInt64) :
    minLastSeen o table < x ↔
      0 < x ∧ (table.entries = [] ∨ ∃ d w, table.lookup d = some w ∧ w < x) := by
  have hpos : ∀ w : UInt64, w < x → 0 < x := fun w h => lt_of_le_of_lt UInt64.zero_le h
  unfold minLastSeen
  by_cases hnil : table.entries = []
  · simp [hnil]
  · have hlen : ¬ table.entries.length = 0 := by simpa using hnil
    rw [if_neg hlen]
    have hmem : (∃ e ∈ GoMap.range o table, e.2 < x) ↔
        ∃ d w, table.lookup d = some w ∧ w < x := by
      constructor
      · rintro ⟨⟨d, w⟩, he, h⟩
        exact ⟨d, w, GoMap.mem_range.mp he, h⟩
      · rintro ⟨d, w, he, h⟩
        exact ⟨(d, w), GoMap.mem_range.mpr he, h⟩
    cases hr : GoMap.range o table with
    | nil =>
        have hp := (GoMap.range_perm o table).length_eq
        rw [hr] at hp
        simp [GoMap.pairs] at hp
        exact absurd hp.symm hlen
    | cons e l =>
        rw [List.foldl_cons, if_pos (Or.inl rfl), foldl_minLastSeen_lt,
          ← List.exists_mem_cons_iff (fun e : UInt32 × UInt64 => e.2 < x), ← hr, hmem,
          or_iff_right hnil]
        constructor
        · rintro ⟨d, w, hl, hw⟩
          exact ⟨hpos w hw, d, w, hl, hw⟩
        · intro h
          exact h.2

/-- NVML keeps a buffer of samples for each device and returns those newer than the bound. -/
def NvmlEnv.Buffers (env : NvmlEnv δ) (buf : δ → List UtilSample) : Prop :=
  ∀ h seen, ((env.device h).getProcessUtilization seen).2 = .success ∧
    ∀ x, x ∈ ((env.device h).getProcessUtilization seen).1 ↔ x ∈ buf h ∧ seen < x.timeStamp

theorem NvmlEnv.Buffers.windowed {env : NvmlEnv δ} {buf : δ → List UtilSample}
    (h : env.Buffers buf) : env.Windowed :=
  fun d seen => ⟨fun x hx => (((h d seen).2 x).mp hx).2, fun hret => absurd (h d seen).1 hret⟩

/-- The tick `o` got the sample `x` of a device: NVML returned it to the tick's call for the
device, and the samples the tick was given contain one made of it. -/
structure Delivered (o : Outcome (Session δ)) (dev : UInt32) (x : UtilSample) : Prop where
  fromNvml : ∃ c, (utilCalls o.state.source.trace dev).getLast? = some c ∧ x ∈ c.samples
  toPoller : ∃ tsNs used, utilOut tsNs dev used x ∈ o.samples

theorem mem_keyOut (tsNs : UInt64) (dev pid : UInt32) (mem : Option UInt64) {l : List UtilSample}
    {x : UtilSample} (hx : x ∈ l) : ∃ used, utilOut tsNs dev used x ∈ keyOut tsNs dev pid mem l := by
  cases l with
  | nil => cases hx
  | cons s l =>
      rcases List.mem_cons.mp hx with rfl | hx
      · exact ⟨mem.getD 0, List.mem_cons_self⟩
      · exact ⟨0, List.mem_cons_of_mem _ (List.mem_map_of_mem hx)⟩

/-- A utilization sample that NVML returned without hard error is among the samples returned. -/
theorem exists_utilOut_mem {env : NvmlEnv δ} {bound : UInt64} {s : Session δ} {dev : UInt32} {h : δ}
    (hh : handleAt s dev = some h) (hsoft : isHard (sessionCall env bound s dev h).ret = false)
    {x : UtilSample} (hx : x ∈ (sessionCall env bound s dev h).samples) :
    ∃ used, utilOut (unixNano env.samplesNow) dev used x ∈ (s.processSamples env bound).1.1 := by
  have hkey := keySamples_processSamples env bound s x.pid dev
  rw [hh] at hkey
  simp only [hsoft] at hkey
  have hpid : x ∈ (sessionCall env bound s dev h).samples.filter (fun y => y.pid = x.pid) :=
    List.mem_filter.mpr ⟨hx, decide_eq_true rfl⟩
  obtain ⟨used, hused⟩ := mem_keyOut (unixNano env.samplesNow) dev x.pid
    (reported (env.device h) x.pid) hpid
  have hin : utilOut (unixNano env.samplesNow) dev used x ∈
      keySamples (s.processSamples env bound).1.1 x.pid dev := by
    rw [hkey]
    exact hused
  exact ⟨used, (mem_keySamples.mp hin).1⟩

/-- The window stays exact along a run of ticks. -/
theorem run_windowExact (s₀ : State (Session δ)) (hf : s₀.source.Fresh)
    (envs : List (TickEnv (NvmlEnv δ))) (hw : ∀ e ∈ envs, e.source.Windowed) (dev : UInt32) :
    WindowExact (reach (step (realSource δ)) s₀ envs).source dev := by
  revert hw
  refine run_invariant (P := fun es (s : State (Session δ)) =>
    (∀ e ∈ es, e.source.Windowed) → WindowExact s.source dev) ?_ ?_ envs
  · exact fun _ => hf.windowExact dev
  · intro es e ih hes
    rw [step, (tick_real e _).2]
    exact (ih (fun e' he' => hes e' (List.mem_append_left _ he'))).step
      (hes e (List.mem_append_right _ (List.mem_singleton.mpr rfl))) _

/-- **Which samples are lost.**  In every state that a run of ticks over `Real` reaches, a sample
that NVML has buffered for a device, newer than all it has returned for the device, is delivered
by the next tick exactly when its time stamp is positive and the poller's table is empty or has
an entry below the time stamp. -/
theorem lossless_iff (s₀ : State (Session δ)) (hf : s₀.source.Fresh)
    (pre : List (TickEnv (NvmlEnv δ))) (hpre : ∀ e ∈ pre, ∃ buf, e.source.Buffers buf)
    (env : TickEnv (NvmlEnv δ)) (buf : δ → List UtilSample) (hb : env.source.Buffers buf) :
    let s := reach (step (realSource δ)) s₀ pre
    ∀ dev h, handleAt s.source dev = some h → ∀ x ∈ buf h,
      (∀ y ∈ returned s.source dev, y.timeStamp < x.timeStamp) →
      (Delivered (tick (realSource δ) env s) dev x ↔
        0 < x.timeStamp ∧ (s.lastSeenPerDevice.entries = [] ∨
          ∃ d w, s.lastSeenPerDevice.lookup d = some w ∧ w < x.timeStamp)) := by
  intro s dev h hh x hx hnew
  obtain ⟨hsamples, hsource⟩ := tick_real env s
  have hexact := run_windowExact s₀ hf pre
    (fun e he => by obtain ⟨buf, hbuf⟩ := hpre e he; exact hbuf.windowed) dev
  rw [← minLastSeen_lt_iff env.lastSeenOrder]
  generalize hbound : minLastSeen env.lastSeenOrder s.lastSeenPerDevice = bound at *
  obtain ⟨hsuccess, hmem⟩ := hb h (sessionCall env.source bound s.source dev h).seen
  have hcalls := utilCalls_processSamples env.source bound s.source dev
  rw [hh, Option.map_some, Option.toList_some] at hcalls
  constructor
  · intro hd
    obtain ⟨c, hc, hxc⟩ := hd.fromNvml
    rw [hsource, hcalls, List.getLast?_concat, Option.some.injEq] at hc
    subst hc
    exact lt_of_le_of_lt (le_max_right _ _) ((hmem x).mp hxc).2
  · intro hlt
    have hwater : (s.source.real.lastSeenTs.lookup dev).getD 0 < x.timeStamp := by
      rw [hexact.watermark]
      refine (Finset.sup_lt_iff (lt_of_le_of_lt bot_le hlt)).mpr (fun y hy => ?_)
      exact hnew y (List.mem_toFinset.mp hy)
    have hxc : x ∈ (sessionCall env.source bound s.source dev h).samples :=
      (hmem x).mpr ⟨hx, max_lt hwater hlt⟩
    have hsoft : isHard (sessionCall env.source bound s.source dev h).ret = false := by
      have hret : (sessionCall env.source bound s.source dev h).ret = .success := hsuccess
      rw [hret]
      rfl
    constructor
    · refine ⟨_, ?_, hxc⟩
      rw [hsource, hcalls, List.getLast?_concat]
    · obtain ⟨used, hused⟩ := exists_utilOut_mem hh hsoft hxc
      exact ⟨unixNano env.source.samplesNow, used, hsamples ▸ hused⟩

theorem bufferedNvml_buffers (buffers : List (List UtilSample)) (now : ℤ) :
    (bufferedNvml buffers now).Buffers (fun i => buffers.getD i []) := by
  intro h seen
  refine ⟨rfl, fun x => ?_⟩
  change x ∈ (buffers.getD h []).filter (fun x => seen < x.timeStamp) ↔ _
  rw [List.mem_filter, decide_eq_true_eq]

/-- A tick on a single device whose buffer holds one sample. -/
def tickWithSample (now : ℤ) (x : UtilSample) : TickEnv (NvmlEnv ℕ) :=
  { source := bufferedNvml [[x]] now, now := now }

/-- The first tick of a run delivers what is buffered: here a sample taken 0.1 s before. -/
theorem lossless_iff_first_tick :
    Delivered (tick (realSource ℕ)
      (tickWithSample 1750000000000000000 { pid := 7, timeStamp := 1749999999900000 })
      (State.initial (bufferedSession [[]]) 1)) 0 { pid := 7, timeStamp := 1749999999900000 } :=
  (lossless_iff (State.initial (bufferedSession [[]]) 1) ⟨fun _ => rfl, fun _ => rfl⟩ []
    (fun _ he => absurd he List.not_mem_nil)
    (tickWithSample 1750000000000000000 { pid := 7, timeStamp := 1749999999900000 })
    _ (bufferedNvml_buffers _ _) 0 0 rfl _ List.mem_cons_self (by decide +kernel)).mpr
    ⟨by decide, Or.inl rfl⟩

/-- The tick 0.1 s later asks for samples newer than 1750000000000000000, a time in nanoseconds,
and does not get the sample that NVML stamped 1749999999950000, a time in microseconds. -/
theorem fresh_sample_withheld :
    let first := tickWithSample 1750000000000000000 { pid := 7, timeStamp := 1749999999900000 }
    let second := tickWithSample 1750000000100000000 { pid := 7, timeStamp := 1749999999950000 }
    let s := reach (step (realSource ℕ)) (State.initial (bufferedSession [[]]) 1) [first]
    handleAt s.source 0 = some 0 ∧
      (∀ y ∈ returned s.source 0, y.timeStamp < 1749999999950000) ∧
      ¬ Delivered (tick (realSource ℕ) second s) 0 { pid := 7, timeStamp := 1749999999950000 } := by
  refine ⟨by decide +kernel, by decide +kernel, ?_⟩
  rintro ⟨-, tsNs, used, hmem⟩
  have hnil : (tick (realSource ℕ)
      (tickWithSample 1750000000100000000 { pid := 7, timeStamp := 1749999999950000 })
      (reach (step (realSource ℕ)) (State.initial (bufferedSession [[]]) 1)
        [tickWithSample 1750000000000000000
          { pid := 7, timeStamp := 1749999999900000 }])).samples = [] := by decide +kernel
  rw [hnil] at hmem
  cases hmem

end GpuEbpfBridge
