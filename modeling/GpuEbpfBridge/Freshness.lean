import GpuEbpfBridge.DetailMap

/-! # The freshness signal

`gpu_types.h` documents `last_update_ns` as a reading of CLOCK_MONOTONIC, and consumers subtract
it from `bpf_ktime_get_ns()`, which is one.  The bridge stores `time.Now().UnixNano()`, a reading
of CLOCK_REALTIME.  Here each tick comes with the monotonic time at which it takes its stamp and
the offset of the wall clock at that moment; the offset may step between ticks.

`FreshnessSound` is what the consumer relies on: the difference it computes is the age of
the stamp, so that its check is right for every threshold, and stamps never go back.  It holds in
a run exactly when the wall clock shows the monotonic time at every successful tick
(`freshness_sound_iff`). -/

namespace GpuEbpfBridge

open Lib

variable {ε σ : Type}

/-! ### Ticks with their clocks -/

/-- The clocks at the moment a tick takes its stamp. -/
structure Clock where
  mono : UInt64
  offset : ℤ

/-- CLOCK_REALTIME. -/
def Clock.realtime (c : Clock) : ℤ := c.mono.toNat + c.offset

/-- A tick with the clocks behind its wall clock reading. -/
structure TimedTick (ε : Type) where
  env : TickEnv ε
  clock : Clock
  stamped : env.now = clock.realtime

/-- The state after some ticks. -/
def stateAfter (S : Source ε σ) (s₀ : State σ) (ticks : List (TimedTick ε)) : State σ :=
  reach (step S) s₀ (ticks.map TimedTick.env)

/-- The tick `x` after the ticks `pre` returns no error, hence publishes its stamp. -/
def Publishes (S : Source ε σ) (s₀ : State σ) (pre : List (TimedTick ε)) (x : TimedTick ε) :
    Prop :=
  (tick S x.env (stateAfter S s₀ pre)).err = none

/-- `last_update_ns` after some ticks. -/
def lastUpdateNs (S : Source ε σ) (s₀ : State σ) (ticks : List (TimedTick ε)) : UInt64 :=
  (stateAfter S s₀ ticks).objs.gpuMeta.lastUpdateNs

/-- The consumer's check: `bpf_ktime_get_ns() - last_update_ns > threshold`. -/
def isStale (c last : UInt64) (threshold : ℕ) : Prop := threshold < (c - last).toNat

/-- What consumers rely on.  `x` is the tick that published last, the ticks `mid` after it failed,
and the consumer reads at monotonic time `c`. -/
structure FreshnessSound (S : Source ε σ) (s₀ : State σ) (ticks : List (TimedTick ε)) : Prop where
  age : ∀ pre x mid post, ticks = pre ++ x :: mid ++ post → Publishes S s₀ pre x →
    (∀ m y m', mid = m ++ y :: m' → ¬ Publishes S s₀ (pre ++ x :: m) y) →
    ∀ c : UInt64, x.clock.mono ≤ c →
      (c - lastUpdateNs S s₀ (pre ++ x :: mid)).toNat = c.toNat - x.clock.mono.toNat
  stale : ∀ pre x mid post, ticks = pre ++ x :: mid ++ post → Publishes S s₀ pre x →
    (∀ m y m', mid = m ++ y :: m' → ¬ Publishes S s₀ (pre ++ x :: m) y) →
    ∀ c : UInt64, x.clock.mono ≤ c → ∀ interval : ℕ, 0 < interval →
      (isStale c (lastUpdateNs S s₀ (pre ++ x :: mid)) (2 * interval) ↔
        2 * interval < c.toNat - x.clock.mono.toNat)
  monotone : ∀ pre y post, ticks = pre ++ y :: post →
    (lastUpdateNs S s₀ [] = 0 ∨ ∃ m x m', pre = m ++ x :: m' ∧ Publishes S s₀ m x) →
    lastUpdateNs S s₀ pre ≤ lastUpdateNs S s₀ (pre ++ [y])

/-! ### Stamps -/

/-- A wall clock reading is stored as the monotonic time exactly when the two differ by a multiple
of 2^64. -/
theorem unixNano_realtime_eq_iff (c : Clock) :
    unixNano c.realtime = c.mono ↔ (2 ^ 64 : ℤ) ∣ c.offset := by
  have hm := c.mono.toNat_lt
  have hto : (unixNano c.realtime).toNat = ((c.mono.toNat + c.offset) % 2 ^ 64).toNat := by
    unfold unixNano Clock.realtime UInt64.ofInt
    rw [UInt64.toNat_ofNat', Nat.mod_eq_of_lt]
    omega
  rw [← UInt64.toNat_inj, hto]
  omega

section stamps

variable (S : Source ε σ) (s₀ : State σ)

instance (pre : List (TimedTick ε)) (x : TimedTick ε) : Decidable (Publishes S s₀ pre x) :=
  inferInstanceAs (Decidable (_ = none))

theorem stateAfter_concat (pre : List (TimedTick ε)) (x : TimedTick ε) :
    stateAfter S s₀ (pre ++ [x]) = (tick S x.env (stateAfter S s₀ pre)).state := by
  unfold stateAfter
  rw [List.map_append, List.map_singleton, reach_concat]
  rfl

/-- A tick that publishes replaces the stamp, any other leaves it. -/
theorem lastUpdateNs_concat (pre : List (TimedTick ε)) (x : TimedTick ε) :
    lastUpdateNs S s₀ (pre ++ [x]) =
      if Publishes S s₀ pre x then unixNano x.clock.realtime else lastUpdateNs S s₀ pre := by
  unfold lastUpdateNs
  rw [stateAfter_concat, tick_meta, ← x.stamped]
  by_cases h : Publishes S s₀ pre x
  · have herr : (tick S x.env (stateAfter S s₀ pre)).err = none := h
    rw [if_pos h, if_pos herr]
    rfl
  · have herr : ¬ (tick S x.env (stateAfter S s₀ pre)).err = none := h
    rw [if_neg h, if_neg herr]

/-- Ticks that do not publish leave the stamp of the tick that did. -/
theorem lastUpdateNs_of_publishes {pre : List (TimedTick ε)} {x : TimedTick ε}
    (hx : Publishes S s₀ pre x) (mid : List (TimedTick ε))
    (hmid : ∀ m y m', mid = m ++ y :: m' → ¬ Publishes S s₀ (pre ++ x :: m) y) :
    lastUpdateNs S s₀ (pre ++ x :: mid) = unixNano x.clock.realtime := by
  induction mid using List.reverseRecOn with
  | nil => rw [lastUpdateNs_concat, if_pos hx]
  | append_singleton mid y ih =>
      rw [← List.cons_append, ← List.append_assoc, lastUpdateNs_concat,
        if_neg (hmid mid y [] rfl)]
      refine ih (fun m z m' h => hmid m z (m' ++ [y]) ?_)
      rw [h]
      simp

/-- The stamp after some ticks: that of the last one that published, if there is one. -/
theorem lastUpdateNs_cases (pre : List (TimedTick ε)) :
    ((∀ m x m', pre = m ++ x :: m' → ¬ Publishes S s₀ m x) ∧
        lastUpdateNs S s₀ pre = lastUpdateNs S s₀ []) ∨
      ∃ x ∈ pre, ∃ m m', pre = m ++ x :: m' ∧ Publishes S s₀ m x ∧
        lastUpdateNs S s₀ pre = unixNano x.clock.realtime := by
  induction pre using List.reverseRecOn with
  | nil => exact Or.inl ⟨fun m x m' h => by simp at h, rfl⟩
  | append_singleton pre y ih =>
      rw [lastUpdateNs_concat]
      by_cases hy : Publishes S s₀ pre y
      · rw [if_pos hy]
        exact Or.inr ⟨y, by simp, pre, [], rfl, hy, rfl⟩
      · rw [if_neg hy]
        rcases ih with ⟨hno, hl⟩ | ⟨x, hx, m, m', rfl, hp, hl⟩
        · refine Or.inl ⟨fun m x m' h => ?_, hl⟩
          rcases List.eq_nil_or_concat m' with rfl | ⟨m'', z, rfl⟩
          · obtain ⟨rfl, he⟩ := List.append_inj' h rfl
            obtain rfl := List.singleton_inj.mp he
            exact hy
          · rw [List.concat_eq_append, ← List.cons_append, ← List.append_assoc] at h
            obtain ⟨rfl, -⟩ := List.append_inj' h rfl
            exact hno m x m'' rfl
        · exact Or.inr ⟨x, by simp, m, m' ++ [y], by simp, hp, hl⟩

end stamps

/-! ### When the signal is sound -/

/-- **Soundness of the freshness signal.**  In a run in which the monotonic clock does not go
back, the signal is sound exactly when every successful tick takes its stamp at a moment at which
CLOCK_REALTIME and CLOCK_MONOTONIC agree modulo 2^64. -/
theorem freshness_sound_iff (S : Source ε σ) (s₀ : State σ) (ticks : List (TimedTick ε))
    (hmono : ticks.Pairwise (fun x y => x.clock.mono ≤ y.clock.mono)) :
    FreshnessSound S s₀ ticks ↔
      ∀ pre x post, ticks = pre ++ x :: post → Publishes S s₀ pre x →
        (2 ^ 64 : ℤ) ∣ x.clock.offset := by
  constructor
  · intro h pre x post hticks hx
    have hage := h.age pre x [] post (by simpa using hticks) hx
      (fun m y m' he => by simp at he) x.clock.mono (le_refl _)
    rw [lastUpdateNs_concat, if_pos hx, Nat.sub_self] at hage
    rw [← unixNano_realtime_eq_iff, ← UInt64.toNat_inj]
    have hc := x.clock.mono.toNat_lt
    have hl := (unixNano x.clock.realtime).toNat_lt
    rw [UInt64.toNat_sub] at hage
    omega
  · intro h
    have hstamp : ∀ pre x mid post, ticks = pre ++ x :: mid ++ post → Publishes S s₀ pre x →
        (∀ m y m', mid = m ++ y :: m' → ¬ Publishes S s₀ (pre ++ x :: m) y) →
        lastUpdateNs S s₀ (pre ++ x :: mid) = x.clock.mono := by
      intro pre x mid post hticks hx hmid
      rw [lastUpdateNs_of_publishes S s₀ hx mid hmid]
      exact (unixNano_realtime_eq_iff _).mpr (h pre x (mid ++ post) (by simpa using hticks) hx)
    constructor
    · intro pre x mid post hticks hx hmid c hc
      rw [hstamp pre x mid post hticks hx hmid, UInt64.toNat_sub_of_le _ _ hc]
    · intro pre x mid post hticks hx hmid c hc interval _
      rw [isStale, hstamp pre x mid post hticks hx hmid, UInt64.toNat_sub_of_le _ _ hc]
    · intro pre y post hticks hsome
      rw [lastUpdateNs_concat]
      split_ifs with hy
      · rw [(unixNano_realtime_eq_iff _).mpr (h pre y post hticks hy)]
        rcases lastUpdateNs_cases S s₀ pre with ⟨hno, hl⟩ | ⟨x, hmem, m, m', hpre, hp, hl⟩
        · rcases hsome with h0 | ⟨m, x, m', hpre, hp⟩
          · rw [hl, h0]
            exact UInt64.le_iff_toNat_le.mpr (Nat.zero_le _)
          · exact absurd hp (hno m x m' hpre)
        · have hdvd := h m x (m' ++ y :: post) (by rw [hticks, hpre]; simp) hp
          rw [hl, (unixNano_realtime_eq_iff _).mpr hdvd]
          rw [hticks, List.pairwise_append] at hmono
          exact hmono.2.2 x hmem y List.mem_cons_self
      · exact le_refl _

/-- A tick with the two clocks in step. -/
def tickInStep : TimedTick (List DeviceSnapshot × List ProcessSample) :=
  { env := { source := ([], []), now := 60000000000 }
    clock := ⟨60000000000, 0⟩
    stamped := by decide }

theorem freshness_sound_tickInStep :
    FreshnessSound fakeNvml (State.initial () 1) [tickInStep] := by
  refine (freshness_sound_iff fakeNvml (State.initial () 1) [tickInStep]
    (List.pairwise_singleton _ _)).mpr ?_
  intro pre x post h _
  have hx : x ∈ [tickInStep] := by
    rw [h]
    simp
  obtain rfl := List.mem_singleton.mp hx
  exact Int.dvd_zero _

/-- A tick one minute after boot, on a host whose wall clock shows a moment of the year 2025. -/
def tickAfterBoot : TimedTick (List DeviceSnapshot × List ProcessSample) :=
  { env := { source := ([], []), now := 1750000000000000000 }
    clock := ⟨60000000000, 1749999940000000000⟩
    stamped := by decide }

/-- A consumer that reads one nanosecond after that tick took its stamp finds it stale. -/
theorem fresh_stamp_reads_stale :
    Publishes fakeNvml (State.initial () 1) [] tickAfterBoot ∧
      isStale 60000000001 (lastUpdateNs fakeNvml (State.initial () 1) [tickAfterBoot])
        (2 * 100000000) ∧
      ¬ FreshnessSound fakeNvml (State.initial () 1) [tickAfterBoot] := by
  have hp : Publishes fakeNvml (State.initial () 1) [] tickAfterBoot := by decide +kernel
  have hl : lastUpdateNs fakeNvml (State.initial () 1) [tickAfterBoot] = 1750000000000000000 := by
    decide +kernel
  have hs : isStale 60000000001 (lastUpdateNs fakeNvml (State.initial () 1) [tickAfterBoot])
      (2 * 100000000) := by
    rw [isStale, hl]
    decide
  refine ⟨hp, hs, fun h => ?_⟩
  have hage := (h.stale [] tickAfterBoot [] [] rfl hp (fun m y m' he => by simp at he)
    60000000001 (by decide) 100000000 (by decide)).mp hs
  revert hage
  decide

end GpuEbpfBridge
