import Mathlib.Data.Finset.Max
import GpuEbpfBridge.Delivery

/-! # The poller's watermark

`lastSeenPerDevice` holds, for each device a sample with a positive time stamp has been returned
for, the greatest time stamp returned for it, and nothing for other devices
(`run_lastSeen`).  `lastSeen_exact` says this entry by entry, for every run.  `minLastSeen` is
the least of the entries, so it says nothing about a device that is not in the table: as soon as
one device has an entry, the bound passed for a new device is the watermark of the others
(`watermark_iff`). -/

namespace GpuEbpfBridge

open Lib

variable {ε σ : Type}

/-! ### The table and the samples returned -/

/-- The samples returned to the poller in some ticks. -/
def history (os : List (Outcome σ)) : List ProcessSample := os.flatMap (fun o => o.samples)

/-- The greatest time stamp returned for a device, 0 if none has been returned. -/
def greatest (hist : List ProcessSample) (dev : UInt32) : UInt64 :=
  peak (fun x => x.timestampNs) (deviceSamples hist dev)

/-- The table holds the greatest time stamps returned, as far as they are positive. -/
def Tracks (table : GoMap UInt32 UInt64) (hist : List ProcessSample) : Prop :=
  ∀ d, table.lookup d = if 0 < greatest hist d then some (greatest hist d) else none

theorem greatest_concat (hist : List ProcessSample) (x : ProcessSample) (d : UInt32) :
    greatest (hist ++ [x]) d =
      if x.deviceIndex = d then max (greatest hist d) x.timestampNs else greatest hist d := by
  unfold greatest deviceSamples
  rw [List.filter_append]
  split_ifs with h
  · rw [List.filter_cons_of_pos (by simpa using h), List.filter_nil, peak_concat]
  · rw [List.filter_cons_of_neg (by simpa using h), List.filter_nil, List.append_nil]

theorem greatest_pos_iff {hist : List ProcessSample} {d : UInt32} :
    0 < greatest hist d ↔ ∃ y ∈ hist, y.deviceIndex = d ∧ 0 < y.timestampNs := by
  unfold greatest
  rw [lt_peak_iff]
  simp only [deviceSamples, List.mem_filter, decide_eq_true_eq, and_assoc]

/-- One sample. -/
theorem Tracks.advance {table : GoMap UInt32 UInt64} {hist : List ProcessSample}
    (h : Tracks table hist) (x : ProcessSample) :
    Tracks (advanceLastSeen table x.deviceIndex x.timestampNs) (hist ++ [x]) := by
  have hget : ∀ d, (table.lookup d).getD 0 = greatest hist d := by
    intro d
    rw [h d]
    split_ifs with hpos
    · rfl
    · exact (le_antisymm (not_lt.mp hpos) UInt64.zero_le).symm
  intro d
  unfold advanceLastSeen
  rw [greatest_concat, hget]
  by_cases hd : x.deviceIndex = d
  · subst hd
    rw [if_pos rfl]
    split_ifs with hlt hpos hpos
    · rw [AList.lookup_insert, max_eq_right (le_of_lt hlt)]
    · exact absurd (lt_of_le_of_lt UInt64.zero_le hlt)
        (fun h0 => hpos (lt_max_of_lt_right h0))
    · rw [max_eq_left (not_lt.mp hlt)] at hpos ⊢
      rw [h, if_pos hpos]
    · rw [max_eq_left (not_lt.mp hlt)] at hpos
      rw [h, if_neg hpos]
  · rw [if_neg hd]
    split_ifs
    · rw [GoMap.lookup_insert_eq, if_neg hd, h, if_pos (by assumption)]
    · rw [GoMap.lookup_insert_eq, if_neg hd, h, if_neg (by assumption)]
    · rw [h, if_pos (by assumption)]
    · rw [h, if_neg (by assumption)]

/-- The samples of one tick. -/
theorem Tracks.advanceAll {table : GoMap UInt32 UInt64} {hist : List ProcessSample}
    (h : Tracks table hist) (samples : List ProcessSample) :
    Tracks (advanceAll table samples) (hist ++ samples) := by
  induction samples generalizing table hist with
  | nil =>
      rw [List.append_nil]
      exact h
  | cons x samples ih =>
      have hx := ih (h.advance x)
      rw [List.append_assoc] at hx
      exact hx

/-- **The watermark table over a run.** -/
theorem run_lastSeen (S : Source ε σ) (s₀ : State σ) (h₀ : s₀.lastSeenPerDevice = ∅)
    (envs : List (TickEnv ε)) :
    Tracks (reach (step S) s₀ envs).lastSeenPerDevice (history (outcomes S s₀ envs)) := by
  refine run_invariant (P := fun es (s : State σ) =>
    Tracks s.lastSeenPerDevice (history (outcomes S s₀ es))) ?_ ?_ envs
  · intro d
    rw [h₀]
    rfl
  · intro es env ih
    have hout : history (outcomes S s₀ (es ++ [env])) =
        history (outcomes S s₀ es) ++ (tick S env (reach (step S) s₀ es)).samples := by
      unfold outcomes history
      rw [outputs_concat, List.flatMap_append]
      simp
    rw [hout]
    unfold step
    rw [tick_lastSeen]
    exact ih.advanceAll _

/-! ### The bound -/

/-- The bound lies below `x` exactly when some watermark does, or when there are none. -/
theorem Tracks.minLastSeen_lt_iff {table : GoMap UInt32 UInt64} {hist : List ProcessSample}
    (h : Tracks table hist) (o : RangeOrder (UInt32 × UInt64)) (x : UInt64) :
    minLastSeen o table < x ↔
      0 < x ∧ ((∀ y ∈ hist, y.timestampNs = 0) ∨ ∃ d, 0 < greatest hist d ∧ greatest hist d < x) := by
  have hentry : (∃ d w, table.lookup d = some w ∧ w < x) ↔
      ∃ d, 0 < greatest hist d ∧ greatest hist d < x := by
    constructor
    · rintro ⟨d, w, hw, hlt⟩
      rw [h d] at hw
      split_ifs at hw with hpos
      obtain rfl := Option.some.inj hw
      exact ⟨d, hpos, hlt⟩
    · rintro ⟨d, hpos, hlt⟩
      exact ⟨d, _, (h d).trans (if_pos hpos), hlt⟩
  have hempty : table.entries = [] ↔ ∀ y ∈ hist, y.timestampNs = 0 := by
    constructor
    · intro hnil y hy
      by_contra hne
      have hpos : 0 < greatest hist y.deviceIndex :=
        greatest_pos_iff.mpr ⟨y, hy, rfl, UInt64.pos_iff_ne_zero.mpr hne⟩
      have hl := (h y.deviceIndex).trans (if_pos hpos)
      rw [← Option.mem_def, AList.mem_lookup_iff, hnil] at hl
      cases hl
    · intro hzero
      rw [List.eq_nil_iff_forall_not_mem]
      rintro ⟨d, w⟩ hm
      rw [← AList.mem_lookup_iff, Option.mem_def, h d] at hm
      split_ifs at hm with hpos
      obtain ⟨y, hy, -, hyp⟩ := greatest_pos_iff.mp hpos
      rw [hzero y hy] at hyp
      exact absurd hyp (lt_irrefl 0)
  rw [GpuEbpfBridge.minLastSeen_lt_iff, hentry, hempty]

/-- The bound is at most the watermark of a device exactly when there is one, or when there are
none. -/
theorem Tracks.minLastSeen_le_iff {table : GoMap UInt32 UInt64} {hist : List ProcessSample}
    (h : Tracks table hist) (o : RangeOrder (UInt32 × UInt64)) (d : UInt32) :
    minLastSeen o table ≤ greatest hist d ↔
      (∀ y ∈ hist, y.timestampNs = 0) ∨ 0 < greatest hist d := by
  constructor
  · intro hle
    by_contra hno
    obtain ⟨hany, hd⟩ := not_or.mp hno
    have hzero : minLastSeen o table = 0 :=
      le_antisymm (le_trans hle (not_lt.mp hd)) UInt64.zero_le
    -- the bound is 0, so some watermark is positive and below 1
    have hlt : minLastSeen o table < 1 := by
      rw [hzero]
      decide
    rw [h.minLastSeen_lt_iff, or_iff_right hany] at hlt
    obtain ⟨-, d', hpos, hone⟩ := hlt
    rw [UInt64.lt_iff_toNat_lt] at hpos hone
    have h0 : (0 : UInt64).toNat = 0 := rfl
    have h1 : (1 : UInt64).toNat = 1 := rfl
    omega
  · intro hd
    by_contra hlt
    rw [not_le] at hlt
    have hself := lt_irrefl (minLastSeen o table)
    rw [h.minLastSeen_lt_iff o (minLastSeen o table)] at hself
    apply hself
    refine ⟨lt_of_le_of_lt UInt64.zero_le hlt, ?_⟩
    rcases hd with hd | hd
    · exact Or.inl hd
    · exact Or.inr ⟨d, hd, hlt⟩

/-- At a tick, `S` answers `ProcessSamples` with exactly those of its samples `buf` that are newer
than the bound. -/
def AnswersNewer (S : Source ε σ) (env : TickEnv ε) (buf : List ProcessSample) : Prop :=
  ∀ (n : UInt64) (source : σ), ∀ x, x ∈ (S.processSamples env.source n source).1.1 ↔
    x ∈ buf ∧ n < x.timestampNs

/-- Over such a backend, what reaches the poller in a tick that gets past `Devices`. -/
theorem AnswersNewer.mem_samples_iff {S : Source ε σ} {env : TickEnv ε} {buf : List ProcessSample}
    (hbuf : AnswersNewer S env buf) {s : State σ} (hc : (tick S env s).Completed)
    {x : ProcessSample} (hx : x ∈ buf) :
    x ∈ (tick S env s).samples ↔
      minLastSeen env.lastSeenOrder s.lastSeenPerDevice < x.timestampNs := by
  rcases tick_cases S env s with ⟨_, _, _, _, ho⟩ | ⟨devs, source, samples, _, _, _, hs, ho⟩
  · rw [ho] at hc
    exact absurd rfl hc
  · have hans := hbuf (minLastSeen env.lastSeenOrder s.lastSeenPerDevice) source x
    rw [hs] at hans
    rw [ho]
    exact hans.trans (and_iff_right hx)

/-- **What the shared watermark withholds.**  In every reachable state the bound that the next
`ProcessSamples` call gets is at most the greatest time stamp returned for a device exactly when a
sample with a positive time stamp has been returned for that device, or for none.  And over a
backend that answers with its samples newer than the bound, a sample with a positive time stamp
that is newer than all returned for its device reaches the poller exactly when none with a
positive time stamp has been returned, or when some device that has one lags behind it. -/
theorem watermark_iff (S : Source ε σ) (s₀ : State σ) (h₀ : s₀.lastSeenPerDevice = ∅)
    (envs : List (TickEnv ε)) (env : TickEnv ε) :
    let s := reach (step S) s₀ envs
    let hist := history (outcomes S s₀ envs)
    (∀ d, minLastSeen env.lastSeenOrder s.lastSeenPerDevice ≤ greatest hist d ↔
      (∀ y ∈ hist, y.timestampNs = 0) ∨ ∃ y ∈ hist, y.deviceIndex = d ∧ 0 < y.timestampNs) ∧
    ∀ buf, AnswersNewer S env buf → (tick S env s).Completed →
      ∀ x ∈ buf, 0 < x.timestampNs → greatest hist x.deviceIndex < x.timestampNs →
        (x ∈ (tick S env s).samples ↔
          (∀ y ∈ hist, y.timestampNs = 0) ∨
            ∃ d, 0 < greatest hist d ∧ greatest hist d < x.timestampNs) := by
  intro s hist
  have htracks : Tracks s.lastSeenPerDevice hist := run_lastSeen S s₀ h₀ envs
  constructor
  · intro d
    rw [htracks.minLastSeen_le_iff, greatest_pos_iff]
  · intro buf hbuf hc x hx hpos _
    rw [hbuf.mem_samples_iff hc hx, htracks.minLastSeen_lt_iff, and_iff_right hpos]

/-- A backend that answers with those of the samples it is given that are newer than the bound. -/
def windowNvml : Source (List DeviceSnapshot × List ProcessSample) Unit where
  init _ s := (none, s)
  devices e s := ((e.1, none), s)
  processSamples e n s := ((e.2.filter (fun x => n < x.timestampNs), none), s)
  close _ s := (none, s)

theorem windowNvml_answersNewer (env : TickEnv (List DeviceSnapshot × List ProcessSample)) :
    AnswersNewer windowNvml env env.source.2 := by
  intro n source x
  change x ∈ env.source.2.filter (fun x => n < x.timestampNs) ↔ _
  rw [List.mem_filter, decide_eq_true_eq]

/-- A tick over two devices, at which the backend has one sample, of device `dev`. -/
def tickWithDevice (dev : UInt32) (ts : UInt64) :
    TickEnv (List DeviceSnapshot × List ProcessSample) :=
  { source := ([{ index := 0, timestampNs := ts }, { index := 1, timestampNs := ts }],
      [{ pid := 7, deviceIndex := dev, timestampNs := ts }])
    now := 1000 }

/-- The first sample of device 1 arrives if it is newer than the watermark of device 0. -/
theorem watermark_iff_newer :
    { pid := 7, deviceIndex := 1, timestampNs := 150 } ∈
      (tick windowNvml (tickWithDevice 1 150)
        (reach (step windowNvml) (State.initial () 1) [tickWithDevice 0 100])).samples :=
  ((watermark_iff windowNvml (State.initial () 1) rfl [tickWithDevice 0 100]
    (tickWithDevice 1 150)).2 _ (windowNvml_answersNewer _) (by decide +kernel) _
    List.mem_cons_self (by decide) (by decide +kernel)).mpr
    (Or.inr ⟨0, by decide +kernel, by decide +kernel⟩)

/-- The first sample of device 1 is withheld if it is older: the bound is 100, and nothing has been
returned for device 1. -/
theorem new_device_withheld :
    let s := reach (step windowNvml) (State.initial () 1) [tickWithDevice 0 100]
    let hist := history (outcomes windowNvml (State.initial () 1) [tickWithDevice 0 100])
    minLastSeen (.stored _) s.lastSeenPerDevice = 100 ∧ greatest hist 1 = 0 ∧
      (tick windowNvml (tickWithDevice 1 50) s).Completed ∧
      { pid := 7, deviceIndex := 1, timestampNs := 50 } ∈ (tickWithDevice 1 50).source.2 ∧
      (tick windowNvml (tickWithDevice 1 50) s).samples = [] := by
  decide +kernel

/-! ### The table, entry by entry -/

/-- The time stamps of the samples returned for a device. -/
def stampsOf (hist : List ProcessSample) (dev : UInt32) : Set UInt64 :=
  {t | ∃ x ∈ hist, x.deviceIndex = dev ∧ x.timestampNs = t}

theorem le_greatest {hist : List ProcessSample} {d : UInt32} {t : UInt64}
    (h : t ∈ stampsOf hist d) : t ≤ greatest hist d := by
  obtain ⟨x, hx, hd, rfl⟩ := h
  refine Finset.le_sup (f := fun x : ProcessSample => x.timestampNs) (List.mem_toFinset.mpr ?_)
  exact List.mem_filter.mpr ⟨hx, decide_eq_true hd⟩

/-- A positive value is the greatest time stamp returned for a device exactly if it is `greatest`. -/
theorem isGreatest_stampsOf_iff {hist : List ProcessSample} {d : UInt32} {w : UInt64}
    (hw : 0 < w) : IsGreatest (stampsOf hist d) w ↔ greatest hist d = w := by
  have hgreatest : 0 < greatest hist d →
      IsGreatest (stampsOf hist d) (greatest hist d) := by
    intro hpos
    refine ⟨?_, fun t ht => le_greatest ht⟩
    obtain ⟨y, hy, hd, -⟩ := greatest_pos_iff.mp hpos
    have hne : (deviceSamples hist d).toFinset.Nonempty := by
      refine ⟨y, List.mem_toFinset.mpr (List.mem_filter.mpr ⟨hy, decide_eq_true hd⟩)⟩
    obtain ⟨x, hx, he⟩ := Finset.exists_mem_eq_sup _ hne (fun x : ProcessSample => x.timestampNs)
    obtain ⟨hm, hxd⟩ := List.mem_filter.mp (List.mem_toFinset.mp hx)
    exact ⟨x, hm, of_decide_eq_true hxd, he.symm⟩
  constructor
  · intro h
    have hpos : 0 < greatest hist d := lt_of_lt_of_le hw (le_greatest h.1)
    exact (hgreatest hpos).unique h
  · rintro rfl
    exact hgreatest hw

theorem Tracks.lookup_eq_some_iff {table : GoMap UInt32 UInt64} {hist : List ProcessSample}
    (h : Tracks table hist) (d : UInt32) (w : UInt64) :
    table.lookup d = some w ↔ 0 < w ∧ IsGreatest (stampsOf hist d) w := by
  rw [h d]
  constructor
  · intro he
    split_ifs at he with hpos
    obtain rfl := Option.some.inj he
    exact ⟨hpos, (isGreatest_stampsOf_iff hpos).mpr rfl⟩
  · rintro ⟨hw, hg⟩
    rw [(isGreatest_stampsOf_iff hw).mp hg, if_pos hw]

theorem Tracks.lookup_eq_none_iff {table : GoMap UInt32 UInt64} {hist : List ProcessSample}
    (h : Tracks table hist) (d : UInt32) :
    table.lookup d = none ↔ ∀ x ∈ hist, x.deviceIndex = d → x.timestampNs = 0 := by
  have hpos : 0 < greatest hist d ↔ ¬ ∀ x ∈ hist, x.deviceIndex = d → x.timestampNs = 0 := by
    rw [greatest_pos_iff]
    simp only [UInt64.pos_iff_ne_zero, not_forall, exists_prop]
  rw [h d]
  by_cases hp : 0 < greatest hist d
  · rw [if_pos hp]
    exact iff_of_false (Option.some_ne_none _) (hpos.mp hp)
  · rw [if_neg hp]
    exact iff_of_true rfl (not_not.mp (fun hno => hp (hpos.mpr hno)))

/-- Two histories with the same samples make the same table. -/
theorem Tracks.lookup_congr {table table' : GoMap UInt32 UInt64} {hist hist' : List ProcessSample}
    (h : Tracks table hist) (h' : Tracks table' hist') (hp : hist.Perm hist') (d : UInt32) :
    table.lookup d = table'.lookup d := by
  have hg : greatest hist d = greatest hist' d := by
    unfold greatest deviceSamples peak
    rw [List.toFinset_eq_of_perm _ _ (hp.filter _)]
  rw [h d, h' d, hg]

/-- An entry does not decrease. -/
theorem Tracks.le_of_append {table table' : GoMap UInt32 UInt64} {hist samples : List ProcessSample}
    (h : Tracks table hist) (h' : Tracks table' (hist ++ samples)) {d : UInt32} {w : UInt64}
    (hw : table.lookup d = some w) : ∃ w', table'.lookup d = some w' ∧ w ≤ w' := by
  obtain ⟨hpos, hg⟩ := (h.lookup_eq_some_iff d w).mp hw
  obtain ⟨x, hx, hd, he⟩ := hg.1
  have hle : w ≤ greatest (hist ++ samples) d :=
    le_greatest ⟨x, List.mem_append_left _ hx, hd, he⟩
  exact ⟨_, (h' d).trans (if_pos (lt_of_lt_of_le hpos hle)), hle⟩

/-- `minLastSeen` is the least entry of the table, in every iteration order. -/
theorem minLastSeen_isLeast (o : RangeOrder (UInt32 × UInt64)) {table : GoMap UInt32 UInt64}
    (hne : table.entries ≠ []) :
    IsLeast {w | ∃ d, table.lookup d = some w} (minLastSeen o table) := by
  have hbound : ∀ d w, table.lookup d = some w → minLastSeen o table ≤ w := by
    intro d w hw
    by_contra hlt
    rw [not_le] at hlt
    apply lt_irrefl (minLastSeen o table)
    rw [GpuEbpfBridge.minLastSeen_lt_iff]
    exact ⟨lt_of_le_of_lt UInt64.zero_le hlt, Or.inr ⟨d, w, hw, hlt⟩⟩
  refine ⟨?_, ?_⟩
  · obtain ⟨⟨d₀, w₀⟩, he⟩ := List.exists_mem_of_ne_nil _ hne
    have hvalues : ((GoMap.pairs table).map Prod.snd).toFinset.Nonempty := by
      refine ⟨w₀, List.mem_toFinset.mpr (List.mem_map.mpr ⟨(d₀, w₀), ?_, rfl⟩)⟩
      exact GoMap.mem_pairs.mpr (AList.mem_lookup_iff.mpr he)
    obtain ⟨w, hw, hleast⟩ := Finset.exists_min_image _ id hvalues
    obtain ⟨⟨d, w⟩, hm, rfl⟩ := List.mem_map.mp (List.mem_toFinset.mp hw)
    have hl : table.lookup d = some w := GoMap.mem_pairs.mp hm
    refine ⟨d, hl.trans (congrArg some (le_antisymm ?_ (hbound d w hl)))⟩
    -- nothing in the table lies below its least entry, so the bound does not either
    by_contra hlt
    rw [not_le, GpuEbpfBridge.minLastSeen_lt_iff] at hlt
    obtain ⟨-, hnil | ⟨d', w', hl', hlt'⟩⟩ := hlt
    · exact hne hnil
    · have hin : w' ∈ ((GoMap.pairs table).map Prod.snd).toFinset :=
        List.mem_toFinset.mpr (List.mem_map.mpr ⟨(d', w'), GoMap.mem_pairs.mpr hl', rfl⟩)
      exact absurd (hleast w' hin) (not_le.mpr hlt')
  · rintro w ⟨d, hw⟩
    exact hbound d w hw

theorem history_perm {os os' : List (Outcome σ)}
    (h : List.Forall₂ (fun o o' : Outcome σ => o.samples.Perm o'.samples) os os') :
    (history os).Perm (history os') := by
  induction h with
  | nil => exact List.Perm.refl _
  | cons ho _ ih => exact ho.append ih

/-- **The watermark table is the running maximum.**  In every run, over any backend and whatever
calls and updates fail, the entry of a device is the greatest time stamp returned for it, and
there is none exactly if no positive one has been returned; the next tick decreases no entry; runs
whose ticks were returned the same samples, in whatever order, leave the same table; and
`minLastSeen` is its least entry, 0 if it is empty. -/
theorem lastSeen_exact (S : Source ε σ) (s₀ : State σ) (h₀ : s₀.lastSeenPerDevice = ∅)
    (envs : List (TickEnv ε)) :
    let s := reach (step S) s₀ envs
    let hist := history (outcomes S s₀ envs)
    (∀ d w, s.lastSeenPerDevice.lookup d = some w ↔ 0 < w ∧ IsGreatest (stampsOf hist d) w) ∧
    (∀ d, s.lastSeenPerDevice.lookup d = none ↔
      ∀ x ∈ hist, x.deviceIndex = d → x.timestampNs = 0) ∧
    (∀ env d w, s.lastSeenPerDevice.lookup d = some w →
      ∃ w', (tick S env s).state.lastSeenPerDevice.lookup d = some w' ∧ w ≤ w') ∧
    (∀ (S' : Source ε σ) (s₀' : State σ) (envs' : List (TickEnv ε)),
      s₀'.lastSeenPerDevice = ∅ →
      List.Forall₂ (fun o o' : Outcome σ => o.samples.Perm o'.samples) (outcomes S s₀ envs)
        (outcomes S' s₀' envs') →
      ∀ d, s.lastSeenPerDevice.lookup d =
        (reach (step S') s₀' envs').lastSeenPerDevice.lookup d) ∧
    ∀ o, (s.lastSeenPerDevice.entries = [] → minLastSeen o s.lastSeenPerDevice = 0) ∧
      (s.lastSeenPerDevice.entries ≠ [] →
        IsLeast {w | ∃ d, s.lastSeenPerDevice.lookup d = some w}
          (minLastSeen o s.lastSeenPerDevice)) := by
  intro s hist
  have htracks : Tracks s.lastSeenPerDevice hist := run_lastSeen S s₀ h₀ envs
  refine ⟨htracks.lookup_eq_some_iff, htracks.lookup_eq_none_iff, ?_, ?_, ?_⟩
  · intro env d w hw
    have hnext : Tracks (tick S env s).state.lastSeenPerDevice (hist ++ (tick S env s).samples) := by
      rw [tick_lastSeen]
      exact htracks.advanceAll _
    exact htracks.le_of_append hnext hw
  · intro S' s₀' envs' h₀' hsame
    exact htracks.lookup_congr (run_lastSeen S' s₀' h₀' envs') (history_perm hsame)
  · intro o
    refine ⟨fun hnil => ?_, minLastSeen_isLeast o⟩
    unfold minLastSeen
    rw [if_pos (by rw [hnil]; rfl)]

/-- Two ticks on one device.  The greatest time stamp is that of a sample of pid 0, and the second
tick, whose updates fail, is given an older sample. -/
def unattributedTicks : List (TickEnv (List DeviceSnapshot × List ProcessSample)) :=
  [ { source := ([{ index := 0, timestampNs := 9 }],
        [{ pid := 7, deviceIndex := 0, timestampNs := 8 },
         { pid := 0, deviceIndex := 0, timestampNs := 9 }])
      now := 10 },
    { source := ([{ index := 0, timestampNs := 12 }],
        [{ pid := 7, deviceIndex := 0, timestampNs := 7 }])
      now := 13, faults := fun _ => true } ]

theorem lastSeen_exact_unattributedTicks :
    IsGreatest (stampsOf (history (outcomes fakeNvml (State.initial () 1) unattributedTicks)) 0) 9 :=
  (((lastSeen_exact fakeNvml (State.initial () 1) rfl unattributedTicks).1 0 9).mp
    (by decide +kernel)).2

end GpuEbpfBridge
