import Mathlib.Data.List.Forall2
import GpuEbpfBridge.Board
import GpuEbpfBridge.Merge
import GpuEbpfBridge.Watermark

/-! # The order of the samples

A backend lists devices and samples in an order of its own, and `tick` ranges over two Go maps.  What
a report publishes depends on neither (`Report.Alike.publication`): each field of a record is a
maximum, a sum or a count, but for the MIG instance, which is that of the first sample of a key, and
the primary device, which is the only device where it is read at all.  So runs whose ticks
were told the same up to order leave the same maps (`published_confluent`). -/

namespace GpuEbpfBridge

open Lib

variable {ε ε' σ σ' : Type}

/-! ### Reports that say the same -/

/-- Samples of one (pid, device) name one MIG instance. -/
def OneInstance (samples : List ProcessSample) : Prop :=
  ∀ s ∈ samples, ∀ s' ∈ samples, s.pid = s'.pid → s.deviceIndex = s'.deviceIndex →
    s.migInstance = s'.migInstance

/-- Two reports that differ in the order of their lists, and in what they wrote. -/
structure Report.Alike (r r' : Report) : Prop where
  devs : r.devs.Perm r'.devs
  samples : r.samples.Perm r'.samples
  now : r.now = r'.now
  helper : r.helper = r'.helper

theorem peak_perm {β : Type*} [LinearOrder β] [OrderBot β] (f : ProcessSample → β)
    {l l' : List ProcessSample} (h : l.Perm l') : peak f l = peak f l' := by
  rw [peak, peak, List.toFinset_eq_of_perm _ _ h]

theorem pidDevices_perm {l l' : List ProcessSample} (h : l.Perm l') (pid : UInt32) :
    pidDevices l pid = pidDevices l' pid :=
  List.toFinset_eq_of_perm _ _ ((h.filter _).map _)

/-- The detail record of a key does not depend on the order of its samples. -/
theorem detailRecord_perm (dev : UInt32) {l l' : List ProcessSample} (h : l.Perm l')
    (hone : ∀ s ∈ l, ∀ s' ∈ l, s.migInstance = s'.migInstance) :
    detailRecord dev l = detailRecord dev l' := by
  have hmig : (l.head?.map (fun s => s.migInstance)).getD 0 =
      (l'.head?.map (fun s => s.migInstance)).getD 0 := by
    cases l with
    | nil => rw [List.nil_perm.mp h]
    | cons s l =>
        cases l' with
        | nil => cases List.perm_nil.mp h
        | cons s' l' =>
            exact hone s List.mem_cons_self s' (h.mem_iff.mpr List.mem_cons_self)
  simp only [detailRecord, peak_perm _ h, hmig]

/-- Nor does the aggregated record of a pid. -/
theorem pidRecord_perm {l l' : List ProcessSample} (h : l.Perm l') {pid : UInt32}
    (hs : pidSamples l pid ≠ []) : pidRecord l pid = pidRecord l' pid := by
  have hp : (pidSamples l pid).Perm (pidSamples l' pid) := h.filter _
  have hdevs := pidDevices_perm h pid
  have hbytes : deviceBytes l pid = deviceBytes l' pid := by
    rw [deviceBytes, hdevs, deviceBytes]
  have htotal : pidTotal l pid = pidTotal l' pid := by
    unfold pidTotal
    rw [hdevs]
    exact Finset.sum_congr rfl
      (fun d _ => congrArg UInt64.toNat (peak_perm _ (h.filter _)))
  -- where all devices have the same low byte, any sample names it
  have hprimary : (if 1 < (deviceBytes l' pid).card then devicePrimaryMulti
      else ((pidSamples l pid).head?.map (fun s => s.deviceIndex.toUInt8)).getD 0) =
      (pidRecord l' pid).gpuDevicePrimary := by
    rw [pidRecord]
    split_ifs with hc
    · rfl
    · obtain ⟨x, t, hx⟩ := List.exists_cons_of_ne_nil hs
      obtain ⟨x', t', hx'⟩ := List.exists_cons_of_ne_nil (fun hn => hs (List.perm_nil.mp (hn ▸ hp)))
      have hmem : ∀ y ∈ pidSamples l' pid, y.deviceIndex.toUInt8 ∈ deviceBytes l' pid := by
        intro y hy
        obtain ⟨hm, hpid⟩ := mem_pidSamples.mp hy
        exact Finset.mem_image_of_mem _ (mem_pidDevices_iff_exists.mpr ⟨y, hm, hpid, rfl⟩)
      have hxm : x ∈ pidSamples l' pid := hp.mem_iff.mp (hx ▸ List.mem_cons_self)
      have hxm' : x' ∈ pidSamples l' pid := hx' ▸ List.mem_cons_self
      rw [hx, hx']
      exact Finset.card_le_one.mp (not_lt.mp hc) _ (hmem x hxm) _ (hmem x' hxm')
  rw [pidRecord, peak_perm _ hp, peak_perm _ hp, peak_perm _ hp, htotal, hbytes, hprimary]
  rfl

/-- Distinct devices in another order leave the same snapshot at an index. -/
theorem getLast_filter_perm {l l' : List DeviceSnapshot} (h : l.Perm l')
    (hnd : (l.map (fun d => d.index)).Nodup) (idx : UInt32) :
    (l.filter (fun d => d.index = idx)).getLast? = (l'.filter (fun d => d.index = idx)).getLast? := by
  have hp := h.filter (fun d => decide (d.index = idx))
  cases hl : l.filter (fun d => d.index = idx) with
  | nil =>
      rw [hl] at hp
      rw [List.nil_perm.mp hp]
  | cons d t =>
      have ht : t = [] := by
        have hcount : (l.map (fun d => d.index)).count idx =
            (l.filter (fun d => d.index = idx)).length := by
          rw [List.count, List.countP_map, List.countP_eq_length_filter]
          congr 2
        have hone := List.nodup_iff_count_le_one.mp hnd idx
        rw [hcount, hl, List.length_cons] at hone
        exact List.eq_nil_of_length_eq_zero (by omega)
      rw [hl, ht] at hp
      rw [ht, List.singleton_perm.mp hp]

/-- **Reports that say the same publish the same.** -/
theorem Report.Alike.publication {r r' : Report} (h : r.Alike r') (hr : r.Regular)
    (hone : OneInstance r.samples) : r.publication = r'.publication := by
  funext k
  cases k with
  | gpuMeta => simp only [Report.publication, h.devs.length_eq, h.now, h.helper]
  | gpuDevice idx => rw [Report.publication, Report.publication, getLast_filter_perm h.devs hr.devices]
  | gpuPerPid pid =>
      have hnil : pidSamples r.samples pid = [] ↔ pidSamples r'.samples pid = [] := by
        have hp : (pidSamples r.samples pid).Perm (pidSamples r'.samples pid) := h.samples.filter _
        rw [← List.length_eq_zero_iff, hp.length_eq, List.length_eq_zero_iff]
      simp only [Report.publication, ← hnil]
      split_ifs with hno
      · rfl
      · rw [pidRecord_perm h.samples (not_or.mp hno).2]
  | gpuPerPidPerDevice key =>
      have hp : (keySamples r.samples (splitKey key).1 (splitKey key).2).Perm
          (keySamples r'.samples (splitKey key).1 (splitKey key).2) := h.samples.filter _
      have hnil : keySamples r.samples (splitKey key).1 (splitKey key).2 = [] ↔
          keySamples r'.samples (splitKey key).1 (splitKey key).2 = [] := by
        rw [← List.length_eq_zero_iff, hp.length_eq, List.length_eq_zero_iff]
      simp only [Report.publication, ← hnil]
      split_ifs with hno
      · rfl
      · rw [detailRecord_perm _ hp]
        intro s hs s' hs'
        obtain ⟨hm, hpid, hd⟩ := mem_keySamples.mp hs
        obtain ⟨hm', hpid', hd'⟩ := mem_keySamples.mp hs'
        exact hone s hm s' hm' (hpid.trans hpid'.symm) (hd.trans hd'.symm)

theorem Report.Alike.post {r r' : Report} (h : r.Alike r') (hwrote : r.wrote = r'.wrote)
    (hr : r.Regular) (hone : OneInstance r.samples) (m : Board) : r.post m = r'.post m := by
  unfold Report.post
  rw [h.publication hr hone, hwrote]

theorem Report.Alike.regular {r r' : Report} (h : r.Alike r') (hr : r.Regular) : r'.Regular := by
  constructor
  · exact (h.devs.map _).nodup_iff.mp hr.devices
  · intro pid
    have hb := hr.bytes pid
    rwa [deviceBytes, pidDevices_perm h.samples] at hb

/-- **The order of the lists is not published.**  Two runs from the same maps, over backends of any
kind and with any iteration orders, whose ticks were told the same up to order (clock reading and
helper included) and wrote the same entries, leave the same maps if the kernel evicts nothing. -/
theorem published_confluent (S : Source ε σ) (S' : Source ε' σ') (s₀ : State σ) (s₀' : State σ')
    (envs : List (TickEnv ε)) (envs' : List (TickEnv ε'))
    (h₀ : s₀.objs.read = s₀'.objs.read)
    (hr : ∀ r ∈ reports S s₀ envs, r.Regular ∧ OneInstance r.samples)
    (h : List.Forall₂ (fun r r' => r.Alike r' ∧ r.wrote = r'.wrote) (reports S s₀ envs)
      (reports S' s₀' envs')) :
    (reach (step S) s₀ envs).objs.read = (reach (step S') s₀' envs').objs.read := by
  have hboth := (List.forall₂_and_left _ _).mpr ⟨hr, h⟩
  have hr' : ∀ r' ∈ reports S' s₀' envs', r'.Regular :=
    forall_right_of_forall₂ (fun r r' hrr => hrr.2.1.regular hrr.1.1) hboth
  rw [run_posts S s₀ envs (fun r hm => (hr r hm).1), run_posts S' s₀' envs' hr', ← h₀]
  refine List.rel_foldl (P := Eq) ?_ rfl hboth
  rintro m _ rfl r r' ⟨⟨hreg, hone⟩, halike, hwrote⟩
  exact halike.post hwrote hreg hone m

/-- Ticks that issue the same updates, but for their order and their values, and of these have the
same refused, write the same entries. -/
theorem wrote_congr {S : Source ε σ} {S' : Source ε' σ'} {env : TickEnv ε} {env' : TickEnv ε'}
    {s : State σ} {s' : State σ'}
    (h : ((tick S env s).issued.map (fun x => (x.1.slot, x.2))).Perm
      ((tick S' env' s').issued.map (fun x => (x.1.slot, x.2)))) :
    (tickReport S env s).wrote = (tickReport S' env' s').wrote := by
  have hmem : ∀ {τ : Type} (o : Outcome τ) (k : Slot), (∃ u, (u, true) ∈ o.issued ∧ u.slot = k) ↔
      (k, true) ∈ o.issued.map (fun x => (x.1.slot, x.2)) := by
    intro τ o k
    simp only [List.mem_map, Prod.mk.injEq]
    constructor
    · rintro ⟨u, hu, rfl⟩
      exact ⟨(u, true), hu, rfl, rfl⟩
    · rintro ⟨⟨u, b⟩, hu, rfl, rfl⟩
      exact ⟨u, hu, rfl⟩
  funext k
  rw [Bool.eq_iff_iff, tickReport_wrote, tickReport_wrote, hmem, hmem, h.mem_iff]

/-- A process on two devices and one on a third, sampled in two orders. -/
def forwards : TickEnv (List DeviceSnapshot × List ProcessSample) :=
  { source := ([{ index := 0, timestampNs := 5 }, { index := 1, timestampNs := 5 }],
      [{ pid := 7, deviceIndex := 0, timestampNs := 5, usedGpuMemory := 10 },
       { pid := 7, deviceIndex := 1, timestampNs := 5, usedGpuMemory := 20 },
       { pid := 8, deviceIndex := 2, timestampNs := 4, smUtilPct := 9 }])
    now := 6 }

def backwards : TickEnv (List DeviceSnapshot × List ProcessSample) :=
  { forwards with
    source := (forwards.source.1.reverse, forwards.source.2.reverse)
    perDevOrder := .reversed _ }

theorem published_confluent_backwards :
    (reach (step fakeNvml) (State.initial () 1) [forwards]).objs.read =
      (reach (step fakeNvml) (State.initial () 1) [backwards]).objs.read := by
  refine published_confluent fakeNvml fakeNvml _ _ [forwards] [backwards] rfl ?_
    (List.Forall₂.cons ⟨⟨by decide +kernel, by decide +kernel, rfl, rfl⟩,
      wrote_congr (by decide +kernel)⟩ List.Forall₂.nil)
  intro r hr
  obtain rfl := List.mem_singleton.mp hr
  refine ⟨Report.regular_of_length (by decide +kernel) (by decide +kernel), ?_⟩
  unfold OneInstance
  decide +kernel

end GpuEbpfBridge
