import GpuEbpfBridge.Dump
import GpuEbpfBridge.Lifecycle
import GpuEbpfBridge.TickSpec

/-! # One execution after another

`runPinned` is `run` with the files it works on: it opens the bridge under the pin directory, issues
the updates of the poll loop through its descriptors, and at the end closes the bridge and, unless told
to keep the pins, removes the files.  Its error and its calls to NVML are those of `run`
(`runPinned_run`), and what stands in the maps while it lasts is what the poll loop believes
(`loop_view`).

The abstract side is `sinceUnpin`: the updates of a directory since the file was last removed.  Every
start finds in each map what these updates leave, however the executions before it ended
(`start_finds`). -/

namespace GpuEbpfBridge

open Lib

/-! ### The updates of the poll loop -/

section loop

variable {ε σ : Type} (S : Source ε σ)

/-- The updates of the poll loop, with whether the kernel took each. -/
def loopIssued (env : LoopEnv ε) (s : State σ) : List (Update × Bool) :=
  match S.init env.init s.source with
  | (some _, _) => []
  | (none, source) =>
      ((outcomes S { s with source := source } (env.initial :: env.ticks)).map
        (fun o => o.issued)).flatten

/-- Two states that differ in the maps alone. -/
structure SameButMaps (s t : State σ) : Prop where
  source : s.source = t.source
  helper : s.helper = t.helper
  lastSeen : s.lastSeenPerDevice = t.lastSeenPerDevice

/-- Two outcomes that differ in the maps alone. -/
structure SameReport (o o' : Outcome σ) : Prop where
  state : SameButMaps o.state o'.state
  devs : o.devs = o'.devs
  samples : o.samples = o'.samples
  issued : o.issued = o'.issued
  err : o.err = o'.err

variable {S}

/-- What an update reports depends on its position alone. -/
theorem Bridge.update_snd_congr {faults : Faults} {b b' : Bridge} (h : b.issued = b'.issued)
    (u : Update) : (b.update faults u).2 = (b'.update faults u).2 := by
  unfold Bridge.update
  rw [h]
  split_ifs
  · rfl
  · rfl
  · rfl

theorem completedOutcome_same (env : TickEnv ε) {s t : State σ} (h : SameButMaps s t)
    (devs : List DeviceSnapshot) (samples : List ProcessSample) (source : σ) :
    SameReport (completedOutcome env s devs samples source)
      (completedOutcome env t devs samples source) := by
  constructor
  case state => exact ⟨rfl, h.helper, congrArg (fun m => advanceAll m samples) h.lastSeen⟩
  case devs => rfl
  case samples => rfl
  case issued => rw [completedOutcome_issued, completedOutcome_issued, h.helper]
  case err =>
      unfold completedOutcome
      rw [h.helper]
      refine congrArg (Option.map _) (Bridge.update_snd_congr ?_ _)
      rw [Bridge.updateAll_eq, Bridge.updateAll_eq]

/-- **What a tick does does not depend on what stands in the maps.** -/
theorem SameButMaps.after_tick {s t : State σ} (h : SameButMaps s t) (env : TickEnv ε) :
    SameReport (tick S env s) (tick S env t) := by
  rcases tick_cases S env s with
    ⟨devs, err, src, hd, ho⟩ | ⟨devs, src, samples, serr, src', hd, hs, ho⟩
  · rcases tick_cases S env t with
      ⟨devs', err', src₁, hd', ho'⟩ | ⟨devs', src₁, samples', serr', src₂, hd', hs', ho'⟩
    · rw [← h.source, hd] at hd'
      cases hd'
      rw [ho, ho']
      exact ⟨⟨rfl, h.helper, h.lastSeen⟩, rfl, rfl, rfl, rfl⟩
    · rw [← h.source, hd] at hd'
      cases hd'
  · rcases tick_cases S env t with
      ⟨devs', err', src₁, hd', ho'⟩ | ⟨devs', src₁, samples', serr', src₂, hd', hs', ho'⟩
    · rw [← h.source, hd] at hd'
      cases hd'
    · rw [← h.source, hd] at hd'
      cases hd'
      rw [← h.lastSeen, hs] at hs'
      cases hs'
      rw [ho, ho']
      exact completedOutcome_same env h devs samples src'

theorem SameButMaps.issued {s t : State σ} (h : SameButMaps s t) (envs : List (TickEnv ε)) :
    (outcomes S s envs).map (fun o => o.issued) = (outcomes S t envs).map (fun o => o.issued) := by
  induction envs generalizing s t with
  | nil => rfl
  | cons env envs ih =>
      have hsame := h.after_tick (S := S) env
      have hs : outcomes S s (env :: envs) = tick S env s :: outcomes S (step S s env) envs :=
        rfl
      have ht : outcomes S t (env :: envs) = tick S env t :: outcomes S (step S t env) envs :=
        rfl
      rw [hs, ht, List.map_cons, List.map_cons, hsame.issued]
      exact congrArg (List.cons _) (ih hsame.state)

theorem loopIssued_congr (env : LoopEnv ε) {s t : State σ} (h : SameButMaps s t) :
    loopIssued S env s = loopIssued S env t := by
  unfold loopIssued
  rw [h.source]
  rcases S.init env.init t.source with ⟨err, source⟩
  cases err with
  | some err => rfl
  | none =>
      have hsame : SameButMaps { s with source := source } { t with source := source } :=
        ⟨rfl, h.helper, h.lastSeen⟩
      exact congrArg List.flatten (hsame.issued _)

theorem taken_append (l l' : List (Update × Bool)) : taken (l ++ l') = taken l ++ taken l' := by
  simp [taken]

/-- The maps after some ticks. -/
theorem run_objs (s : State σ) (envs : List (TickEnv ε)) :
    (reach (step S) s envs).objs =
      s.objs.storeAll (taken ((outcomes S s envs).map (fun o => o.issued)).flatten) := by
  induction envs generalizing s with
  | nil => rfl
  | cons env envs ih =>
      have hrun : reach (step S) s (env :: envs) = reach (step S) (step S s env) envs := rfl
      have hout : outcomes S s (env :: envs) = tick S env s :: outcomes S (step S s env) envs :=
        rfl
      rw [hrun, ih, hout, List.map_cons, List.flatten_cons, taken_append, Maps.storeAll_append, step,
        tick_objs]

/-- The maps after the poll loop. -/
theorem pollerRun_objs (env : LoopEnv ε) (s : State σ) :
    (pollerRun S env s).2.objs = s.objs.storeAll (taken (loopIssued S env s)) := by
  unfold pollerRun loopIssued
  rcases S.init env.init s.source with ⟨err, source⟩
  cases err with
  | some err => rfl
  | none => exact run_objs _ _

theorem inRange_of_mem_outcomes {s : State σ} {envs : List (TickEnv ε)} {u : Update}
    (h : (u, true) ∈ ((outcomes S s envs).map (fun o => o.issued)).flatten) : u.inRange = true := by
  obtain ⟨l, hl, hu⟩ := List.mem_flatten.mp h
  obtain ⟨o, ho, rfl⟩ := List.mem_map.mp hl
  obtain ⟨pre, e, post, -, rfl⟩ := exists_of_mem_outputs ho
  exact tick_inRange S e _ hu

theorem inRange_of_mem_loopIssued {env : LoopEnv ε} {s : State σ} {u : Update}
    (h : (u, true) ∈ loopIssued S env s) : u.inRange = true := by
  unfold loopIssued at h
  revert h
  rcases S.init env.init s.source with ⟨err, source⟩
  intro h
  cases err with
  | some err => cases h
  | none => exact inRange_of_mem_outcomes h

end loop

/-! ### The updates through the descriptors -/

theorem Maps.only_storeAll_congr {m m' : Maps} {n : MapName} (h : m.only n = m'.only n)
    (us : List Update) : (m.storeAll us).only n = (m'.storeAll us).only n := by
  induction us generalizing m m' with
  | nil => exact h
  | cons u us ih =>
      refine ih ?_
      have hm := Change.only_apply (.store u) m n
      have hm' := Change.only_apply (.store u) m' n
      rw [h] at hm
      exact hm.trans hm'.symm

namespace PinnedBridge

/-- The `Update` calls of the poll loop. -/
def replay (b : PinnedBridge) (issued : List (Update × Bool)) (fs : Bpffs) : Bpffs :=
  issued.foldl (fun fs x => (b.change (!x.2) (.store x.1) fs).2) fs

/-- The files stay as they are, and so do the maps of others. -/
theorem replay_frame (b : PinnedBridge) (issued : List (Update × Bool)) (fs : Bpffs) :
    (b.replay issued fs).names = fs.names ∧ (b.replay issued fs).next = fs.next ∧
      ∀ i, (∀ n, b.objs n ≠ i) → (b.replay issued fs).cell i = fs.cell i := by
  induction issued generalizing fs with
  | nil => exact ⟨rfl, rfl, fun _ _ => rfl⟩
  | cons x issued ih =>
      have hstep : b.replay (x :: issued) fs =
          b.replay issued (b.change (!x.2) (.store x.1) fs).2 := rfl
      obtain ⟨hn, hx, hc⟩ := ih (b.change (!x.2) (.store x.1) fs).2
      rw [hstep, hn, hx, b.change_snd]
      rw [b.change_snd] at hc
      split_ifs at hc ⊢ with ht
      · refine ⟨rfl, rfl, fun i hi => ?_⟩
        rw [hc i hi]
        by_cases hlt : b.objs (Change.store x.1).map < fs.next
        · rw [Registry.cell_write fs hlt, if_neg (Ne.symm (hi _))]
        · exact congrFun (if_neg hlt) i
      · exact ⟨rfl, rfl, hc⟩

/-- The bridge sees the updates that the kernel took. -/
theorem view_replay {b : PinnedBridge} (hlive : b.live = fun _ => true) {issued : List (Update × Bool)}
    (hin : ∀ u, (u, true) ∈ issued → u.inRange = true) {fs : Bpffs} (hlt : ∀ n, b.objs n < fs.next) :
    b.view (b.replay issued fs) = (b.view fs).storeAll (taken issued) := by
  induction issued generalizing fs with
  | nil => rfl
  | cons x issued ih =>
      obtain ⟨u, ok⟩ := x
      have hstep : b.replay ((u, ok) :: issued) fs =
          b.replay issued (b.change (!ok) (.store u) fs).2 := rfl
      have hnext : (b.change (!ok) (.store u) fs).2.next = fs.next :=
        (b.replay_frame [(u, ok)] fs).2.1
      rw [hstep, ih (fun v hv => hin v (List.mem_cons_of_mem _ hv)) (by rwa [hnext]), b.change_snd]
      cases ok with
      | false => simp [takes, taken]
      | true =>
          have hr : u.inRange = true := hin u List.mem_cons_self
          have ht : b.takes (!true) (.store u) = true := by
            rw [takes, hlive]
            exact hr
          rw [if_pos ht, b.view_write b (.store u) (hlt _), if_pos rfl]
          rfl

/-- A file of the bridge then leads to a map with these updates. -/
theorem held_replay_path {b : PinnedBridge} (hlive : b.live = fun _ => true)
    {issued : List (Update × Bool)} (hin : ∀ u, (u, true) ∈ issued → u.inRange = true) {fs : Bpffs}
    (hnames : ∀ n, fs.names (b.path n) = some (b.objs n)) (n : MapName) :
    ((b.replay issued fs).held (b.path n)).only n =
      ((fs.held (b.path n)).storeAll (taken issued)).only n := by
  have hview := view_replay hlive hin (fun m => fs.names_lt (hnames m))
  have hname : (b.replay issued fs).names (b.path n) = some (b.objs n) := by
    rw [(b.replay_frame issued fs).1, hnames n]
  rw [Registry.held_of_some hname, ← b.only_view, hview, Registry.held_of_some (hnames n)]
  exact Maps.only_storeAll_congr (b.only_view fs n) _

/-- Other files lead to what they led to. -/
theorem held_replay_of_ne {b : PinnedBridge} (issued : List (Update × Bool)) {fs : Bpffs}
    (hnames : ∀ n, fs.names (b.path n) = some (b.objs n)) {p : Path} (hp : ∀ n, b.path n ≠ p) :
    (b.replay issued fs).held p = fs.held p := by
  obtain ⟨hn, -, hcell⟩ := b.replay_frame issued fs
  unfold Registry.held
  rw [hn]
  cases hi : fs.names p with
  | none => rfl
  | some i =>
      have hne : ∀ n, b.objs n ≠ i := by
        rintro n rfl
        exact hp n (fs.names_inj (hnames n) hi)
      exact hcell i hne

end PinnedBridge

/-- **What the poll loop believes of its maps is what stands in the kernel**: the maps of its state
are those behind the files, at the start and after every run of the loop. -/
theorem loop_view {ε σ : Type} (S : Source ε σ) (env : LoopEnv ε) {openEnv : OpenEnv}
    {pinDir : String} {fs fs' : Bpffs} {b : PinnedBridge}
    (h : mapsOpen openEnv pinDir fs = (.ok b, fs')) (source : σ) (helper : UInt32) :
    (pollerRun S env ⟨source, helper, ∅, b.view fs'⟩).2.objs =
      b.view (b.replay (loopIssued S env ⟨source, helper, ∅, b.view fs'⟩) fs') := by
  have hok : (mapsOpen openEnv pinDir fs).1 = .ok b := by rw [h]
  obtain ⟨-, hlive, hnames⟩ := mapsOpen_ok hok
  rw [h] at hnames
  rw [PinnedBridge.view_replay hlive (fun u hu => inRange_of_mem_loopIssued hu)
    (fun n => fs'.names_lt (hnames n)), pollerRun_objs]

/-! ### The command and its files -/

/-- What an execution of the command meets: what `run` meets, and what the calls on the files answer. -/
structure Execution (δ : Type) where
  env : RunEnv δ
  keepPins : Bool := false
  openEnv : OpenEnv := {}
  closeErr : MapName → Option GoError := fun _ => none
  remove : MapName → Option GoError := fun _ => none
  dumpEnv : DumpEnv := {}

section executions

variable {δ : Type}

/-- `run` from `maps.Open` on: the error, the calls to NVML and the files. -/
def runBridge (e : Execution δ) (pinDir : String) (source : Backend δ) (fs : Bpffs) :
    Option GoError × List NvmlCall × Bpffs :=
  let abandoned := ((backendSource δ).close e.env.abandon source).2
  match mapsOpen e.openEnv pinDir fs with
  | (.error err, fs) =>
      (some (.wrapf ("opening bridge maps in " ++ pinDir ++ ": %w") err), Backend.trace abandoned, fs)
  | (.ok bridge, fs) =>
      match newPoller (some source) (some (bridge.view fs)) e.env.getpid with
      | .error err => (some err, Backend.trace abandoned, fs)
      | .ok p =>
          let r := pollerRun (backendSource δ) e.env.loop p
          let fs := bridge.replay (loopIssued (backendSource δ) e.env.loop p) fs
          let bridge := (bridge.close e.closeErr).2
          -- also after an error of the poll loop; those of `Close` and `Unpin` are logged
          (r.1, Backend.trace r.2.source, if e.keepPins then fs else (bridge.unpin e.remove fs).2)

/-- `run`: the error, all calls to NVML and the files. -/
def runPinned (e : Execution δ) (fs : Bpffs) : Option GoError × List NvmlCall × Bpffs :=
  match e.env.parseFlags with
  | .error err => (some err, [], fs)
  | .ok opt =>
      if opt.showVersion then (none, [], fs)
      else if opt.dump then ((e.dumpEnv.runDump opt.pinDir fs).2, [], fs)
      else
        match e.env.removeMemlock with
        | some err => (some (.wrapf "RemoveMemlock: %w" err), [], fs)
        | none =>
            match chooseSource e.env opt.mode with
            | (.error err, calls) => (some err, calls, fs)
            | (.ok (source, _), calls) =>
                let r := runBridge e opt.pinDir source fs
                (r.1, calls ++ r.2.1, r.2.2)

/-- The maps that `maps.Open` gives `run`, with its pin directory. -/
def openedMaps (openEnv : OpenEnv) (fs : Bpffs) (pinDir : String) : Except GoError Maps :=
  match mapsOpen openEnv pinDir fs with
  | (.error err, _) => .error err
  | (.ok bridge, fs) => .ok (bridge.view fs)

/-- What `run` meets in an execution. -/
def Execution.runEnv (e : Execution δ) (fs : Bpffs) : RunEnv δ :=
  { e.env with
    runDump := e.env.parseFlags.toOption.bind (fun opt => (e.dumpEnv.runDump opt.pinDir fs).2)
    mapsOpen := e.env.parseFlags.bind (fun opt => openedMaps e.openEnv fs opt.pinDir) }

theorem runBridge_runSource (e : Execution δ) (pinDir : String) (source : Backend δ) (fs : Bpffs)
    {env : RunEnv δ} {dumped : Option GoError}
    (henv : env = { e.env with
      runDump := dumped
      mapsOpen := openedMaps e.openEnv fs pinDir }) :
    ((runBridge e pinDir source fs).1, (runBridge e pinDir source fs).2.1) =
      runSource env pinDir source := by
  subst henv
  unfold runBridge runSource openedMaps
  simp only
  rcases mapsOpen e.openEnv pinDir fs with ⟨r, fs'⟩
  cases r with
  | error err => rfl
  | ok bridge => rfl

/-- **The error and the calls to NVML are those of `run`**, with the maps that the files give. -/
theorem runPinned_run (e : Execution δ) (fs : Bpffs) :
    ((runPinned e fs).1, (runPinned e fs).2.1) = run (e.runEnv fs) := by
  unfold runPinned run
  have hflags : (e.runEnv fs).parseFlags = e.env.parseFlags := rfl
  have hlock : (e.runEnv fs).removeMemlock = e.env.removeMemlock := rfl
  have hchoose : ∀ mode, chooseSource (e.runEnv fs) mode = chooseSource e.env mode := by
    intro mode
    cases mode <;> rfl
  rw [hflags]
  cases ho : e.env.parseFlags with
  | error err => rfl
  | ok opt =>
      have hdump : (e.runEnv fs).runDump = (e.dumpEnv.runDump opt.pinDir fs).2 := by
        rw [Execution.runEnv, ho]
        rfl
      have hopen : (e.runEnv fs).mapsOpen = openedMaps e.openEnv fs opt.pinDir := by
        rw [Execution.runEnv, ho]
        rfl
      simp only [hdump, hlock, hchoose]
      split_ifs
      · rfl
      · rfl
      · cases e.env.removeMemlock with
        | some err => rfl
        | none =>
            rcases chooseSource e.env opt.mode with ⟨r, calls⟩
            cases r with
            | error err => rfl
            | ok s =>
                have hmaps : e.runEnv fs =
                    { e.env with
                      runDump := (e.dumpEnv.runDump opt.pinDir fs).2
                      mapsOpen := openedMaps e.openEnv fs opt.pinDir } := by
                  rw [← hdump, ← hopen]
                  rfl
                simp only [← runBridge_runSource e opt.pinDir s.1 fs hmaps]

/-! ### What a start finds -/

/-- The pin directory and the backend of an execution that gets as far as `maps.Open`. -/
def Execution.started (e : Execution δ) : Option (String × Backend δ) :=
  match e.env.parseFlags with
  | .error _ => none
  | .ok opt =>
      if opt.showVersion || opt.dump || e.env.removeMemlock.isSome then none
      else
        match (chooseSource e.env opt.mode).1 with
        | .error _ => none
        | .ok (source, _) => some (opt.pinDir, source)

theorem runPinned_files (e : Execution δ) (fs : Bpffs) :
    (runPinned e fs).2.2 =
      match e.started with
      | none => fs
      | some (pinDir, source) => (runBridge e pinDir source fs).2.2 := by
  unfold runPinned Execution.started
  cases e.env.parseFlags with
  | error err => rfl
  | ok opt =>
      simp only
      cases opt.showVersion with
      | true => rfl
      | false =>
          cases opt.dump with
          | true => rfl
          | false =>
              cases e.env.removeMemlock with
              | some err => rfl
              | none =>
                  simp only [Bool.false_eq_true, if_false, Bool.or_self, Option.isSome_none]
                  rcases chooseSource e.env opt.mode with ⟨r, calls⟩
                  cases r with
                  | error err => rfl
                  | ok s => rfl

/-- No call of `maps.Open` fails. -/
def OpenEnv.Succeeds (env : OpenEnv) : Prop :=
  env.mkdirAll = none ∧ env.loadCollectionSpec = none ∧ ∀ n, env.load n = none

instance OpenEnv.decidableSucceeds (env : OpenEnv) : Decidable env.Succeeds :=
  haveI : Decidable (∀ n, env.load n = none) :=
    decidable_of_iff (∀ n ∈ mapFields, env.load n = none)
      ⟨fun h n => h n (by cases n <;> decide), fun h n _ => h n⟩
  inferInstanceAs (Decidable (_ ∧ _ ∧ _))

/-- The updates of the poll loop of an execution that started on the backend. -/
def Execution.issued (e : Execution δ) (source : Backend δ) : List (Update × Bool) :=
  loopIssued (backendSource δ) e.env.loop ⟨source, UInt32.ofNat e.env.getpid, ∅, Maps.empty⟩

/-- The execution removes the file of a map at its end. -/
def Execution.Unpins (e : Execution δ) (n : MapName) : Prop := e.keepPins = false ∧ e.remove n = none

instance Execution.decidableUnpins (e : Execution δ) (n : MapName) : Decidable (e.Unpins n) :=
  inferInstanceAs (Decidable (_ ∧ _))

/-- The updates of a directory since the file was last removed, after one more execution. -/
def Execution.extend (dir : Path) (n : MapName) (us : List Update) (e : Execution δ) :
    List Update :=
  match e.started with
  | none => us
  | some (pinDir, source) =>
      if e.openEnv.Succeeds ∧ clean (pinDirOf pinDir) = dir then
        if e.Unpins n then [] else us ++ taken (e.issued source)
      else us

/-- The updates of a directory since the last execution that removed the file of the map. -/
def sinceUnpin (es : List (Execution δ)) (dir : Path) (n : MapName) : List Update :=
  es.foldl (Execution.extend dir n) []

theorem PinnedBridge.close_path (err : MapName → Option GoError) (b : PinnedBridge) (n : MapName) :
    (b.close err).2.path n = b.path n := by
  rw [path, path, close, (closeAll_objs err mapFields b).2]

open Classical in
/-- What the end of an execution leaves of the files. -/
theorem held_shutdown (e : Execution δ) (b : PinnedBridge) (fs : Bpffs) (p : Path) :
    (if e.keepPins then fs else ((b.close e.closeErr).2.unpin e.remove fs).2).held p =
      if ∃ n, b.path n = p ∧ e.Unpins n then Maps.empty else fs.held p := by
  by_cases hk : e.keepPins = true
  · rw [if_pos hk, if_neg]
    rintro ⟨n, -, hno, -⟩
    rw [hk] at hno
    cases hno
  · rw [if_neg hk, PinnedBridge.unpin_snd, Registry.held_reach_unlink]
    refine if_congr ?_ rfl rfl
    rw [List.mem_map]
    simp only [PinnedBridge.close_path, PinnedBridge.mem_removed]
    constructor
    · rintro ⟨n, hn, hp⟩
      exact ⟨n, hp, Bool.eq_false_of_not_eq_true hk, hn⟩
    · rintro ⟨n, hp, -, hn⟩
      exact ⟨n, hn, hp⟩

/-- **What an execution leaves in a file**, by what it found there. -/
theorem held_runBridge (e : Execution δ) (pinDir : String) (source : Backend δ) (fs : Bpffs)
    (dir : String) (n : MapName) :
    ((runBridge e pinDir source fs).2.2.held (join dir n.base)).only n =
      if e.openEnv.Succeeds ∧ clean (pinDirOf pinDir) = clean dir then
        if e.Unpins n then Maps.empty.only n
        else ((fs.held (join dir n.base)).storeAll (taken (e.issued source))).only n
      else (fs.held (join dir n.base)).only n := by
  have hopened : (mapsOpen e.openEnv pinDir fs).2.held (join dir n.base) =
      fs.held (join dir n.base) := by
    rw [mapsOpen_snd, Registry.held_reach_acquire]
  have hiff := mapsOpen_isOk_iff e.openEnv pinDir fs
  unfold runBridge
  rcases ho : mapsOpen e.openEnv pinDir fs with ⟨r, fs₁⟩
  rw [ho] at hopened hiff
  cases r with
  | error err =>
      have hno : ¬ e.openEnv.Succeeds := by
        intro h
        obtain ⟨b, hb⟩ := hiff.mpr h
        cases hb
      rw [if_neg (fun h => hno h.1)]
      exact congrArg (fun m => Maps.only m n) hopened
  | ok b =>
      have hok : e.openEnv.Succeeds := hiff.mp ⟨b, rfl⟩
      have hfst : (mapsOpen e.openEnv pinDir fs).1 = .ok b := by rw [ho]
      obtain ⟨hdirb, hlive, hnames⟩ := mapsOpen_ok hfst
      rw [ho] at hnames
      have hpath : ∀ m, b.path m = join dir n.base ↔
          clean (pinDirOf pinDir) = clean dir ∧ m = n := by
        intro m
        rw [PinnedBridge.path, hdirb]
        exact join_base_inj
      -- the maps of the state change nothing about the updates of the loop
      have hissued : loopIssued (backendSource δ) e.env.loop
          ⟨source, UInt32.ofNat e.env.getpid, ∅, b.view fs₁⟩ = e.issued source :=
        loopIssued_congr _ ⟨rfl, rfl, rfl⟩
      have hrange : ∀ u, (u, true) ∈ e.issued source → u.inRange = true :=
        fun u hu => inRange_of_mem_loopIssued hu
      simp only [newPoller, hissued]
      rw [held_shutdown, ← hopened]
      by_cases hsame : clean (pinDirOf pinDir) = clean dir
      · have hunpins : (∃ m, b.path m = join dir n.base ∧ e.Unpins m) ↔ e.Unpins n := by
          constructor
          · rintro ⟨m, hm, hu⟩
            rwa [((hpath m).mp hm).2] at hu
          · exact fun hu => ⟨n, (hpath n).mpr ⟨hsame, rfl⟩, hu⟩
        have hstart : e.openEnv.Succeeds ∧ clean (pinDirOf pinDir) = clean dir := ⟨hok, hsame⟩
        by_cases hu : e.Unpins n
        · rw [if_pos (hunpins.mpr hu), if_pos hstart, if_pos hu]
        · rw [if_neg (fun h => hu (hunpins.mp h)), if_pos hstart, if_neg hu,
            ← (hpath n).mpr ⟨hsame, rfl⟩]
          exact PinnedBridge.held_replay_path hlive hrange hnames n
      · have hother : ∀ m, b.path m ≠ join dir n.base := fun m hm => hsame ((hpath m).mp hm).1
        have hkept : ¬ ∃ m, b.path m = join dir n.base ∧ e.Unpins m := by
          rintro ⟨m, hm, -⟩
          exact hother m hm
        rw [if_neg hkept, if_neg (fun h => hsame h.2), PinnedBridge.held_replay_of_ne _ hnames hother]

/-- The files of a host after some executions of the command. -/
def filesAfter (es : List (Execution δ)) : Bpffs :=
  reach (fun fs e => (runPinned e fs).2.2) (Registry.empty Path Maps.empty) es

/-- A file holds what the updates since its removal leave. -/
theorem held_filesAfter (es : List (Execution δ)) (dir : String) (n : MapName) :
    ((filesAfter es).held (join dir n.base)).only n =
      (Maps.empty.storeAll (sinceUnpin es (clean dir) n)).only n := by
  refine run_invariant
    (P := fun es (fs : Bpffs) => (fs.held (join dir n.base)).only n =
      (Maps.empty.storeAll (sinceUnpin es (clean dir) n)).only n) rfl ?_ es
  intro es e ih
  have hhist : sinceUnpin (es ++ [e]) (clean dir) n =
      e.extend (clean dir) n (sinceUnpin es (clean dir) n) := by
    rw [sinceUnpin, List.foldl_append]
    rfl
  rw [runPinned_files, hhist, Execution.extend]
  cases e.started with
  | none => exact ih
  | some start =>
      obtain ⟨pinDir, source⟩ := start
      simp only
      rw [held_runBridge e pinDir source _ dir n]
      split_ifs
      · rfl
      · rw [Maps.storeAll_append]
        exact Maps.only_storeAll_congr ih _
      · exact ih

/-- **What a start finds.**  After any executions of the command, with any flags, pin directories,
backends and failures, and however each ended, each map of the next bridge holds what the updates leave
that the kernel took in its directory since the last execution that removed the file of this map. -/
theorem start_finds {es : List (Execution δ)} {openEnv : OpenEnv} {pinDir : String} {b : PinnedBridge}
    {fs : Bpffs} (h : mapsOpen openEnv pinDir (filesAfter es) = (.ok b, fs)) (n : MapName) :
    (b.view fs).only n =
      (Maps.empty.storeAll (sinceUnpin es (clean (pinDirOf pinDir)) n)).only n := by
  have hok : (mapsOpen openEnv pinDir (filesAfter es)).1 = .ok b := by rw [h]
  have hfs : fs = (mapsOpen openEnv pinDir (filesAfter es)).2 := by rw [h]
  obtain ⟨hdirb, -, hnames⟩ := mapsOpen_ok hok
  rw [← hfs] at hnames
  have hheld : fs.held (b.path n) = (filesAfter es).held (b.path n) := by
    rw [hfs, mapsOpen_snd, Registry.held_reach_acquire]
  rw [b.only_view, ← Registry.held_of_some (hnames n), hheld, PinnedBridge.path, hdirb]
  exact held_filesAfter es (pinDirOf pinDir) n

end executions

end GpuEbpfBridge
