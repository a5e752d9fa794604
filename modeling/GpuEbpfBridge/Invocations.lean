import GpuEbpfBridge.Executions
import GpuEbpfBridge.Flags

/-! # Executions by their command lines

An `Invocation` is an execution of the command with its command line; `parseFlags` gives its options.
Command lines that are refused, or whose last `--version` or `--dump` is true, neither call NVML nor
change a file (`runPinned_of_not_starts`).  What a file holds after any invocations comes from those that
start the bridge after the last clean shutdown in its directory (`held_since_clean`). -/

namespace GpuEbpfBridge

open Lib

/-! ### Options of `run` -/

/-- The modes that `chooseSource` handles. -/
def Mode.ofText : String → Option Mode
  | "auto" => some .auto
  | "real" => some .real
  | "mock" => some .mock
  | _ => none

theorem Mode.ofText_isSome_iff (text : String) : (Mode.ofText text).isSome = true ↔ text ∈ modes := by
  unfold Mode.ofText
  split
  · decide
  · decide
  · decide
  · next hauto hreal hmock =>
      have hno : ¬ (text = "auto" ∨ text = "real" ∨ text = "mock") := by
        rintro (h | h | h)
        exacts [hauto h, hreal h, hmock h]
      simpa [modes] using hno

section invocations

variable (T : FlagText) {δ : Type}

/-- The options as `run` reads them. -/
def FlagOptions.options (opt : FlagOptions) : Except GoError Options :=
  match Mode.ofText opt.mode with
  | some mode => .ok ⟨mode, opt.pinDir, opt.showVersion, opt.dump⟩
  -- the default of `chooseSource`
  | none => .error (.new ("unhandled --mode=" ++ T.quote opt.mode))

/-- An execution and its command line; the options in `host` are not read. -/
structure Invocation (δ : Type) where
  args : List String
  host : Execution δ

variable {T}

/-- After `parseFlags` the default of `chooseSource` is never taken. -/
theorem options_of_parseFlags {args : List String} {opt : FlagOptions}
    (h : parseFlags T args = .ok opt) :
    ∃ mode, Mode.ofText opt.mode = some mode ∧
      opt.options T = .ok ⟨mode, opt.pinDir, opt.showVersion, opt.dump⟩ := by
  obtain ⟨ss, left, -, -, hmode⟩ := parseFlags_ok_iff.mp h
  obtain ⟨mode, hm⟩ := Option.isSome_iff_exists.mp ((Mode.ofText_isSome_iff _).mpr hmode)
  exact ⟨mode, hm, by rw [FlagOptions.options, hm]⟩

namespace Invocation

variable (T)

/-- The execution with the options of its command line. -/
def execution (i : Invocation δ) : Execution δ :=
  match parseFlags T i.args with
  | .error err => { i.host with env := { i.host.env with parseFlags := .error err } }
  | .ok opt =>
      { i.host with
        env := { i.host.env with parseFlags := opt.options T }
        keepPins := opt.keepPins }

/-- The command line starts the bridge, with these settings. -/
def Starts (i : Invocation δ) (ss : List (String × String)) : Prop :=
  (∃ left, (bridgeFlags T).Accepted i.args ss left) ∧ (optionsOf T ss).mode ∈ modes ∧
    (optionsOf T ss).showVersion = false ∧ (optionsOf T ss).dump = false

/-- The execution removes the file of a map in a directory, after its bridge has been there. -/
structure Cleans (i : Invocation δ) (ss : List (String × String)) (dir : Path) (n : MapName) :
    Prop where
  starts : i.Starts T ss
  keepPins : (optionsOf T ss).keepPins = false
  pinDir : clean (pinDirOf (optionsOf T ss).pinDir) = dir
  removeMemlock : i.host.env.removeMemlock = none
  source : ∀ mode, Mode.ofText (optionsOf T ss).mode = some mode →
    ∃ source, (chooseSource i.host.env mode).1 = .ok source
  opens : i.host.openEnv.Succeeds
  removes : i.host.remove n = none

variable {T}

theorem Starts.parseFlags {i : Invocation δ} {ss : List (String × String)} (h : i.Starts T ss) :
    parseFlags T i.args = .ok (optionsOf T ss) := by
  obtain ⟨⟨left, ha⟩, hmode, -⟩ := h
  exact parseFlags_ok_iff.mpr ⟨ss, left, ha, rfl, hmode⟩

/-- **A command line that does not start the bridge** neither calls NVML nor changes a file. -/
theorem runPinned_of_not_starts {i : Invocation δ} (h : ¬ ∃ ss, i.Starts T ss) (fs : Bpffs) :
    (runPinned (i.execution T) fs).2 = ([], fs) := by
  unfold runPinned execution
  cases hp : GpuEbpfBridge.parseFlags T i.args with
  | error err => rfl
  | ok opt =>
      obtain ⟨mode, -, hopt⟩ := options_of_parseFlags hp
      obtain ⟨ss, left, ha, rfl, hmode⟩ := parseFlags_ok_iff.mp hp
      simp only [hopt]
      split_ifs with hversion hdump
      · rfl
      · rfl
      · exact absurd ⟨ss, ⟨left, ha⟩, hmode, by simpa using hversion, by simpa using hdump⟩ h

/-! ### What the next start finds -/

theorem extend_of_not_starts {i : Invocation δ} (h : ¬ ∃ ss, i.Starts T ss) (dir : Path)
    (n : MapName) (us : List Update) : (i.execution T).extend dir n us = us := by
  have hno : (i.execution T).started = none := by
    unfold execution Execution.started
    cases hp : GpuEbpfBridge.parseFlags T i.args with
    | error err => rfl
    | ok opt =>
        obtain ⟨mode, -, hopt⟩ := options_of_parseFlags hp
        obtain ⟨ss, left, ha, rfl, hmode⟩ := parseFlags_ok_iff.mp hp
        simp only [hopt]
        rw [if_pos]
        by_contra hstart
        simp only [Bool.or_eq_true, not_or, Bool.not_eq_true] at hstart
        exact h ⟨ss, ⟨left, ha⟩, hmode, hstart.1.1, hstart.1.2⟩
  rw [Execution.extend, hno]

theorem Cleans.extend {i : Invocation δ} {ss : List (String × String)} {dir : Path} {n : MapName}
    (h : i.Cleans T ss dir n) (us : List Update) : (i.execution T).extend dir n us = [] := by
  obtain ⟨mode, hmode, hopt⟩ := options_of_parseFlags h.starts.parseFlags
  obtain ⟨-, -, hversion, hdump⟩ := h.starts
  obtain ⟨source, hsource⟩ := h.source mode hmode
  have hexec : i.execution T =
      { i.host with
        env := { i.host.env with
          parseFlags := .ok ⟨mode, (optionsOf T ss).pinDir, false, false⟩ }
        keepPins := false } := by
    rw [execution, h.starts.parseFlags]
    simp only [hopt, hversion, hdump, h.keepPins]
  have hflags : (i.execution T).env.parseFlags =
      .ok ⟨mode, (optionsOf T ss).pinDir, false, false⟩ := by
    rw [hexec]
  have hlock : (i.execution T).env.removeMemlock = none := by
    rw [hexec]
    exact h.removeMemlock
  have hchoose : (chooseSource (i.execution T).env mode).1 = .ok source := by
    rw [hexec, ← hsource]
    cases mode <;> rfl
  have hstarted : (i.execution T).started = some ((optionsOf T ss).pinDir, source.1) := by
    rw [Execution.started, hflags]
    simp [hlock, hchoose]
  have hunpins : (i.execution T).Unpins n := by
    rw [hexec]
    exact ⟨rfl, h.removes⟩
  have hopens : (i.execution T).openEnv.Succeeds := by
    rw [hexec]
    exact h.opens
  rw [Execution.extend, hstarted]
  simp only
  rw [if_pos ⟨hopens, h.pinDir⟩, if_pos hunpins]

end Invocation

open Classical in
/-- The updates of a directory come from the invocations that start the bridge. -/
theorem foldl_extend_starts (is : List (Invocation δ)) (dir : Path) (n : MapName)
    (us : List Update) :
    (is.map (Invocation.execution T)).foldl (Execution.extend dir n) us =
      ((is.filter (fun i => ∃ ss, i.Starts T ss)).map (Invocation.execution T)).foldl
        (Execution.extend dir n) us := by
  induction is generalizing us with
  | nil => rfl
  | cons i is ih =>
      rw [List.map_cons, List.foldl_cons, ih]
      by_cases h : ∃ ss, i.Starts T ss
      · rw [List.filter_cons_of_pos (by simpa using h), List.map_cons, List.foldl_cons]
      · rw [List.filter_cons_of_neg (by simpa using h), Invocation.extend_of_not_starts h]

open Classical in
/-- **What a file holds** after any invocations comes from those alone that start the bridge after the
last one that removed the file: what ran before it, and the command lines that are refused, print the
version or dump the maps, make no difference. -/
theorem held_since_clean (pre post : List (Invocation δ)) {i : Invocation δ}
    {ss : List (String × String)} {dir : String} {n : MapName} (h : i.Cleans T ss (clean dir) n) :
    ((filesAfter ((pre ++ i :: post).map (Invocation.execution T))).held (join dir n.base)).only n =
      ((filesAfter ((post.filter (fun i => ∃ ss, i.Starts T ss)).map
        (Invocation.execution T))).held (join dir n.base)).only n := by
  have hsince : sinceUnpin ((pre ++ i :: post).map (Invocation.execution T)) (clean dir) n =
      sinceUnpin ((post.filter (fun i => ∃ ss, i.Starts T ss)).map (Invocation.execution T))
        (clean dir) n := by
    rw [sinceUnpin, sinceUnpin, ← foldl_extend_starts, List.map_append, List.map_cons,
      List.foldl_append, List.foldl_cons, h.extend]
  rw [held_filesAfter, held_filesAfter, hsince]

end invocations

/-- `--mode=real` and more on a machine where everything works. -/
def working (args : List String) : Invocation ℕ :=
  ⟨"--mode=real" :: args, { env := workingRun }⟩

/-- A clean shutdown forgets what an execution with `--keep-pins` had left. -/
theorem held_since_clean_keepPins :
    ((filesAfter ([working ["--keep-pins"]].map
        (Invocation.execution wholeSeconds))).held (join "/sys/fs/bpf" "gpu_meta")).gpuMeta.lastUpdateNs = 1 ∧
      ((filesAfter ([working ["--keep-pins"], working ["--keep-pins", "-keep-pins=F"],
        working ["--version"]].map (Invocation.execution wholeSeconds))).held
          (join "/sys/fs/bpf" "gpu_meta")).only .gpuMeta = Maps.empty.only .gpuMeta := by
  have hsets : (bridgeFlags wholeSeconds).Sets
      [("mode", "real"), ("keep-pins", "true"), ("keep-pins", "F")]
      (["--mode=real"] ++ (["--keep-pins"] ++ (["-keep-pins=F"] ++ []))) :=
    .cons (.joined rfl (.inr rfl)) ⟨_, rfl, rfl⟩ <|
    .cons (.implied rfl rfl (.inr rfl)) ⟨_, rfl, rfl⟩ <|
    .cons (.joined rfl (.inl rfl)) ⟨_, rfl, rfl⟩ .nil
  have hclean : (working ["--keep-pins", "-keep-pins=F"]).Cleans wholeSeconds
      [("mode", "real"), ("keep-pins", "true"), ("keep-pins", "F")] (clean "/sys/fs/bpf") .gpuMeta :=
    { starts := ⟨⟨[], _, [], rfl, hsets, .finish⟩, by decide, by decide, by decide⟩
      keepPins := by decide
      pinDir := by decide
      removeMemlock := rfl
      source := by
        intro mode hmode
        cases hmode
        exact ⟨_, rfl⟩
      opens := ⟨rfl, rfl, fun _ => rfl⟩
      removes := rfl }
  have h := held_since_clean [working ["--keep-pins"]] [working ["--version"]] hclean
  have hversion : ¬ ∃ ss, (working ["--version"]).Starts wholeSeconds ss := by
    rintro ⟨ss, hss⟩
    have hopt : parseFlags wholeSeconds (working ["--version"]).args =
        .ok { mode := "real", showVersion := true } := by
      decide +kernel
    rw [hss.parseFlags] at hopt
    have hshow := hss.2.2.1
    rw [Except.ok.inj hopt] at hshow
    cases hshow
  have hempty : ((filesAfter ([] : List (Execution ℕ))).held
      (join "/sys/fs/bpf" (MapName.base .gpuMeta))).only .gpuMeta = Maps.empty.only .gpuMeta := by
    rw [held_filesAfter]
    rfl
  rw [List.filter_cons_of_neg (by simpa using hversion), List.filter_nil, List.map_nil,
    hempty] at h
  exact ⟨by decide +kernel, h⟩

end GpuEbpfBridge
