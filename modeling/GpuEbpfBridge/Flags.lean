import GpuEbpfBridge.Errors
import GpuEbpfBridge.Lib.FlagSet

/-! # The command line (`parseFlags` in `cmd/gpu-ebpf-bridge/main.go`)

`parseFlags` defines the seven flags of the bridge and checks the mode.  A command line is accepted
exactly if it is a sequence of settings of these flags up to its end, an operand or `--`, and the last
mode is one of the three; each option is then the value of its last setting, or its default.  Every
other command line is refused with the error of its first words that make no setting, or of its mode
(`parseFlags_exact`).  All options come back from every command line that sets them
(`parseFlags_settings`).

`time.ParseDuration` and the verb `%q` are parameters. -/

namespace GpuEbpfBridge

open Lib

/-- `options`. -/
@[ext]
structure FlagOptions where
  mode : String := "auto"
  /-- In nanoseconds. -/
  pollInterval : Int64 := 100000000
  pinDir : String := "/sys/fs/bpf"
  keepPins : Bool := false
  logLevel : String := "info"
  showVersion : Bool := false
  dump : Bool := false
deriving DecidableEq, Repr

/-- The standard library beyond the flags. -/
structure FlagText where
  parseDuration : String → Option Int64
  /-- The verb `%q`. -/
  quote : String → String

section flags

variable (T : FlagText)

/-- `DurationVar`. -/
def durationVar {σ : Type} (put : Int64 → σ → σ) : FlagVar σ where
  decode := T.parseDuration
  put := put
  implied := fun h => absurd h Bool.false_ne_true

/-- The flags that `parseFlags` defines. -/
def bridgeFlags : FlagSet FlagOptions where
  flags :=
    [("mode", stringVar fun v opt => { opt with mode := v }),
     ("poll-interval", durationVar T fun v opt => { opt with pollInterval := v }),
     ("pin-dir", stringVar fun v opt => { opt with pinDir := v }),
     ("keep-pins", boolVar fun v opt => { opt with keepPins := v }),
     ("log-level", stringVar fun v opt => { opt with logLevel := v }),
     ("version", boolVar fun v opt => { opt with showVersion := v }),
     ("dump", boolVar fun v opt => { opt with dump := v })]
  nodup := by
    simp only [List.map_cons, List.map_nil]
    decide
  names := by
    simp only [List.forall_mem_cons]
    decide

/-- The values of `--mode` that pass. -/
def modes : List String := ["auto", "real", "mock"]

def invalidMode (mode : String) : GoError :=
  .new ("invalid --mode=" ++ T.quote mode ++ " (want: auto, real, mock)")

/-- `parseFlags`. -/
def parseFlags (args : List String) : Except GoError FlagOptions :=
  match (bridgeFlags T).parse args {} with
  | .error err => .error (.new (err.text T.quote))
  | .ok (opt, _) =>
      if opt.mode ∈ modes then .ok opt else .error (invalidMode T opt.mode)

/-- The options after some settings. -/
def optionsOf (ss : List (String × String)) : FlagOptions where
  mode := FlagSet.lastValue some "mode" ss "auto"
  pollInterval := FlagSet.lastValue T.parseDuration "poll-interval" ss 100000000
  pinDir := FlagSet.lastValue some "pin-dir" ss "/sys/fs/bpf"
  keepPins := FlagSet.lastValue parseBool "keep-pins" ss false
  logLevel := FlagSet.lastValue some "log-level" ss "info"
  showVersion := FlagSet.lastValue parseBool "version" ss false
  dump := FlagSet.lastValue parseBool "dump" ss false

variable {T}

/-- Each option is written by its own flag. -/
theorem foldl_assign {ss : List (String × String)} (h : ∀ s ∈ ss, (bridgeFlags T).Accepts s) :
    ss.foldl (bridgeFlags T).assign {} = optionsOf T ss := by
  have writes : ∀ (i : ℕ) {name : String} {flag : FlagVar FlagOptions},
      (bridgeFlags T).flags[i]? = some (name, flag) → ∀ π : FlagOptions → flag.β,
      (∀ b opt, π (flag.put b opt) = b) →
      (∀ f ∈ (bridgeFlags T).flags, f.1 ≠ name → ∀ b opt, π (f.2.put b opt) = π opt) →
      π (ss.foldl (bridgeFlags T).assign {}) = FlagSet.lastValue flag.decode name ss (π {}) :=
    fun i _ _ hm π hown hother =>
      (FlagSet.writes_of_mem (List.mem_of_getElem? hm) hown hother).foldl h {}
  refine FlagOptions.ext
    (writes 0 rfl FlagOptions.mode (fun _ _ => rfl) ?_)
    (writes 1 rfl FlagOptions.pollInterval (fun _ _ => rfl) ?_)
    (writes 2 rfl FlagOptions.pinDir (fun _ _ => rfl) ?_)
    (writes 3 rfl FlagOptions.keepPins (fun _ _ => rfl) ?_)
    (writes 4 rfl FlagOptions.logLevel (fun _ _ => rfl) ?_)
    (writes 5 rfl FlagOptions.showVersion (fun _ _ => rfl) ?_)
    (writes 6 rfl FlagOptions.dump (fun _ _ => rfl) ?_)
  all_goals simp [bridgeFlags, stringVar, boolVar, durationVar]

theorem parseFlags_accepted {args left : List String} {ss : List (String × String)}
    (h : (bridgeFlags T).Accepted args ss left) :
    parseFlags T args =
      if (optionsOf T ss).mode ∈ modes then .ok (optionsOf T ss)
      else .error (invalidMode T (optionsOf T ss).mode) := by
  rw [parseFlags, FlagSet.parse_accepted h, foldl_assign h.accepts]

theorem parseFlags_refused {args : List String} {err : FlagError}
    (h : (bridgeFlags T).Refused args err) :
    parseFlags T args = .error (.new (err.text T.quote)) := by
  rw [parseFlags, FlagSet.parse_refused h]

/-- The command lines that are accepted, and the options they give. -/
theorem parseFlags_ok_iff {args : List String} {opt : FlagOptions} :
    parseFlags T args = .ok opt ↔
      ∃ ss left, (bridgeFlags T).Accepted args ss left ∧ opt = optionsOf T ss ∧
        opt.mode ∈ modes := by
  constructor
  · intro h
    rcases FlagSet.accepted_or_refused (F := bridgeFlags T) args with ⟨ss, left, ha⟩ | ⟨err, hr⟩
    · rw [parseFlags_accepted ha] at h
      split_ifs at h with hmode
      cases h
      exact ⟨ss, left, ha, rfl, hmode⟩
    · rw [parseFlags_refused hr] at h
      cases h
  · rintro ⟨ss, left, ha, rfl, hmode⟩
    rw [parseFlags_accepted ha, if_pos hmode]

/-- The command lines that are refused, and their errors. -/
theorem parseFlags_error_iff {args : List String} {err : GoError} :
    parseFlags T args = .error err ↔
      (∃ e, (bridgeFlags T).Refused args e ∧ err = .new (e.text T.quote)) ∨
      ∃ ss left, (bridgeFlags T).Accepted args ss left ∧ (optionsOf T ss).mode ∉ modes ∧
        err = invalidMode T (optionsOf T ss).mode := by
  constructor
  · intro h
    rcases FlagSet.accepted_or_refused (F := bridgeFlags T) args with ⟨ss, left, ha⟩ | ⟨e, hr⟩
    · rw [parseFlags_accepted ha] at h
      split_ifs at h with hmode
      cases h
      exact .inr ⟨ss, left, ha, hmode, rfl⟩
    · rw [parseFlags_refused hr] at h
      cases h
      exact .inl ⟨e, hr, rfl⟩
  · rintro (⟨e, hr, rfl⟩ | ⟨ss, left, ha, hmode, rfl⟩)
    · exact parseFlags_refused hr
    · rw [parseFlags_accepted ha, if_neg hmode]

/-- **Every command line.**  One is accepted exactly if it is a sequence of settings, in any spelling, up
to its end, an operand or `--`, and the last mode is one of the three; each option is then the value of
its last setting, or the default.  It is refused with the error of its first words that make no setting,
or else of its mode. -/
theorem parseFlags_exact (T : FlagText) (args : List String) :
    (∀ opt, parseFlags T args = .ok opt ↔
      ∃ ss left, (bridgeFlags T).Accepted args ss left ∧ opt = optionsOf T ss ∧
        opt.mode ∈ modes) ∧
    ∀ err, parseFlags T args = .error err ↔
      (∃ e, (bridgeFlags T).Refused args e ∧ err = .new (e.text T.quote)) ∨
      ∃ ss left, (bridgeFlags T).Accepted args ss left ∧ (optionsOf T ss).mode ∉ modes ∧
        err = invalidMode T (optionsOf T ss).mode :=
  ⟨fun _ => parseFlags_ok_iff, fun _ => parseFlags_error_iff⟩

-- the command line for development in `README.md`
example : parseFlags T ["--mode=mock", "--mock-config=./mock-config.yaml"] =
    .error (.new ("flag provided but not defined: -" ++ "mock-config")) := by
  have hsets : (bridgeFlags T).Sets [("mode", "mock")] (["--mode=mock"] ++ []) :=
    .cons (.joined rfl (.inr rfl)) ⟨_, rfl, rfl⟩ .nil
  have hword : Dashed (flagText "mock-config" (some "./mock-config.yaml"))
      "--mock-config=./mock-config.yaml" :=
    .inr rfl
  have hfail : (bridgeFlags T).Fails ["--mock-config=./mock-config.yaml"]
      (.notDefined "mock-config") :=
    .undefined (by decide) rfl hword
  exact parseFlags_refused ⟨_, _, _, rfl, hsets, hfail⟩

/-! ### Options as a command line -/

/-- Values that read back as the options of another type than text: for a Boolean, any of the spellings
that `parseBool` accepts. -/
structure OptionTexts (T : FlagText) (opt : FlagOptions) where
  pollInterval : String
  keepPins : String
  showVersion : String
  dump : String
  parse_pollInterval : T.parseDuration pollInterval = some opt.pollInterval
  parse_keepPins : parseBool keepPins = some opt.keepPins
  parse_showVersion : parseBool showVersion = some opt.showVersion
  parse_dump : parseBool dump = some opt.dump

namespace OptionTexts

variable {opt : FlagOptions} (texts : OptionTexts T opt)

/-- Settings of all options. -/
def settings : List (String × String) :=
  [("mode", opt.mode), ("poll-interval", texts.pollInterval), ("pin-dir", opt.pinDir),
   ("keep-pins", texts.keepPins), ("log-level", opt.logLevel), ("version", texts.showVersion),
   ("dump", texts.dump)]

theorem accepts_settings : ∀ s ∈ texts.settings, (bridgeFlags T).Accepts s := by
  have accepts : ∀ (i : ℕ) {name value : String} {flag : FlagVar FlagOptions},
      (bridgeFlags T).flags[i]? = some (name, flag) → (∃ b, flag.decode value = some b) →
      (bridgeFlags T).Accepts (name, value) :=
    fun i _ _ _ hm hd => ⟨_, FlagSet.lookup_of_mem (List.mem_of_getElem? hm),
      Option.isSome_iff_exists.mpr hd⟩
  simp only [settings, List.forall_mem_cons]
  exact ⟨accepts 0 rfl ⟨_, rfl⟩, accepts 1 rfl ⟨_, texts.parse_pollInterval⟩, accepts 2 rfl ⟨_, rfl⟩,
    accepts 3 rfl ⟨_, texts.parse_keepPins⟩, accepts 4 rfl ⟨_, rfl⟩,
    accepts 5 rfl ⟨_, texts.parse_showVersion⟩, accepts 6 rfl ⟨_, texts.parse_dump⟩,
    fun s hs => absurd hs List.not_mem_nil⟩

theorem optionsOf_settings {ss : List (String × String)} (hperm : ss.Perm texts.settings) :
    optionsOf T ss = opt := by
  have hnd : (ss.map Prod.fst).Nodup := by
    rw [(hperm.map Prod.fst).nodup_iff]
    simp [settings]
  have hlast : ∀ s ∈ texts.settings, lastWrite Prod.fst ss s.1 = some s :=
    fun s hs => lastWrite_of_nodup Prod.fst hnd (hperm.mem_iff.mpr hs)
  simp only [settings, List.forall_mem_cons] at hlast
  obtain ⟨hmode, hinterval, hdir, hkeep, hlevel, hversion, hdump, -⟩ := hlast
  simp [optionsOf, FlagSet.lastValue, hmode, hinterval, hdir, hkeep, hlevel, hversion, hdump,
    texts.parse_pollInterval, texts.parse_keepPins, texts.parse_showVersion, texts.parse_dump]

end OptionTexts

/-- **Round trip.**  All options with a valid mode come back from every command line that sets each of
them once, in any order and any spelling, Boolean values included, whatever stands after the end of the
flags. -/
theorem parseFlags_settings {opt : FlagOptions} (hmode : opt.mode ∈ modes) (texts : OptionTexts T opt)
    {ss : List (String × String)} (hperm : ss.Perm texts.settings) {groups : List (List String)}
    (hspell : List.Forall₂ (bridgeFlags T).Spells ss groups) {rest left : List String}
    (hstop : FlagSet.Stops rest left) : parseFlags T (groups.flatten ++ rest) = .ok opt := by
  have haccepts : ∀ s ∈ ss, (bridgeFlags T).Accepts s :=
    fun s hs => texts.accepts_settings s (hperm.mem_iff.mp hs)
  have ha : (bridgeFlags T).Accepted (groups.flatten ++ rest) ss left :=
    ⟨_, rest, rfl, FlagSet.sets_flatten hspell haccepts, hstop⟩
  rw [parseFlags_accepted ha, texts.optionsOf_settings hperm, if_pos hmode]

end flags

/-- A part of `time.ParseDuration`. -/
def wholeSeconds : FlagText where
  parseDuration value := if value = "5s" then some 5000000000 else none
  quote value := "\"" ++ value ++ "\""

/-- Seven settings, two of them in two words, three Boolean values written differently, and an operand
after them. -/
theorem parseFlags_settings_wholeSeconds :
    parseFlags wholeSeconds
        ["-dump=F", "--mode", "mock", "--poll-interval=5s", "-pin-dir", "/run/pins",
          "--keep-pins", "-log-level=debug", "--version=0", "now", "--dump"] =
      .ok { mode := "mock", pollInterval := 5000000000, pinDir := "/run/pins", keepPins := true,
            logLevel := "debug" } := by
  have hspell : List.Forall₂ (bridgeFlags wholeSeconds).Spells
      [("dump", "F"), ("mode", "mock"), ("poll-interval", "5s"), ("pin-dir", "/run/pins"),
        ("keep-pins", "true"), ("log-level", "debug"), ("version", "0")]
      [["-dump=F"], ["--mode", "mock"], ["--poll-interval=5s"], ["-pin-dir", "/run/pins"],
        ["--keep-pins"], ["-log-level=debug"], ["--version=0"]] :=
    .cons (.joined rfl (.inl rfl)) <| .cons (.apart rfl rfl (.inr rfl)) <|
    .cons (.joined rfl (.inr rfl)) <| .cons (.apart rfl rfl (.inl rfl)) <|
    .cons (.implied rfl rfl (.inr rfl)) <| .cons (.joined rfl (.inl rfl)) <|
    .cons (.joined rfl (.inr rfl)) .nil
  have hstop : FlagSet.Stops ["now", "--dump"] ["now", "--dump"] := .operand (.inr (by decide))
  exact parseFlags_settings (by decide) ⟨"5s", "true", "0", "F", rfl, rfl, rfl, rfl⟩ (by decide)
    hspell hstop

end GpuEbpfBridge
