import GpuEbpfBridge.Lib.Fold
import GpuEbpfBridge.Mock
import GpuEbpfBridge.Poller
import GpuEbpfBridge.Real

/-! # The command (`cmd/gpu-ebpf-bridge/main.go`)

`run` resolves the mode to a backend (`chooseSource`), opens the maps, and drives the poll loop
(`pollerRun`, `Poller.Run`) until it is cancelled.  The backend is `Real` or `Mock` behind one
interface, hence a sum (`Backend`).  `RunEnv` is what an execution meets: what the build and the
flags are, the answers of NVML at each method call, whether the maps open, and the ticks until the
cancellation.

`run` returns its error and all calls made to NVML, those of a backend that `chooseSource` tried
and dropped included.  What it does to the bridge after the loop (`Close`, `Unpin`) changes neither
and is left out. -/

namespace GpuEbpfBridge

open Lib

/-! ### One interface, two backends -/

/-- A backend of either kind behind the interface. -/
def Source.sum {ε ε' σ σ' : Type} (S : Source ε σ) (T : Source ε' σ') :
    Source (ε × ε') (σ ⊕ σ') where
  init
    | e, .inl s => ((S.init e.1 s).1, .inl (S.init e.1 s).2)
    | e, .inr t => ((T.init e.2 t).1, .inr (T.init e.2 t).2)
  devices
    | e, .inl s => ((S.devices e.1 s).1, .inl (S.devices e.1 s).2)
    | e, .inr t => ((T.devices e.2 t).1, .inr (T.devices e.2 t).2)
  processSamples
    | e, n, .inl s => ((S.processSamples e.1 n s).1, .inl (S.processSamples e.1 n s).2)
    | e, n, .inr t => ((T.processSamples e.2 n t).1, .inr (T.processSamples e.2 n t).2)
  close
    | e, .inl s => ((S.close e.1 s).1, .inl (S.close e.1 s).2)
    | e, .inr t => ((T.close e.2 t).1, .inr (T.close e.2 t).2)

/-- What `run` keeps as its `nvml.Poller`. -/
abbrev Backend (δ : Type) := Session δ ⊕ Mock

/-- What a method call of a `Backend` meets. -/
abbrev BackendEnv (δ : Type) := NvmlEnv δ × MockEnv

/-- The two backends of the bridge. -/
def backendSource (δ : Type) : Source (BackendEnv δ) (Backend δ) := (realSource δ).sum mockSource

/-- The calls a backend has made to NVML. -/
def Backend.trace {δ : Type} : Backend δ → List NvmlCall
  | .inl s => s.trace
  | .inr _ => []

/-! ### The poll loop -/

section loop

variable {ε σ : Type}

/-- `poller.New`; `none` is a nil field of `Config`. -/
def newPoller (source : Option σ) (bridge : Option Maps) (getpid : ℕ) :
    Except GoError (State σ) :=
  match source, bridge with
  | none, _ => .error (.new "poller: Config.Source is required")
  | some _, none => .error (.new "poller: Config.Bridge is required")
  | some source, some objs => .ok ⟨source, UInt32.ofNat getpid, ∅, objs⟩

/-- What the poll loop meets; `ticks` are those of the ticker before the context is done. -/
structure LoopEnv (ε : Type) where
  init : ε
  initial : TickEnv ε
  ticks : List (TickEnv ε)
  close : ε

/-- `Poller.Run`. -/
def pollerRun (S : Source ε σ) (env : LoopEnv ε) (s : State σ) : Option GoError × State σ :=
  match S.init env.init s.source with
  | (some err, source) => (some (.wrapf "nvml init: %w" err), { s with source := source })
  | (none, source) =>
      let s := reach (step S) { s with source := source } (env.initial :: env.ticks)
      -- the deferred Close
      (none, { s with source := (S.close env.close s.source).2 })

end loop

/-! ### The command -/

/-- The values of `--mode` that `parseFlags` lets through. -/
inductive Mode where
  | auto
  | real
  | mock
deriving DecidableEq, Repr

/-- `options`, as far as `run` reads them before the shutdown. -/
structure Options where
  mode : Mode
  pinDir : String := "/sys/fs/bpf"
  showVersion : Bool := false
  dump : Bool := false

/-- What an execution of `run` meets. -/
structure RunEnv (δ : Type) where
  parseFlags : Except GoError Options
  runDump : Option GoError := none
  removeMemlock : Option GoError := none
  /-- The error of `newRealPoller`: that of the stub where the backend is not compiled in. -/
  newRealPoller : Option GoError := none
  /-- `chooseSource`: the `Init` of a backend and the `Close` after it failed. -/
  choose : BackendEnv δ
  dropped : NvmlEnv δ
  mapsOpen : Except GoError Maps
  getpid : ℕ
  loop : LoopEnv (BackendEnv δ)
  /-- The `Close` of a backend that never reaches the loop. -/
  abandon : BackendEnv δ

section run

variable {δ : Type}

/-- `tryReal`, and the calls to NVML of a backend it drops. -/
def tryReal (env : RunEnv δ) : Except GoError (Session δ) × List NvmlCall :=
  match env.newRealPoller with
  | some err => (.error err, [])
  | none =>
      match (newReal δ).init env.choose.1 with
      | (some err, s) => (.error err, (s.close env.dropped).2.trace)
      | (none, s) => (.ok s, [])

/-- The mock backend as `chooseSource` starts it. -/
def tryMock (env : RunEnv δ) : Except GoError (Backend δ × String) :=
  match newMock.init env.choose.2 with
  | (some err, _) => .error err
  | (none, m) => .ok (.inr m, "mock")

/-- `chooseSource`, and the calls to NVML of a backend it dropped. -/
def chooseSource (env : RunEnv δ) : Mode → Except GoError (Backend δ × String) × List NvmlCall
  | .real =>
      match tryReal env with
      | (.error err, calls) =>
          (.error (.wrapf "real NVML backend requested but unavailable: %w" err), calls)
      | (.ok s, calls) => (.ok (.inl s, "real"), calls)
  | .mock => (tryMock env, [])
  | .auto =>
      match tryReal env with
      | (.ok s, calls) => (.ok (.inl s, "real"), calls)
      | (.error _, calls) => (tryMock env, calls)

/-- `run` from `maps.Open` on, and the calls to NVML its backend has made in the end. -/
def runSource (env : RunEnv δ) (pinDir : String) (source : Backend δ) :
    Option GoError × List NvmlCall :=
  let abandoned := ((backendSource δ).close env.abandon source).2
  match env.mapsOpen with
  | .error err =>
      (some (.wrapf ("opening bridge maps in " ++ pinDir ++ ": %w") err), Backend.trace abandoned)
  | .ok bridge =>
      match newPoller (some source) (some bridge) env.getpid with
      | .error err => (some err, Backend.trace abandoned)
      | .ok p =>
          let r := pollerRun (backendSource δ) env.loop p
          (r.1, Backend.trace r.2.source)

/-- `run`, and all calls to NVML. -/
def run (env : RunEnv δ) : Option GoError × List NvmlCall :=
  match env.parseFlags with
  | .error err => (some err, [])
  | .ok opt =>
      if opt.showVersion then (none, [])
      else if opt.dump then (env.runDump, [])
      else
        match env.removeMemlock with
        | some err => (some (.wrapf "RemoveMemlock: %w" err), [])
        | none =>
            match chooseSource env opt.mode with
            | (.error err, calls) => (some err, calls)
            | (.ok (source, _), calls) =>
                let r := runSource env opt.pinDir source
                (r.1, calls ++ r.2)

end run

end GpuEbpfBridge
