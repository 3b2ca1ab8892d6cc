import PipelineTrial.Files.Tree
import PipelineTrial.Remote.Polling
import PipelineTrial.Run.Engine
import PipelineTrial.Suite.Error
import PipelineTrial.Toml.Document

/-! The configuration of a suite and of a remote platform, read from TOML with defaults. -/

namespace PipelineTrial

/-- Where a remote platform is and how patiently to wait for it. -/
structure RemoteConfig where
  baseUrl : String
  apiToken : Option String
  pollMilliseconds : Nat
  waitSeconds : Nat
  deriving DecidableEq

/-- How long to wait between questions and in all. -/
def RemoteConfig.patience (config : RemoteConfig) : Patience :=
  -- The units of the two differ.
  ⟨.ofMilliseconds config.pollMilliseconds, .ofSeconds config.waitSeconds⟩

/-- The configuration of a suite. -/
structure SuiteConfig where
  concurrency : Nat
  timeoutSeconds : Option Nat
  stopOnFirstFailure : Bool
  engine : EngineSettings
  remote : Option RemoteConfig
  deriving DecidableEq

namespace SuiteConfig

/-- The configuration that holds unless another is given. -/
def default : SuiteConfig := ⟨1, none, false, .default, none⟩

/-- The number of pipelines that may run at once; none at all means one. -/
def effectiveConcurrency (config : SuiteConfig) : Nat := max config.concurrency 1

/-- The limit on the time of each pipeline. -/
def timeout (config : SuiteConfig) : Option Duration := config.timeoutSeconds.map .ofSeconds

end SuiteConfig

namespace Toml

/-- A setting that may be missing, in which case another value holds. -/
def setting {α : Type} (read : Toml → Option α) (fallback : α) : Option Toml → Option α
  | none => some fallback
  | some value => read value

/-- A setting that may be missing. -/
def optional {α : Type} (read : Toml → Option α) : Option Toml → Option (Option α)
  | none => some none
  | some value => (read value).map some

/-- The settings of the engine. -/
def engine? (value : Toml) : Option EngineSettings := do
  -- Each setting has a default of its own.
  let find ← value.settings?
  let maxSteps ← setting natural? EngineSettings.default.maxSteps (find "max_steps" 0)
  let verdictKey ← setting text? EngineSettings.default.verdictKey (find "verdict_key" 1)
  some ⟨maxSteps, verdictKey⟩

/-- The settings of a remote platform. -/
def remote? (value : Toml) : Option RemoteConfig := do
  -- Only the address is required.
  let find ← value.settings?
  let baseUrl ← (find "base_url" 0).bind text?
  let apiToken ← optional text? (find "api_token" 1)
  let poll ← setting natural? Patience.default.interval.wholeMilliseconds (find "poll_interval_ms" 2)
  let wait ← setting natural? Patience.default.limit.wholeSeconds (find "max_wait_secs" 3)
  some ⟨baseUrl, apiToken, poll, wait⟩

/-- The settings of a suite. -/
def suite? (value : Toml) : Option SuiteConfig := do
  -- Settings of other names are ignored.
  let find ← value.settings?
  let concurrency ← setting natural? SuiteConfig.default.concurrency (find "concurrency" 0)
  let timeout ← optional natural? (find "pipeline_timeout_secs" 1)
  let stop ← setting boolean? SuiteConfig.default.stopOnFirstFailure (find "stop_on_first_failure" 2)
  let engine ← setting engine? SuiteConfig.default.engine (find "engine" 3)
  let remote ← optional remote? (find "remote" 4)
  some ⟨concurrency, timeout, stop, engine, remote⟩

end Toml

/-- The configuration in a TOML document. -/
def SuiteConfig.parse (document : String) : Except SuiteError SuiteConfig :=
  -- The document has to be well formed before its settings count.
  match Toml.parse? document with
  | none => .error (.configuration "not a TOML document")
  | some table =>
    match table.suite? with
    | none => .error (.configuration "a setting is missing or has a value of the wrong type")
    | some config => .ok config

/-- The configuration in the file at a path. -/
def SuiteConfig.load (path : FilePath) (files : FileTree) : Except SuiteError SuiteConfig :=
  -- The file has to hold text.
  match files.readText path with
  | .error error => .error (.file error.message)
  | .ok document => SuiteConfig.parse document

end PipelineTrial
