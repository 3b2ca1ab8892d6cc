import PipelineTrial.Remote.Polling
import PipelineTrial.Session.Snapshot
import PipelineTrial.Suite.Config
import PipelineTrial.Suite.Report
import PipelineTrial.Suite.Schedule

/-! Running a suite: its cases are scheduled on a backend, and their reports are gathered. -/

namespace PipelineTrial

/-- The rules of the schedule that a configuration asks for. -/
def SuiteConfig.policy (config : SuiteConfig) : SchedulePolicy :=
  -- At least one case runs at a time.
  ⟨config.effectiveConcurrency, config.timeout, config.stopOnFirstFailure⟩

namespace Suite

variable {σ ρ : Type}

/-- The bound on moves that is enough when no case waits more often than a number of times. -/
def moveBound (cases waits : Nat) : Nat :=
  -- Each case also enters, checks, starts, may run out of time, announces and leaves.
  cases * (waits + 6)

/-- The result of a schedule of test cases that is over, and the collaborators after it. -/
def conclude (cases : List TestCase) (session : Session) (started : Duration)
    (ended : Schedule σ ρ) : SuiteResult × σ :=
  -- The suite takes as long as its schedule.
  (⟨session.id, gatherReports cases ended.latest, ended.now - started⟩, ended.world)

/-- The result of test cases that run on a backend, when they end within a bound on their moves. -/
def run (backend : Backend σ ρ) (config : SuiteConfig) (bound : Nat) (cases : List TestCase)
    (session : Session) (now : Duration) (world : σ) : Option (SuiteResult × σ) :=
  -- All cases wait for a slot at first.
  let plan : SchedulePlan σ ρ := ⟨backend, session.environment, config.policy⟩
  ((Schedule.ofCases config.policy cases now world).finish plan bound).map
    (conclude cases session now)

/-- The result of test cases on the local engine, unless one of them never ends. -/
def runLocal (executor : Executor σ) (settings : EngineSettings) (config : SuiteConfig)
    (cases : List TestCase) (session : Session) (now : Duration) (world : σ) :
    Option (SuiteResult × σ) :=
  -- A case waits at most once for each step.
  run (Engine.backend executor settings) config (moveBound cases.length settings.maxSteps) cases
    session now world

/-- The result of test cases on a platform that prepared a number of statuses. -/
def runRemote (platform : Platform σ) (patience : Patience) (prepared : Nat)
    (config : SuiteConfig) (cases : List TestCase) (session : Session) (now : Duration)
    (world : σ) : Option (SuiteResult × σ) :=
  -- The verdict is found as on the local engine.
  run (Polling.backend platform patience config.engine.verdictKey session.id) config
    (moveBound cases.length (patience.waitBound prepared)) cases session now world

/-- The result of test cases where their configuration says: on a platform that is out of reach, or here. -/
def runConfigured (executor : Executor σ) (config : SuiteConfig) (cases : List TestCase)
    (session : Session) (now : Duration) (world : σ) : Option (SuiteResult × σ) :=
  -- A platform is named by its address.
  match config.remote with
  | some remote =>
    runRemote (Platform.unreachable remote.baseUrl) remote.patience 0 config cases session now world
  | none => runLocal executor config.engine config cases session now world

end Suite

end PipelineTrial
