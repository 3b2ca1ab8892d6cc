import PipelineTrial.Run.Encoding
import PipelineTrial.Suite.Config
import PipelineTrial.Suite.Report

/-! Configurations, results and remote statuses as JSON objects. -/

namespace PipelineTrial

/-- The settings of a remote platform. -/
def RemoteConfig.toJson (config : RemoteConfig) : Json :=
  -- A missing token shows null.
  .ofPairs [("base_url", .text config.baseUrl), ("api_token", .ofText? config.apiToken),
    ("poll_interval_ms", .integer config.pollMilliseconds),
    ("max_wait_secs", .integer config.waitSeconds)]

/-- The configuration of a suite. -/
def SuiteConfig.toJson (config : SuiteConfig) : Json :=
  -- Missing parts show null.
  .ofPairs [("concurrency", .integer config.concurrency),
    ("pipeline_timeout_secs", match config.timeoutSeconds with
      | some seconds => .integer seconds
      | none => .null),
    ("stop_on_first_failure", .boolean config.stopOnFirstFailure),
    ("engine", config.engine.toJson),
    ("remote", (config.remote.map RemoteConfig.toJson).getD .null)]

/-- The fields of a suite's result. -/
def SuiteResult.fields (suite : SuiteResult) : List (String × Json) :=
  -- The document holds the counts.
  [("session_id", .text suite.session), ("document", suite.document.toJson),
    ("outcomes", .list (suite.results.map fun result => .text result.outcome.text)),
    ("exit_code", .integer suite.exitCode), ("all_passed", .boolean suite.allPassed),
    ("duration", .float suite.duration.toSeconds)]

/-- The status of a remote run with what it tells. -/
def RemoteStatus.toJson : RemoteStatus → Json
  | .pending => .ofPairs [("status", .text "pending")]
  | .running => .ofPairs [("status", .text "running")]
  | .completed state => .ofPairs [("status", .text "completed"), ("state", state.toJson)]
  | .failed message => .ofPairs [("status", .text "failed"), ("message", .text message)]

end PipelineTrial
