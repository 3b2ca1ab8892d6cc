import PipelineTrial.Remote.Platform

/-! Failures around suites: files, stored JSON, configurations, sessions and remote platforms. -/

namespace PipelineTrial

/-- The failure of an operation around a suite. -/
inductive SuiteError where
  | file (reason : String)
  | json (reason : String)
  | configuration (reason : String)
  | unknownSession (id : String)
  | remote (error : RemoteError)
  deriving DecidableEq

namespace SuiteError

/-- The kind of a failure. -/
def kind : SuiteError → String
  | .file _ => "Io"
  | .json _ => "Json"
  | .configuration _ => "Config"
  | .unknownSession _ => "UnknownSession"
  | .remote _ => "Remote"

/-- The text of a failure. -/
def message : SuiteError → String
  | .file reason => "io error: " ++ reason
  | .json reason => "json error: " ++ reason
  | .configuration reason => "invalid configuration: " ++ reason
  | .unknownSession id => "no environment snapshot stored for session '" ++ id ++ "'"
  | .remote error => error.message

end SuiteError

end PipelineTrial
