import PipelineTrial.Pipeline.Error
import PipelineTrial.Pipeline.State

/-! What a run of a pipeline reports: its outcome, its last state and a trace of its steps. -/

namespace PipelineTrial

/-- How a step of a run ended. -/
inductive StepStatus where
  | succeeded
  | failed
  | captured
  deriving DecidableEq

/-- The name of a step's ending. -/
def StepStatus.text : StepStatus → String
  | .succeeded => "succeeded"
  | .failed => "failed"
  | .captured => "captured_error"

/-- One executed step: which node it ran, how that ended, and what was bound. -/
structure TraceEntry where
  step : Nat
  node : String
  kind : String
  status : StepStatus
  duration : Duration
  outputs : Dictionary Json
  error : Option NodeError
  deriving DecidableEq

/-- How a run as a whole is judged. -/
inductive Outcome where
  | passed
  | failed
  | errored
  | skipped
  deriving DecidableEq

/-- The name of an outcome. -/
def Outcome.text : Outcome → String
  | .passed => "passed"
  | .failed => "failed"
  | .errored => "errored"
  | .skipped => "skipped"

/-- The report of a run. -/
structure PipelineResult where
  name : String
  outcome : Outcome
  duration : Duration
  state : State
  error : Option PipelineError
  trace : List TraceEntry
  deriving DecidableEq

/-- The outcome of a run that reached its end: the verdict must be true or absent. -/
def verdict (key : String) (state : State) : Outcome :=
  -- Any other value counts against the run.
  match state.get? key with
  | none => .passed
  | some (.boolean true) => .passed
  | some _ => .failed

/-- The outcome of a run that an error stopped: unresolved inputs are failures, all else is an error. -/
def PipelineError.outcome : PipelineError → Outcome
  | .input _ => .failed
  | _ => .errored

namespace PipelineResult

/-- The report of a run that reached its end. -/
def completed (name : String) (state : State) (trace : List TraceEntry) (duration : Duration)
    (verdictKey : String) : PipelineResult :=
  -- The verdict decides the outcome.
  ⟨name, verdict verdictKey state, duration, state, none, trace⟩

/-- The report of a run that an error stopped. -/
def errored (name : String) (error : PipelineError) (state : State) (trace : List TraceEntry)
    (duration : Duration) : PipelineResult :=
  -- State and trace up to the error are kept.
  ⟨name, error.outcome, duration, state, some error, trace⟩

/-- The report of a run that never started or whose steps are lost. -/
def aborted (name : String) (error : PipelineError) (duration : Duration) : PipelineResult :=
  -- Nothing is known of state and trace.
  errored name error State.empty [] duration

/-- The report of a run that was not scheduled. -/
def skipped (name : String) : PipelineResult :=
  -- It took no time.
  ⟨name, .skipped, Duration.zero, State.empty, none, []⟩

/-- Whether a run passed. -/
def passed (result : PipelineResult) : Bool := result.outcome == .passed

/-- Whether a run failed or could not be completed; a skipped one did neither. -/
def isFailure (result : PipelineResult) : Bool :=
  -- Both outcomes count alike.
  result.outcome == .failed || result.outcome == .errored

/-- The node that stopped the run, if one did. -/
def failingNode (result : PipelineResult) : Option String := result.error.bind (·.node?)

end PipelineResult

end PipelineTrial
