import PipelineTrial.Pipeline.Encoding
import PipelineTrial.Run.Engine

/-! Results of runs as JSON objects. -/

namespace PipelineTrial

/-- A failed node's error with its kind and text. -/
def NodeError.toJson (error : NodeError) : Json :=
  -- The node itself is told elsewhere.
  .ofPairs [("kind", .text error.kind), ("message", .text error.message)]

/-- A failure with its kind, its text, its node, and whether nothing had run yet. -/
def PipelineError.toJson (error : PipelineError) : Json :=
  -- A failure without a node shows null.
  .ofPairs [("kind", .text error.kind), ("message", .text error.message),
    ("node_id", .ofText? error.node?), ("load_time", .boolean error.isLoadTime)]

/-- A span of time in whole seconds and further nanoseconds. -/
def Duration.toJson (duration : Duration) : Json :=
  -- Both parts are whole numbers.
  .ofPairs [("secs", .integer duration.wholeSeconds),
    ("nanos", .integer duration.subsecondNanoseconds)]

/-- An entry of a trace with what its step bound. -/
def TraceEntry.toJson (entry : TraceEntry) : Json :=
  -- The ending shows in two fields and in its success.
  .ofPairs [("step", .integer entry.step), ("node_id", .text entry.node),
    ("kind", .text entry.kind), ("status", .text entry.status.text),
    ("status_str", .text entry.status.text), ("duration", entry.duration.toJson),
    ("result", .ofPairs [("success", .boolean (entry.status == .succeeded)),
      ("outputs", .ofDictionary entry.outputs),
      ("error", (entry.error.map NodeError.toJson).getD .null)])]

/-- The number of entries from which on a trace counts as long. -/
def longTrace : Nat := 40

/-- The entries of a trace that are shown: of a long one the first twenty and the last twenty. -/
def shownEntries (trace : List TraceEntry) : List TraceEntry :=
  -- A short trace is shown whole.
  if longTrace < trace.length then trace.take 20 ++ trace.drop (trace.length - 20) else trace

/-- The fields of a result. -/
def PipelineResult.fields (result : PipelineResult) : List (String × Json) :=
  -- The length of the trace is told even when not all of it is shown.
  [("name", .text result.name), ("outcome", .text result.outcome.text),
    ("outcome_str", .text result.outcome.text), ("passed", .boolean result.passed),
    ("is_failure", .boolean result.isFailure), ("failing_node", .ofText? result.failingNode),
    ("state", result.state.toJson), ("error", (result.error.map PipelineError.toJson).getD .null),
    ("duration", .float result.duration.toSeconds), ("trace_len", .integer result.trace.length),
    ("trace", .list ((shownEntries result.trace).map TraceEntry.toJson))]

/-- The settings of an engine. -/
def EngineSettings.toJson (settings : EngineSettings) : Json :=
  -- Both are always there.
  .ofPairs [("max_steps", .integer settings.maxSteps), ("verdict_key", .text settings.verdictKey)]

end PipelineTrial
