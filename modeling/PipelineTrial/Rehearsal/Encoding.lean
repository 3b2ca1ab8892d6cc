import PipelineTrial.Pipeline.Encoding
import PipelineTrial.Rehearsal.Models
import PipelineTrial.Rehearsal.Platform

/-! Records of rehearsals as JSON objects. -/

namespace PipelineTrial

/-- A recorded call with its time in whole milliseconds. -/
def RecordedCall.toJson (record : RecordedCall) : Json :=
  -- Toolkit and tool make one name.
  .ofPairs [("at_ms", .integer record.time.wholeMilliseconds),
    ("session", .text record.call.session),
    ("tool", .text (record.call.toolkit ++ "." ++ record.call.tool)),
    ("arguments", .ofDictionary record.call.arguments)]

/-- A request to a language model. -/
def ModelRequest.toJson (request : ModelRequest) : Json :=
  -- Missing parts show null.
  .ofPairs [("session_id", .text request.session), ("model", .text request.model),
    ("system", .ofText? request.system), ("prompt", .text request.prompt),
    ("schema", (request.schema.map OutputSchema.toJson).getD .null)]

/-- A recorded request to a platform with its time in whole milliseconds. -/
def RecordedRequest.toJson (record : RecordedRequest) : Json :=
  -- The kind of the request names its field.
  .ofPairs [("at_ms", .integer record.time.wholeMilliseconds), ("session", .text record.session),
    match record.request with
    | .submission pipeline => ("submit", .text pipeline)
    | .question execution => ("status", .text execution)]

end PipelineTrial
