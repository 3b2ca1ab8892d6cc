import PipelineTrial.Json.Value
import PipelineTrial.Pipeline.State
import PipelineTrial.Run.Backend

/-! Remote platforms that run pipelines: what they are asked, and how they tell the status of a run. -/

namespace PipelineTrial

/-- The failure of a request to a remote platform. -/
structure RemoteError where
  reason : String
  deriving DecidableEq

/-- The text of a failed request. -/
def RemoteError.message (error : RemoteError) : String := "remote platform error: " ++ error.reason

/-- The status of a remote run. -/
inductive RemoteStatus where
  | pending
  | running
  | completed (state : State)
  | failed (message : String)
  deriving DecidableEq

namespace RemoteStatus

/-- The state of a completed run, empty when none is told. -/
def readState (payload : Json) : Except RemoteError State :=
  -- A null stands for none.
  match payload.field? "state" with
  | some (.object fields) => .ok ⟨.ofList fields⟩
  | some .null => .ok State.empty
  | none => .ok State.empty
  | some _ => .error ⟨"state must be an object"⟩

/-- The text of a failed run. -/
def readFailure (payload : Json) : String :=
  -- A platform may give no text.
  ((payload.field? "error").bind Json.text?).getD "remote execution failed"

/-- The status that a platform's reply tells. -/
def read (payload : Json) : Except RemoteError RemoteStatus :=
  -- Some states have two names.
  match (payload.field? "status").bind Json.text? with
  | none => .error ⟨"missing status"⟩
  | some "pending" => .ok .pending
  | some "queued" => .ok .pending
  | some "running" => .ok .running
  | some "completed" => (readState payload).map .completed
  | some "succeeded" => (readState payload).map .completed
  | some "failed" => .ok (.failed (readFailure payload))
  | some "error" => .ok (.failed (readFailure payload))
  | some other => .error ⟨"unknown execution status '" ++ other ++ "'"⟩

end RemoteStatus

/-- A remote platform, over a world `σ`. -/
structure Platform (σ : Type) where
  /-- The response to the submission of a pipeline on behalf of a session, which gives its run a name. -/
  submit : String → Definition → Duration → σ → Response (Except RemoteError String) × σ
  /-- The response to a question for the status of a named run on behalf of a session. -/
  status : String → String → Duration → σ → Response (Except RemoteError RemoteStatus) × σ

namespace Platform

/-- The failure to send a submission. -/
def submissionUnsent (reason : String) : RemoteError := ⟨"http post failed: " ++ reason⟩

/-- The failure to send a question for a status. -/
def questionUnsent (reason : String) : RemoteError := ⟨"http get failed: " ++ reason⟩

/-- The platform at an address that no request reaches. -/
def unreachable {σ : Type} (baseUrl : String) : Platform σ where
  submit _ _ _ world :=
    -- Submissions fail at once.
    (.answer Duration.zero (.error (submissionUnsent ("no connection to " ++ baseUrl))), world)
  status _ _ _ world :=
    -- Questions fail at once.
    (.answer Duration.zero (.error (questionUnsent ("no connection to " ++ baseUrl))), world)

end Platform

end PipelineTrial
