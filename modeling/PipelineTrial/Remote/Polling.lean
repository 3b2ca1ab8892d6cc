import PipelineTrial.Remote.Platform

/-! Running pipelines on a remote platform: a run is submitted, then its status is polled. -/

namespace PipelineTrial

/-- How long to wait between two questions for a status, and how long for a run to settle. -/
structure Patience where
  interval : Duration
  limit : Duration
  deriving DecidableEq

/-- The patience that holds unless another is set. -/
def Patience.default : Patience := ⟨.ofMilliseconds 5000, .ofSeconds 600⟩

/-- The number of waits that a run can take on a platform that prepared a number of statuses. -/
def Patience.waitBound (patience : Patience) (prepared : Nat) : Nat :=
  -- Each question can wait for its answer and for the next question.
  2 * (patience.limit.nanoseconds / patience.interval.nanoseconds + prepared + 2)

/-- What a remote run waits for; a missing answer means that the task dies instead. -/
inductive Awaited where
  | submission (answer : Option (Except RemoteError String))
  | status (execution : String) (answer : Option (Except RemoteError RemoteStatus))
  /-- The time of the next question. -/
  | question (execution : String)

/-- A remote run in progress. -/
structure RemoteRun where
  name : String
  started : Duration
  awaited : Awaited

namespace Polling

variable {σ : Type}

/-- The report of a run that an error stopped. -/
def giveUp (run : RemoteRun) (error : PipelineError) (now : Duration) : Progress RemoteRun :=
  -- Nothing is known of its state.
  .finished (.aborted run.name error (now - run.started))

/-- Where a run stands once a status is known. -/
def judge (patience : Patience) (verdictKey : String) (run : RemoteRun) (execution : String)
    (now : Duration) : Except RemoteError RemoteStatus → Progress RemoteRun
  | .ok (.completed state) =>
    .finished (.completed run.name state [] (now - run.started) verdictKey)
  | .ok (.failed message) => giveUp run (.remote message) now
  | .error error => giveUp run (.remote error.message) now
  | .ok _ =>
    -- The next question must not come after the limit.
    if patience.limit < now - run.started + patience.interval then
      giveUp run (.timeout patience.limit) now
    else .waiting patience.interval { run with awaited := .question execution }

/-- Where a run stands once its status has been asked for; the wait for the answer may take no time. -/
def question (platform : Platform σ) (session : String) (run : RemoteRun) (execution : String)
    (now : Duration) (world : σ) : Progress RemoteRun × σ :=
  -- The answer is judged when it arrives.
  match platform.status session execution now world with
  | (.silence, world) => (.stalled, world)
  | (.crash delay, world) => (.waiting delay { run with awaited := .status execution none }, world)
  | (.answer delay answer, world) =>
    (.waiting delay { run with awaited := .status execution (some answer) }, world)

/-- A remote platform as a backend for a session. -/
def backend (platform : Platform σ) (patience : Patience) (verdictKey session : String) :
    Backend σ RemoteRun where
  start definition now world :=
    -- The graph is left to the platform.
    let run (answer : Option (Except RemoteError String)) : RemoteRun :=
      ⟨definition.name, now, .submission answer⟩
    match platform.submit session definition now world with
    | (.silence, world) => (.stalled, world)
    | (.crash delay, world) => (.waiting delay (run none), world)
    | (.answer delay answer, world) => (.waiting delay (run (some answer)), world)
  resume run now world :=
    -- What was awaited has arrived.
    match run.awaited with
    | .submission none => (.crashed, world)
    | .submission (some (.error error)) => (giveUp run (.remote error.message) now, world)
    | .submission (some (.ok execution)) => question platform session run execution now world
    | .status _ none => (.crashed, world)
    | .status execution (some answer) =>
      (judge patience verdictKey run execution now answer, world)
    | .question execution => question platform session run execution now world

end Polling

end PipelineTrial
