import PipelineTrial.Remote.Polling

/-! Remote platforms for rehearsals, which tell prepared statuses and record what they are asked. -/

namespace PipelineTrial

/-- A request to a rehearsed platform. -/
inductive PlatformRequest where
  | submission (pipeline : String)
  | question (execution : String)
  deriving DecidableEq

/-- A request with its time and the session that made it. -/
structure RecordedRequest where
  time : Duration
  session : String
  request : PlatformRequest
  deriving DecidableEq

/-- A platform that answers every submission alike and tells prepared statuses in turn. -/
structure RehearsedPlatform where
  submission : Except RemoteError String
  statuses : List Json
  /-- The recorded requests, the latest first. -/
  latest : List RecordedRequest

namespace RehearsedPlatform

/-- The platform with an answer to submissions and statuses to tell. -/
def prepare (submission : Except RemoteError String) (statuses : List Json) : RehearsedPlatform :=
  -- Nothing has been asked yet.
  ⟨submission, statuses, []⟩

/-- The recorded requests, in order. -/
def requests (platform : RehearsedPlatform) : List RecordedRequest := platform.latest.reverse

/-- The next prepared status; when none is left, a run goes on. -/
def nextStatus (platform : RehearsedPlatform) :
    Except RemoteError RemoteStatus × List Json :=
  -- Statuses are told in order.
  match platform.statuses with
  | [] => (.ok .running, [])
  | payload :: rest => (RemoteStatus.read payload, rest)

/-- The rehearsed platform as one that answers at once. -/
def platform : Platform RehearsedPlatform where
  submit session definition now world :=
    -- The answer is the same every time.
    (.answer Duration.zero world.submission,
      { world with latest := ⟨now, session, .submission definition.name⟩ :: world.latest })
  status session execution now world :=
    -- A told status is used up.
    let (status, rest) := world.nextStatus
    (.answer Duration.zero status,
      ⟨world.submission, rest, ⟨now, session, .question execution⟩ :: world.latest⟩)

end RehearsedPlatform

end PipelineTrial
