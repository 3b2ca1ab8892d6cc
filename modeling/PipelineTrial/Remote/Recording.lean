import PipelineTrial.Remote.Polling
import PipelineTrial.Run.Recording

/-! Remote platforms that keep a record of what they reply, and platforms that reply what was prepared. -/

namespace PipelineTrial

/-- What a platform replies to a request. -/
inductive PlatformReply where
  | submission (response : Response (Except RemoteError String))
  | status (response : Response (Except RemoteError RemoteStatus))

/-- A request to a platform: when it was made, and what the platform replies. -/
structure PlatformExchange where
  asked : Duration
  reply : PlatformReply

namespace Platform

variable {σ : Type}

/-- The same platform, which also records every reply, the latest last. -/
def recorded (platform : Platform σ) : Platform (σ × List PlatformReply) where
  submit session definition now world :=
    -- The record does not influence the response.
    let (response, next) := platform.submit session definition now world.1
    (response, next, world.2 ++ [.submission response])
  status session execution now world :=
    let (response, next) := platform.status session execution now world.1
    (response, next, world.2 ++ [.status response])

/-- The same platform, which also records every request with its time, the latest last. -/
def logged (platform : Platform σ) : Platform (σ × List PlatformExchange) where
  submit session definition now world :=
    -- The record does not influence the response.
    let (response, next) := platform.submit session definition now world.1
    (response, next, world.2 ++ [⟨now, .submission response⟩])
  status session execution now world :=
    let (response, next) := platform.status session execution now world.1
    (response, next, world.2 ++ [⟨now, .status response⟩])

/-- Replies to each request with the next prepared reply; one of the wrong kind, or none, means silence. -/
def prepared : Platform (List PlatformReply) where
  submit _ _ _ replies :=
    -- Each reply is used up.
    match replies with
    | .submission response :: rest => (response, rest)
    | _ => (.silence, replies)
  status _ _ _ replies :=
    match replies with
    | .status response :: rest => (response, rest)
    | _ => (.silence, replies)

end Platform

/-- Hears the replies of a platform to a session that polls it. -/
def Polling.listener {σ : Type} (platform : Platform σ) (patience : Patience)
    (verdictKey session : String) : Listener σ RemoteRun PlatformReply where
  start definition now world :=
    -- Each move has a record of its own.
    ((backend platform.recorded patience verdictKey session).start definition now (world, [])).2.2
  resume run now world :=
    ((backend platform.recorded patience verdictKey session).resume run now (world, [])).2.2

end PipelineTrial
