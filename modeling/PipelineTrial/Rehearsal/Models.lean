import PipelineTrial.Rehearsal.Tools

/-! Language models for rehearsals, which reply from a queue, and whole sets of rehearsed collaborators. -/

namespace PipelineTrial

/-- A model that replies from a queue, with a record of every request. -/
structure RehearsedModel where
  replies : List (Except ModelError ModelReply)
  /-- The recorded requests, the latest first. -/
  latest : List ModelRequest

namespace RehearsedModel

/-- The model with a queue of replies. -/
def ofReplies (replies : List (Except ModelError ModelReply)) : RehearsedModel := ⟨replies, []⟩

/-- The recorded requests, in order. -/
def requests (model : RehearsedModel) : List ModelRequest := model.latest.reverse

/-- The reply to a request; an empty queue is a failure. -/
def complete (model : RehearsedModel) (request : ModelRequest) :
    Except ModelError ModelReply × RehearsedModel :=
  -- The request is recorded in either case.
  match model.replies with
  | [] => (.error (.request "no scripted reply left"), ⟨[], request :: model.latest⟩)
  | reply :: rest => (reply, ⟨rest, request :: model.latest⟩)

/-- The replies to requests in turn, and the model after them. -/
def completeEach (model : RehearsedModel) :
    List ModelRequest → List (Except ModelError ModelReply) × RehearsedModel
  | [] => ([], model)
  | request :: rest =>
    -- Each reply leaves the queue.
    let (reply, next) := model.complete request
    let (replies, last) := completeEach next rest
    (reply :: replies, last)

end RehearsedModel

/-- The collaborators of a rehearsal. -/
structure Rehearsal where
  toolkit : RehearsedToolkit
  model : RehearsedModel

namespace Rehearsal

/-- The tools of a rehearsal. -/
def tools : Toolkit Rehearsal where
  invoke call now world :=
    -- The model is left alone.
    let (response, toolkit) := world.toolkit.invoke call now
    (response, { world with toolkit := toolkit })

/-- The models of a rehearsal, which reply at once. -/
def models : ModelClient Rehearsal where
  complete request _ world :=
    -- The tools are left alone.
    let (reply, model) := world.model.complete request
    (.answer Duration.zero reply, { world with model := model })

/-- Does the work of all nodes with rehearsed collaborators. -/
def executor (limits : Script.Limits) (session : String) : Executor Rehearsal :=
  -- Scripts run for real.
  .ofCollaborators tools models limits session

/-- The answers of an executor that does the work of a node again and again, up to one that never comes. -/
def ask (executor : Executor Rehearsal) (node : Node) (inputs : Inputs) :
    Nat → Duration → Rehearsal → List (Except NodeError Json) × Rehearsal
  | 0, _, world => ([], world)
  | times + 1, now, world =>
    match executor.respond node inputs now world with
    | (.answer delay answer, world) =>
      let (answers, world) := ask executor node inputs times (now + delay) world
      (answer :: answers, world)
    | (_, world) => ([], world)

end Rehearsal

end PipelineTrial
