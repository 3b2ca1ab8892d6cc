import PipelineTrial.Run.Engine

/-! Collaborators that keep a record of what they reply, and collaborators that reply what was prepared. -/

namespace PipelineTrial

/-- A call of an executor with the response to it. -/
structure Exchange where
  node : Node
  inputs : Inputs
  asked : Duration
  response : Response (Except NodeError Json)

namespace Executor

variable {σ : Type}

/-- The same executor, which also records every call, the latest last. -/
def recorded (executor : Executor σ) : Executor (σ × List Exchange) where
  respond node inputs now world :=
    -- The record does not influence the response.
    let (response, next) := executor.respond node inputs now world.1
    (response, next, world.2 ++ [⟨node, inputs, now, response⟩])

/-- A recorded call is answered as an unrecorded one and stands at the end of the record. -/
theorem respond_recorded {executor : Executor σ} {node : Node} {inputs : Inputs} {now : Duration}
    {world next : σ} {response : Response (Except NodeError Json)}
    (responded : executor.respond node inputs now world = (response, next))
    (calls : List Exchange) :
    executor.recorded.respond node inputs now (world, calls) =
      (response, next, calls ++ [⟨node, inputs, now, response⟩]) := by
  -- The record is only added to.
  simp [recorded, responded]

/-- Answers each call with the next of prepared responses, whatever is asked; none left means silence. -/
def prepared : Executor (List (Response (Except NodeError Json))) where
  respond _ _ _ responses :=
    -- Each response is used up.
    match responses with
    | [] => (.silence, [])
    | response :: rest => (response, rest)

end Executor

/-- What the collaborators of a backend reply while a run moves on once. -/
structure Listener (σ ρ κ : Type) where
  /-- The replies to a run that starts. -/
  start : Definition → Duration → σ → List κ
  /-- The replies to a run that goes on after a wait. -/
  resume : ρ → Duration → σ → List κ

/-- Hears the responses of an executor to the local engine. -/
def Engine.listener {σ : Type} (executor : Executor σ) (settings : EngineSettings) :
    Listener σ Pending (Response (Except NodeError Json)) where
  start definition now world :=
    -- Each move has a record of its own.
    ((backend executor.recorded settings).start definition now (world, [])).2.2.map (·.response)
  resume run now world :=
    ((backend executor.recorded settings).resume run now (world, [])).2.2.map (·.response)

/-- Where a run stands, apart from how it would go on. -/
def Progress.leg {ρ : Type} : Progress ρ → Progress Unit
  | .finished result => .finished result
  | .waiting delay _ => .waiting delay ()
  | .crashed => .crashed
  | .stalled => .stalled

namespace Backend

/-- Hears from a backend how each of its runs moves on, whatever it consists of. -/
def listener {σ ρ : Type} (backend : Backend σ ρ) : Listener σ ρ (Progress Unit) where
  start definition now world := [(backend.start definition now world).1.leg]
  resume run now world := [(backend.resume run now world).1.leg]

/-- Moves each run on as was prepared, whatever is run; with nothing left it stalls. -/
def prepared : Backend (List (Progress Unit)) Unit where
  start _ _ legs :=
    -- Each leg is used up.
    match legs with
    | [] => (.stalled, [])
    | leg :: rest => (leg, rest)
  resume _ _ legs :=
    match legs with
    | [] => (.stalled, [])
    | leg :: rest => (leg, rest)

end Backend

end PipelineTrial
