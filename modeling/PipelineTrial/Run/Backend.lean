import PipelineTrial.Pipeline.Definition
import PipelineTrial.Run.Result

/-! Backends that run pipelines in virtual time: a run moves on in steps between its waits. -/

namespace PipelineTrial

/-- The answer of a collaborator to a request, in virtual time. -/
inductive Response (α : Type) where
  /-- The answer arrives after a delay. -/
  | answer (delay : Duration) (value : α)
  /-- The task that asked dies after a delay. -/
  | crash (delay : Duration)
  /-- No answer ever arrives. -/
  | silence

/-- Where a run stands after it has moved on as far as it can without time passing. -/
inductive Progress (ρ : Type) where
  | finished (result : PipelineResult)
  /-- The run waits for a span of time. -/
  | waiting (delay : Duration) (run : ρ)
  | crashed
  | stalled

/-- A way to run pipelines over collaborators `σ`, with runs in progress `ρ`. -/
structure Backend (σ ρ : Type) where
  /-- Starts a pipeline at a time. -/
  start : Definition → Duration → σ → Progress ρ × σ
  /-- Moves a waiting run on at the time it waited for. -/
  resume : ρ → Duration → σ → Progress ρ × σ

/-- How a run ends that nothing cuts short. -/
inductive Ending where
  | reported (result : PipelineResult)
  | crashed
  | stalled

namespace Backend

/-- The ending of a run from its progress on, within a bound on the number of waits. -/
def conclude {σ ρ : Type} (backend : Backend σ ρ) :
    Nat → Progress ρ → Duration → σ → Option (Ending × Duration × σ)
  | _, .finished result, now, world => some (.reported result, now, world)
  | _, .crashed, now, world => some (.crashed, now, world)
  | _, .stalled, now, world => some (.stalled, now, world)
  | 0, .waiting _ _, _, _ => none
  | bound + 1, .waiting delay run, now, world =>
    -- Time jumps to the end of the wait.
    let (progress, world) := backend.resume run (now + delay) world
    conclude backend bound progress (now + delay) world

/-- The ending of a pipeline that runs alone, within a bound on the number of waits. -/
def runAlone {σ ρ : Type} (backend : Backend σ ρ) (bound : Nat) (definition : Definition)
    (now : Duration) (world : σ) : Option (Ending × Duration × σ) :=
  -- The start itself takes no time.
  let (progress, world) := backend.start definition now world
  backend.conclude bound progress now world

end Backend

end PipelineTrial
