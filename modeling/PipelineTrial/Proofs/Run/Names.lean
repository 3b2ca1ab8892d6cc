import PipelineTrial.Remote.Polling
import PipelineTrial.Run.Engine

/-! Both backends report a run under the name of the pipeline that it was started with. -/

namespace PipelineTrial

variable {σ ρ : Type}

/-- What a run of a pipeline with a name tells once it has moved on, or remembers while it waits. -/
def Progress.Named (nameOf : ρ → String) (name : String) : Progress ρ → Prop
  | .finished result => result.name = name
  | .waiting _ run => nameOf run = name
  | .crashed => True
  | .stalled => True

/-- A backend reports each run under the name of its pipeline, which a run that waits remembers. -/
structure Backend.KeepsNames (backend : Backend σ ρ) (nameOf : ρ → String) : Prop where
  start : ∀ definition now world, (backend.start definition now world).1.Named nameOf definition.name
  resume : ∀ run now world, (backend.resume run now world).1.Named nameOf (nameOf run)

namespace Engine

/-- A walk that is moved on to its next call keeps the name of its pipeline. -/
theorem ask_named (executor : Executor σ) (settings : EngineSettings) (definition : Definition)
    (graph : Graph) (started now : Duration) (left : Nat) (walk : Walk) (world : σ) :
    (ask executor settings definition graph started now left walk world).1.Named
      (·.definition.name) definition.name := by
  -- It ends with an error, or waits for an answer.
  cases left with
  | zero => rfl
  | succ left =>
    simp only [ask]
    cases walk.prepare graph with
    | error error => rfl
    | ok pair =>
      simp only []
      split
      · trivial
      · rfl
      · rfl

/-- The local engine keeps names: its runs hold their pipelines. -/
theorem backend_keepsNames (executor : Executor σ) (settings : EngineSettings) :
    (backend executor settings).KeepsNames (·.definition.name) := by
  -- Every report is made of the pipeline, whether or not its graph can be built.
  refine ⟨fun definition now world => ?_, fun pending now world => ?_⟩
  · simp only [backend]
    cases Graph.build definition with
    | error error => rfl
    | ok graph => exact ask_named executor settings definition graph now now _ _ world
  · simp only [backend]
    cases pending.answer with
    | none => trivial
    | some answer =>
      simp only []
      split
      · rfl
      · rfl
      · exact ask_named executor settings _ _ _ now _ _ world

end Engine

namespace Polling

/-- A remote platform as a backend keeps names: its runs hold those of their pipelines. -/
theorem backend_keepsNames (platform : Platform σ) (patience : Patience) (verdictKey session : String) :
    (backend platform patience verdictKey session).KeepsNames (·.name) := by
  -- A question changes what a run waits for, and a judgement only that or its report.
  have questioned (run : RemoteRun) (execution : String) (now : Duration) (world : σ) :
      (question platform session run execution now world).1.Named (·.name) run.name := by
    unfold question
    split
    · trivial
    · rfl
    · rfl
  have judged (run : RemoteRun) (execution : String) (now : Duration)
      (answer : Except RemoteError RemoteStatus) :
      (judge patience verdictKey run execution now answer).Named (·.name) run.name := by
    unfold judge
    split
    · rfl
    · rfl
    · rfl
    · split
      · rfl
      · rfl
  refine ⟨fun definition now world => ?_, fun run now world => ?_⟩
  · simp only [backend]
    split
    · trivial
    · rfl
    · rfl
  · simp only [backend]
    split
    · trivial
    · rfl
    · exact questioned _ _ _ _
    · trivial
    · exact judged _ _ _ _
    · exact questioned _ _ _ _

end Polling

end PipelineTrial
