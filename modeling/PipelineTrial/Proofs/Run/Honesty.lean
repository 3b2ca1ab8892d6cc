import PipelineTrial.Remote.Polling
import PipelineTrial.Run.Engine

/-! What backends tell of runs that they finish: none was skipped, and none took longer than the time since it began. -/

namespace PipelineTrial

variable {σ ρ : Type}

namespace PipelineResult

/-- A run that an error stopped was not skipped. -/
theorem outcome_errored_ne (name : String) (error : PipelineError) (state : State)
    (trace : List TraceEntry) (duration : Duration) :
    (errored name error state trace duration).outcome ≠ .skipped := by
  -- Unresolved inputs are failures, and all else is an error.
  cases error <;> simp [errored, PipelineError.outcome]

/-- A run that reached its end was not skipped. -/
theorem outcome_completed_ne (name : String) (state : State) (trace : List TraceEntry)
    (duration : Duration) (verdictKey : String) :
    (completed name state trace duration verdictKey).outcome ≠ .skipped := by
  -- It passed or failed.
  simp only [completed, verdict]
  split <;> simp

end PipelineResult

/-- What a run that began at some time may tell once it has moved on, and what remains true of it while it waits. -/
def Progress.Honest (Since : Duration → ρ → Prop) (began now : Duration) : Progress ρ → Prop
  | .finished result => result.outcome ≠ .skipped ∧ result.duration ≤ now - began
  | .waiting _ run => Since began run
  | .crashed => True
  | .stalled => True

/-- A backend tells of no run that it was skipped or took longer than the time since it began. -/
structure Backend.Honest (backend : Backend σ ρ) (Since : Duration → ρ → Prop) : Prop where
  start : ∀ definition now world, (backend.start definition now world).1.Honest Since now now
  resume : ∀ began run now world, Since began run → (backend.resume run now world).1.Honest Since began now

namespace Engine

/-- A walk that is moved on to its next call tells the time since it started. -/
theorem ask_honest (executor : Executor σ) (settings : EngineSettings) (definition : Definition)
    (graph : Graph) (started now : Duration) (left : Nat) (walk : Walk) (world : σ) :
    (ask executor settings definition graph started now left walk world).1.Honest
      (fun began pending => pending.started = began) started now := by
  -- It ends with an error, or waits for an answer.
  cases left with
  | zero => exact ⟨PipelineResult.outcome_errored_ne _ _ _ _ _, Nat.le_refl _⟩
  | succ left =>
    simp only [ask]
    cases walk.prepare graph with
    | error error => exact ⟨PipelineResult.outcome_errored_ne _ _ _ _ _, Nat.le_refl _⟩
    | ok pair =>
      simp only []
      split
      · trivial
      · rfl
      · rfl

/-- The local engine is honest: its runs know when they started. -/
theorem backend_honest (executor : Executor σ) (settings : EngineSettings) :
    (backend executor settings).Honest fun began pending => pending.started = began := by
  -- Every report tells the time from then to now.
  refine ⟨fun definition now world => ?_, fun began pending now world since => ?_⟩
  · simp only [backend]
    cases Graph.build definition with
    | error error => exact ⟨PipelineResult.outcome_errored_ne _ _ _ _ _, Nat.zero_le _⟩
    | ok graph => exact ask_honest executor settings definition graph now now _ _ world
  · subst since
    simp only [backend]
    cases pending.answer with
    | none => trivial
    | some answer =>
      simp only []
      split
      · exact ⟨PipelineResult.outcome_errored_ne _ _ _ _ _, Nat.le_refl _⟩
      · exact ⟨PipelineResult.outcome_completed_ne _ _ _ _ _, Nat.le_refl _⟩
      · exact ask_honest executor settings _ _ _ now _ _ world

end Engine

namespace Polling

/-- A remote platform as a backend is honest: its runs know when they started. -/
theorem backend_honest (platform : Platform σ) (patience : Patience) (verdictKey session : String) :
    (backend platform patience verdictKey session).Honest fun began run => run.started = began := by
  -- Every report tells the time from then to now.
  have questioned (run : RemoteRun) (execution : String) (now : Duration) (world : σ) :
      (question platform session run execution now world).1.Honest
        (fun began run => run.started = began) run.started now := by
    unfold question
    split
    · trivial
    · rfl
    · rfl
  have given_up (run : RemoteRun) (error : PipelineError) (now : Duration) :
      (giveUp run error now).Honest (fun began run => run.started = began) run.started now :=
    ⟨PipelineResult.outcome_errored_ne _ _ _ _ _, Nat.le_refl _⟩
  have judged (run : RemoteRun) (execution : String) (now : Duration)
      (answer : Except RemoteError RemoteStatus) :
      (judge patience verdictKey run execution now answer).Honest
        (fun began run => run.started = began) run.started now := by
    unfold judge
    split
    · exact ⟨PipelineResult.outcome_completed_ne _ _ _ _ _, Nat.le_refl _⟩
    · exact given_up _ _ _
    · exact given_up _ _ _
    · split
      · exact given_up _ _ _
      · rfl
  refine ⟨fun definition now world => ?_, fun began run now world since => ?_⟩
  · simp only [backend]
    split
    · trivial
    · rfl
    · rfl
  · subst since
    simp only [backend]
    split
    · trivial
    · exact given_up _ _ _
    · exact questioned _ _ _ _
    · trivial
    · exact judged _ _ _ _
    · exact questioned _ _ _ _

end Polling

end PipelineTrial
