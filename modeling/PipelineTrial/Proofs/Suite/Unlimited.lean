import PipelineTrial.Proofs.Run.Backend
import PipelineTrial.Proofs.Suite.Alone

/-! A case that runs alone and without a limit is reported as its backend reports it. -/

namespace PipelineTrial

variable {σ ρ : Type}

/-- A run ends with a report, and leaves the collaborators in some state. -/
def Backend.Concludes (backend : Backend σ ρ) (progress : Progress ρ) (now : Duration) (world : σ)
    (result : PipelineResult) (after : σ) : Prop :=
  -- Any bound on its waits will do.
  ∃ bound finished, backend.conclude bound progress now world = some (.reported result, finished, after)

/-- What a stage promises about the report of a case that nothing disturbs any more. -/
def SchedulePlan.Promises (plan : SchedulePlan σ ρ) (case : TestCase) (now : Duration) (world : σ)
    (result : PipelineResult) (after : σ) : CaseStage ρ → Prop
  | .active _ (some (due, run)) =>
    plan.backend.Concludes (plan.backend.resume run due world).1 due
      (plan.backend.resume run due world).2 result after
  | .active _ none => False
  | .returned told => told = result ∧ world = after
  | .leaving told => told = result ∧ world = after
  | .reported told => told = result ∧ world = after
  | .dead => False
  | _ =>
    plan.backend.Concludes (plan.startCase case now world).1 now (plan.startCase case now world).2
      result after

variable {plan : SchedulePlan σ ρ} {case : TestCase} {result : PipelineResult} {final : σ}

/-- What a case promises after its run has moved on, the run concludes. -/
theorem SchedulePlan.concludes_of_promises (unlimited : plan.policy.limit = none) {began now : Duration}
    {world : σ} {progress : Progress ρ}
    (promised : plan.Promises case now world result final (plan.policy.settle case began now progress)) :
    plan.backend.Concludes progress now world result final := by
  -- A wait is the only way to go on.
  cases progress with
  | finished told =>
    obtain ⟨rfl, rfl⟩ := promised
    exact ⟨0, now, rfl⟩
  | crashed => exact promised.elim
  | stalled => simp [SchedulePolicy.settle, SchedulePolicy.pause, unlimited, Promises] at promised
  | waiting delay run =>
    rw [SchedulePolicy.settle_waiting (by simp [unlimited])] at promised
    obtain ⟨bound, finished, concluded⟩ := promised
    exact ⟨bound + 1, finished, concluded⟩

variable {schedule after ended : Schedule σ ρ} {stage : CaseStage ρ} {act : Act} {moves : List Move}

/-- What a case promises after a move it promised before, unless it was skipped. -/
theorem Moved.promises (unlimited : plan.policy.limit = none)
    (single : schedule.slots = [⟨case, stage⟩]) (moved : Moved plan schedule 0 case stage act after)
    (unhalted : stage.isPast = false → schedule.halted = false) :
    ∃ next, after.slots = [⟨case, next⟩] ∧ (next.isPast = false → after.halted = false) ∧
      (plan.Promises case after.now after.world result final next →
        plan.Promises case schedule.now schedule.world result final stage) := by
  -- Only a start and the end of a wait involve the collaborators.
  have put (next : CaseStage ρ) : schedule.slots.set 0 ⟨case, next⟩ = [⟨case, next⟩] := by
    simp [single]
  cases moved with
  | enter _ => exact ⟨_, put _, fun _ => unhalted rfl, id⟩
  | skip halted => simp [unhalted rfl] at halted
  | clear _ => exact ⟨_, put _, fun _ => unhalted rfl, id⟩
  | start started =>
    refine ⟨_, put _, by simp, fun promised => ?_⟩
    have concludes := SchedulePlan.concludes_of_promises unlimited promised
    simp only [SchedulePlan.Promises, started]
    exact concludes
  | wake _ resumed =>
    refine ⟨_, put _, by simp, fun promised => ?_⟩
    have concludes := SchedulePlan.concludes_of_promises unlimited promised
    simp only [SchedulePlan.Promises, resumed]
    exact concludes
  | expire limited _ => simp [unlimited] at limited
  | announce => exact ⟨_, put _, by simp [CaseStage.isPast], id⟩
  | leave => exact ⟨_, put _, by simp [CaseStage.isPast], id⟩

/-- A report to which moves of a case alone have led was promised by its first stage. -/
theorem Schedule.promises_of_follow (unlimited : plan.policy.limit = none)
    (followed : schedule.follow plan moves = some ended) (single : schedule.slots = [⟨case, stage⟩])
    (unhalted : stage.isPast = false → schedule.halted = false)
    (reported : ended.slots = [⟨case, .reported result⟩]) :
    plan.Promises case schedule.now schedule.world result ended.world stage := by
  -- Promises are followed back from the report.
  induction moves generalizing schedule stage with
  | nil =>
    cases followed
    rw [single] at reported
    cases reported
    exact ⟨rfl, rfl⟩
  | cons move others ih =>
    obtain ⟨permitted, following⟩ := follow_cons followed
    obtain ⟨own, current, found, moved⟩ := moved_of_permits permitted
    obtain ⟨place, act⟩ := move
    obtain rfl : place = 0 := by
      have inside := (List.getElem?_eq_some_iff.1 found).1
      simp only [single, List.length_singleton] at inside
      omega
    rw [single] at found
    cases found
    obtain ⟨next, singleNext, unhaltedNext, promises⟩ := moved.promises unlimited single unhalted
    exact promises (ih following singleNext unhaltedNext)

end PipelineTrial
