import PipelineTrial.Proofs.Run.Honesty
import PipelineTrial.Proofs.Suite.Halting

/-! On an honest backend a case is reported as skipped only when it was passed over. -/

namespace PipelineTrial

variable {σ ρ : Type} {Since : Duration → ρ → Prop}

/-- The result of a case, as soon as there is one. -/
def CaseStage.result? : CaseStage ρ → Option PipelineResult
  | .returned result => some result
  | .leaving result => some result
  | .reported result => some result
  | _ => none

/-- A case that is told to have run out of time was not skipped. -/
theorem TestCase.outcome_timeoutResult_ne (case : TestCase) (limit elapsed : Duration) :
    (case.timeoutResult limit elapsed).outcome ≠ .skipped :=
  -- It counts as an error.
  PipelineResult.outcome_errored_ne _ _ _ _ _

/-- A case starts honestly, also when its pipeline does not load. -/
theorem SchedulePlan.honest_of_startCase {plan : SchedulePlan σ ρ} (honest : plan.backend.Honest Since)
    {case : TestCase} {now : Duration} {world next : σ} {progress : Progress ρ}
    (started : plan.startCase case now world = (progress, next)) : progress.Honest Since now now := by
  -- A pipeline that does not load takes no time and is an error.
  unfold startCase at started
  split at started
  · cases started
    exact ⟨PipelineResult.outcome_errored_ne _ _ _ _ _, Nat.zero_le _⟩
  · next definition _ =>
    have moved := honest.start definition now world
    rwa [started] at moved

/-- A run goes on honestly when it began with its case. -/
theorem Backend.Honest.of_resume {backend : Backend σ ρ} (honest : backend.Honest Since)
    {began now : Duration} {run : ρ} {world next : σ} {progress : Progress ρ} (since : Since began run)
    (resumed : backend.resume run now world = (progress, next)) : progress.Honest Since began now := by
  have moved := honest.resume began run now world since
  rwa [resumed] at moved

namespace SchedulePolicy

variable {policy : SchedulePolicy} {case : TestCase} {began now : Duration} {progress : Progress ρ}

/-- A case whose run moved on honestly waits with a run that began when it did. -/
theorem since_of_settle (honest : progress.Honest Since began now) {since due : Duration} {run : ρ}
    (active : policy.settle case began now progress = .active since (some (due, run))) : Since since run := by
  -- It is the run that has moved on.
  rw [began_of_settle active]
  cases progress with
  | finished result => cases active
  | crashed => cases active
  | stalled =>
    simp only [settle, pause] at active
    split at active
    · cases active
    · split at active <;> cases active
  | waiting delay later =>
    simp only [settle, pause] at active
    split at active
    · cases active
      exact honest
    · split at active
      · cases active
        exact honest
      · split at active
        · cases active
        · cases active
          exact honest

/-- A case whose run moved on honestly was not skipped if it returns, and tells no more than the time since it began. -/
theorem returned_of_settle (honest : progress.Honest Since began now) {result : PipelineResult}
    (returned : policy.settle case began now progress = .returned result) :
    result.outcome ≠ .skipped ∧ result.duration ≤ now - began := by
  -- Its run has finished, or it has run out of time just now.
  have paused (wait : Option (Duration × ρ)) (returned : policy.pause case began now wait = .returned result) :
      result.outcome ≠ .skipped ∧ result.duration ≤ now - began := by
    unfold pause at returned
    split at returned
    · cases returned
    · split at returned
      · cases returned
        exact ⟨case.outcome_timeoutResult_ne _ _, Nat.le_refl _⟩
      · cases returned
  cases progress with
  | finished own =>
    cases returned
    exact honest
  | crashed => cases returned
  | stalled => exact paused none returned
  | waiting delay run =>
    simp only [settle] at returned
    split at returned
    · cases returned
    · exact paused _ returned

end SchedulePolicy

namespace Schedule

variable {plan : SchedulePlan σ ρ} {schedule ended : Schedule σ ρ} {move : Move} {moves : List Move}
  {cases : List TestCase} {now : Duration} {world : σ}

/-- Every run that waits began when its case did. -/
def RunsSince (Since : Duration → ρ → Prop) (schedule : Schedule σ ρ) : Prop :=
  -- Cases that do not wait have no run.
  ∀ slot ∈ schedule.slots, ∀ began due run, slot.stage = .active began (some (due, run)) → Since began run

/-- On an honest backend every run that waits began when its case did, after moves in any order. -/
theorem runsSince_of_follow (honest : plan.backend.Honest Since)
    (followed : (ofCases plan.policy cases now world).follow plan moves = some ended) :
    ended.RunsSince Since := by
  -- A run waits after its start, or when it has gone on.
  refine follow_induction (fun _ middle => middle.RunsSince Since) ?_ ?_ followed
  · intro slot member began due run active
    obtain ⟨place, found⟩ := List.getElem?_of_mem member
    rw [queued_of_ofCases found] at active
    cases active
  · rintro past middle ⟨own, act⟩ _ since permitted ⟨case, stage⟩ member began due run active
    obtain ⟨place, found⟩ := List.getElem?_of_mem member
    obtain ⟨_, standing⟩ | ⟨_, before, standing, leads⟩ := slot_of_apply permitted found
    · exact since _ (List.mem_of_getElem? standing) began due run active
    · clear found member
      cases leads with
      | start started => exact SchedulePolicy.since_of_settle (plan.honest_of_startCase honest started) active
      | wake _ resumed =>
        have earlier := since _ (List.mem_of_getElem? standing) _ _ _ rfl
        exact SchedulePolicy.since_of_settle (honest.of_resume earlier resumed) active
      | _ => cases active

/-- On an honest backend a case that was started has no result that tells it was skipped. -/
theorem outcome_ne_of_start (honest : plan.backend.Honest Since)
    (followed : (ofCases plan.policy cases now world).follow plan moves = some ended) {place : Nat}
    (started : ⟨place, .start⟩ ∈ moves) {case : TestCase} {stage : CaseStage ρ}
    (found : ended.slots[place]? = some ⟨case, stage⟩) {result : PipelineResult}
    (told : stage.result? = some result) : result.outcome ≠ .skipped := by
  -- The result comes from its run or from the end of its time, and remains the same.
  refine follow_induction (fun moves middle => ⟨place, .start⟩ ∈ moves → ∀ case stage,
    middle.slots[place]? = some ⟨case, stage⟩ → ∀ result, stage.result? = some result →
    result.outcome ≠ .skipped) (by simp) ?_ followed started case stage found result told
  intro past middle move reached kept permitted started case stage found result told
  have earlier (other : move.place ≠ place ∨ move.act ≠ .start) : ⟨place, .start⟩ ∈ past := by
    refine (List.mem_append.1 started).resolve_right fun last => ?_
    rw [← List.mem_singleton.1 last] at other
    exact other.elim (· rfl) (· rfl)
  obtain ⟨elsewhere, standing⟩ | ⟨_, before, standing, leads⟩ := slot_of_apply permitted found
  · exact kept (earlier (.inl elsewhere)) case stage standing result told
  · have settled {began due : Duration} {progress : Progress ρ} (moved : progress.Honest Since began due)
        (told : (plan.policy.settle case began due progress).result? = some result) :
        result.outcome ≠ .skipped := by
      obtain ⟨wait, same⟩ | ⟨own, same⟩ | same := plan.policy.settle_cases case began due progress
      · simp [same, CaseStage.result?] at told
      · obtain rfl : own = result := by simpa [same, CaseStage.result?] using told
        exact (SchedulePolicy.returned_of_settle moved same).1
      · simp [same, CaseStage.result?] at told
    obtain ⟨own, act⟩ := move
    cases leads with
    | enter => cases told
    | clear _ => cases told
    | skip _ =>
      have past := isPast_of_start reached (earlier (.inr Act.noConfusion)) standing
      cases past
    | start begun => exact settled (plan.honest_of_startCase honest begun) told
    | wake _ resumed =>
      have since := runsSince_of_follow honest reached _ (List.mem_of_getElem? standing) _ _ _ rfl
      exact settled (honest.of_resume since resumed) told
    | expire _ =>
      cases told
      exact case.outcome_timeoutResult_ne _ _
    | announce => exact kept (earlier (.inr Act.noConfusion)) case _ standing result told
    | leave => exact kept (earlier (.inr Act.noConfusion)) case _ standing result told

end Schedule

end PipelineTrial
