import PipelineTrial.Proofs.Suite.Interleaving

/-! The stages of a case lead in one direction: a case starts at most once, and not after it was passed over. -/

namespace PipelineTrial

variable {σ ρ : Type}

/-- Whether a case was started, or passed over. -/
def CaseStage.isPast : CaseStage ρ → Bool
  | .queued => false
  | .admitted => false
  | .cleared => false
  | _ => true

/-- A case that has moved on was started. -/
@[simp] theorem SchedulePolicy.isPast_settle (policy : SchedulePolicy) (case : TestCase)
    (began now : Duration) (progress : Progress ρ) :
    (policy.settle case began now progress).isPast = true := by
  -- It waits, has returned or died.
  obtain ⟨wait, same⟩ | ⟨own, same⟩ | same := policy.settle_cases case began now progress <;>
    simp [same, CaseStage.isPast]

/-- A case that has moved on is not in line. -/
@[simp] theorem SchedulePolicy.isQueued_settle (policy : SchedulePolicy) (case : TestCase)
    (began now : Duration) (progress : Progress ρ) :
    (policy.settle case began now progress).isQueued = false := by
  -- It waits, has returned or died.
  obtain ⟨wait, same⟩ | ⟨own, same⟩ | same := policy.settle_cases case began now progress <;>
    simp [same, CaseStage.isQueued]

section Moves

variable {plan : SchedulePlan σ ρ} {schedule after ended : Schedule σ ρ} {place : Nat}
  {case : TestCase} {stage : CaseStage ρ} {act : Act} {moves : List Move}

/-- A move is made at a stage that enables it. -/
theorem Moved.enabled (moved : Moved plan schedule place case stage act after) :
    Enabled plan.policy stage act := by
  -- Each kind of move has its stage.
  cases moved with
  | enter _ => exact .enter
  | skip _ => exact .check
  | clear _ => exact .check
  | start _ => exact .start
  | wake inTime _ => exact .wake inTime
  | expire limited tooLate => exact .expire limited tooLate
  | announce => exact .announce
  | leave => exact .leave

/-- A case starts from a stage that is not past its start. -/
theorem Moved.not_start (moved : Moved plan schedule place case stage act after)
    (past : stage.isPast = true) : act ≠ .start := by
  -- It has been cleared before.
  rintro rfl
  cases moved
  cases past

/-- A case that starts is past its start, and stays so. -/
theorem Moved.isPast (found : schedule.slots[place]? = some ⟨case, stage⟩)
    (moved : Moved plan schedule place case stage act after)
    (past : act = .start ∨ stage.isPast = true) :
    ∃ next, after.slots[place]? = some ⟨case, next⟩ ∧ next.isPast = true := by
  -- The moves of a case lead in one direction.
  have inside := (List.getElem?_eq_some_iff.1 found).1
  have put (next : CaseStage ρ) : (schedule.slots.set place ⟨case, next⟩)[place]? = some ⟨case, next⟩ := by
    simp [inside]
  cases moved with
  | enter _ => rcases past with starts | past <;> contradiction
  | skip _ => exact ⟨_, put _, rfl⟩
  | clear _ => rcases past with starts | past <;> contradiction
  | start _ => exact ⟨_, put _, by simp⟩
  | wake _ _ => exact ⟨_, put _, by simp⟩
  | expire _ _ => exact ⟨_, put _, rfl⟩
  | announce => exact ⟨_, put _, rfl⟩
  | leave => exact ⟨_, put _, rfl⟩

/-- A case that is past its start does not start again. -/
theorem Schedule.not_start_of_isPast (followed : schedule.follow plan moves = some ended)
    (found : schedule.slots[place]? = some ⟨case, stage⟩) (past : stage.isPast = true) :
    ⟨place, .start⟩ ∉ moves := by
  -- Moves of the case itself keep it past its start, and others do not touch it.
  induction moves generalizing schedule stage with
  | nil => simp
  | cons move others ih =>
    obtain ⟨permitted, following⟩ := follow_cons followed
    obtain ⟨own, current, at_place, moved⟩ := moved_of_permits permitted
    rw [List.mem_cons, not_or]
    by_cases same : move.place = place
    · subst same
      rw [found] at at_place
      cases at_place
      obtain ⟨next, foundNext, pastNext⟩ := moved.isPast found (.inr past)
      refine ⟨?_, ih following foundNext pastNext⟩
      intro starts
      exact moved.not_start past (by rw [← starts])
    · refine ⟨?_, ih following ((moved.elsewhere same).trans found) past⟩
      rintro rfl
      exact same rfl

/-- A case that starts later on is not skipped. -/
theorem Moved.unskipped (found : schedule.slots[place]? = some ⟨case, stage⟩)
    (moved : Moved plan schedule place case stage act after)
    (following : after.follow plan moves = some ended) (starts : ⟨place, .start⟩ ∈ moves)
    (checks : act = .check) : after.slots[place]? = some ⟨case, .cleared⟩ := by
  -- After it is skipped a case is past its start.
  have inside := (List.getElem?_eq_some_iff.1 found).1
  subst checks
  cases moved with
  | skip halted =>
    have skipped : (schedule.put place case (.leaving (.skipped case.name))).slots[place]? =
        some ⟨case, .leaving (.skipped case.name)⟩ := by
      simp [Schedule.put, inside]
    exact absurd starts (Schedule.not_start_of_isPast following skipped rfl)
  | clear _ => simp [Schedule.put, inside]

end Moves

end PipelineTrial
