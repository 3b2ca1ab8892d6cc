import PipelineTrial.Proofs.Suite.Honesty
import PipelineTrial.Proofs.Suite.Reports
import PipelineTrial.Remote.Recording

/-! How many cases run at once, which of them wait, and which are passed over, in whatever order the cases move. -/

namespace PipelineTrial

variable {σ ρ : Type}

/-- How the slots of a schedule are kept: each is free or held by one case, and no case waits for one that is free. -/
structure SlotsKept (plan : SchedulePlan σ ρ) (schedule : Schedule σ ρ) : Prop where
  balance : schedule.holding + schedule.free = plan.policy.slots
  running : CaseSlot.count CaseStage.isRunning schedule.slots ≤ plan.policy.slots
  /-- A case that holds a slot gives it back in the move by which it is done with, whatever that is. -/
  givenBack : ∀ move, schedule.permits plan.policy move = true → ∀ case stage next,
    schedule.slots[move.place]? = some ⟨case, stage⟩ → stage.isHolding = true →
    (schedule.apply plan move).slots[move.place]? = some ⟨case, next⟩ → next.isOver = true →
    (schedule.apply plan move).free = schedule.free + 1
  allFree : schedule.isOver = true → schedule.free = plan.policy.slots
  /-- A case in line cannot enter only while all slots are held. -/
  waits : ∀ place case, schedule.slots[place]? = some ⟨case, .queued⟩ →
    schedule.permits plan.policy ⟨place, .enter⟩ = false → schedule.holding = plan.policy.slots
  /-- Time passes for a case in line only while all slots are held. -/
  passes : ∀ move, schedule.permits plan.policy move = true → (schedule.apply plan move).now ≠ schedule.now →
    (∃ slot ∈ schedule.slots, slot.stage.isQueued = true) → schedule.holding = plan.policy.slots

/-- What a failure does to the cases of a schedule, and what nothing else does, after moves from its start. -/
structure FailureStops (plan : SchedulePlan σ ρ) (start : Schedule σ ρ) (moves : List Move)
    (schedule : Schedule σ ρ) : Prop where
  /-- Every case gets its start when failures are not to stop the suite. -/
  unstopped : plan.policy.stopsOnFailure = false → ∀ (place : Nat) case stage,
    schedule.slots[place]? = some ⟨case, stage⟩ → stage.isPast = true → ⟨place, .start⟩ ∈ moves
  passedOver : ∀ (place : Nat) case stage, schedule.slots[place]? = some ⟨case, stage⟩ →
    stage.isPast = true → ⟨place, .start⟩ ∉ moves → Schedule.PassedOver plan start moves place case stage
  /-- Once a case tells a failure, only others that were running then go on, fewer than there are slots. -/
  further : plan.policy.stopsOnFailure = true → ∀ before place after told case result,
    moves = before ++ ⟨place, .announce⟩ :: after → start.follow plan before = some told →
    told.slots[place]? = some ⟨case, .returned result⟩ → result.isFailure = true →
    ∃ others : List Nat, others.length < plan.policy.slots ∧
      (∀ other ∈ others, other ≠ place ∧
        ∃ case stage, told.slots[other]? = some ⟨case, stage⟩ ∧ stage.isRunning = true) ∧
      ∀ move ∈ after, move.act.isOfRun = true → move.place ∈ others

section Moves

variable {plan : SchedulePlan σ ρ} {cases : List TestCase} {now : Duration} {world : σ}
  {moves : List Move} {ended : Schedule σ ρ}

/-- The slots of a schedule are kept by moves in any order. -/
theorem slotsKept_of_follow
    (followed : (Schedule.ofCases plan.policy cases now world).follow plan moves = some ended) :
    SlotsKept plan ended := by
  -- The slots that are held and those that are free are all there are.
  have balance := Schedule.holding_add_free followed
  refine ⟨balance, ?_, ?_, ?_, ?_, ?_⟩
  · have held := Schedule.count_isRunning_le ended
    omega
  · intro move permitted case stage next found held foundNext finished
    exact Schedule.free_apply_of_isOver permitted found foundNext held (by simp [CaseStage.isHolding, finished])
  · intro allOver
    have none_held : ended.holding = 0 := by
      refine List.countP_eq_zero.2 fun slot member => ?_
      simp [CaseStage.isHolding, List.all_eq_true.1 allOver slot member]
    omega
  · intro place case inLine barred
    have none_free := Schedule.free_eq_zero_of_not_permits inLine barred
    omega
  · rintro move permitted moved ⟨slot, member, inLine⟩
    obtain still | idle := ((Timely.follow followed).passes permitted).idle
    · exact absurd still moved
    · obtain none_free | none_queued := (Schedule.of_isIdle idle).2
      · omega
      · simp [none_queued slot member] at inLine

/-- Failures stop a schedule in whatever order its cases move. -/
theorem failureStops_of_follow
    (followed : (Schedule.ofCases plan.policy cases now world).follow plan moves = some ended) :
    FailureStops plan (Schedule.ofCases plan.policy cases now world) moves ended := by
  -- A case that did not start was passed over, which only happens when failures stop the suite.
  have passedOver (place : Nat) case stage (found : ended.slots[place]? = some ⟨case, stage⟩)
      (past : stage.isPast = true) (never : ⟨place, .start⟩ ∉ moves) :=
    Schedule.passedOver_of_not_start followed found past never
  refine ⟨fun unstopped place case stage found past => ?_, passedOver, ?_⟩
  · refine Decidable.not_not.1 fun never => ?_
    have stops := (passedOver place case stage found past never).stops
    rw [unstopped] at stops
    cases stops
  · rintro stops before place after told case result rfl reached found failed
    exact Schedule.others_of_failure stops followed reached found failed

/-- On an honest backend a case that is reported as skipped was passed over. -/
theorem passedOver_of_skipped {Since : Duration → ρ → Prop} (honest : plan.backend.Honest Since)
    (followed : (Schedule.ofCases plan.policy cases now world).follow plan moves = some ended)
    {place : Nat} {case : TestCase} {result : PipelineResult}
    (reported : ended.slots[place]? = some ⟨case, .reported result⟩) (skipped : result.outcome = .skipped) :
    Schedule.PassedOver plan (Schedule.ofCases plan.policy cases now world) moves place case
      (.reported result) :=
  -- Had it started, its result would tell otherwise.
  Schedule.passedOver_of_not_start followed reported rfl fun started =>
    Schedule.outcome_ne_of_start honest followed started reported rfl skipped

end Moves

namespace Suite

/--
In whatever order the cases of a suite move, its slots are kept, and its cases are passed over only for a failure.

The local engine and a remote platform report a case as skipped only when it was passed over.
-/
theorem slots_kept (config : SuiteConfig) (cases : List TestCase) (session : Session) (now : Duration)
    (moves : List Move) :
    (∀ (σ ρ : Type) (backend : Backend σ ρ) (world : σ) (ended : Schedule σ ρ),
      let plan : SchedulePlan σ ρ := ⟨backend, session.environment, config.policy⟩
      let start := Schedule.ofCases config.policy cases now world
      start.follow plan moves = some ended →
        plan.policy.slots = config.effectiveConcurrency ∧ SlotsKept plan ended ∧
          FailureStops plan start moves ended) ∧
    (∀ (σ : Type) (executor : Executor σ) (settings : EngineSettings) (world : σ)
        (ended : Schedule σ Engine.Pending),
      let plan := ⟨Engine.backend executor settings, session.environment, config.policy⟩
      let start := Schedule.ofCases config.policy cases now world
      start.follow plan moves = some ended → ∀ place case result,
        ended.slots[place]? = some ⟨case, .reported result⟩ → result.outcome = .skipped →
          Schedule.PassedOver plan start moves place case (.reported result)) ∧
    (∀ (σ : Type) (platform : Platform σ) (patience : Patience) (verdictKey : String) (world : σ)
        (ended : Schedule σ RemoteRun),
      let plan := ⟨Polling.backend platform patience verdictKey session.id, session.environment, config.policy⟩
      let start := Schedule.ofCases config.policy cases now world
      start.follow plan moves = some ended → ∀ place case result,
        ended.slots[place]? = some ⟨case, .reported result⟩ → result.outcome = .skipped →
          Schedule.PassedOver plan start moves place case (.reported result)) := by
  -- Both backends are honest.
  refine ⟨?_, ?_, ?_⟩
  · intro σ ρ backend world ended plan start followed
    exact ⟨rfl, slotsKept_of_follow followed, failureStops_of_follow followed⟩
  · intro σ executor settings world ended plan start followed place case result reported skipped
    exact passedOver_of_skipped (Engine.backend_honest executor settings) followed reported skipped
  · intro σ platform patience verdictKey world ended plan start followed place case result reported skipped
    exact passedOver_of_skipped (Polling.backend_honest platform patience verdictKey session.id) followed
      reported skipped

/-- One case at a time, none after a failure. -/
def lineConfig : SuiteConfig := ⟨1, none, true, .default, none⟩

/-- An order in which the first of three cases fails after some moves of its run, and the others are passed over. -/
def lineMoves (run : List Act) : List Move :=
  -- The cases take the slot one after another.
  [⟨0, .enter⟩, ⟨0, .check⟩, ⟨0, .start⟩] ++ run.map (⟨0, ·⟩) ++ [⟨0, .announce⟩, ⟨0, .leave⟩,
    ⟨1, .enter⟩, ⟨1, .check⟩, ⟨1, .leave⟩, ⟨2, .enter⟩, ⟨2, .check⟩, ⟨2, .leave⟩]

/-- What a platform replies that is down. -/
def downReplies : List PlatformReply := [.submission (.answer Duration.zero (.error ⟨"down"⟩))]

/--
Of three cases on two slots the second fails, the third is passed over for it, and the first goes on to die.

On one slot the second is passed over when the engine cannot build the graph of the first, or its platform is down.
-/
theorem slots_kept_trio :
    (∃ ended : Schedule (List (Progress Unit)) Unit,
      (Schedule.ofCases trioConfig.policy trio Duration.zero trioLegs).follow
          ⟨.prepared, Dictionary.empty, trioConfig.policy⟩ trioMoves = some ended ∧
        SlotsKept ⟨.prepared, Dictionary.empty, trioConfig.policy⟩ ended ∧ ended.free = 2 ∧
        FailureStops ⟨.prepared, Dictionary.empty, trioConfig.policy⟩
          (Schedule.ofCases trioConfig.policy trio Duration.zero trioLegs) trioMoves ended) ∧
    (∃ case result, Schedule.PassedOver
      ⟨Engine.backend .prepared .default, Dictionary.empty, lineConfig.policy⟩
      (Schedule.ofCases lineConfig.policy trio Duration.zero []) (lineMoves []) 1 case (.reported result)) ∧
    (∃ case result, Schedule.PassedOver
      ⟨Polling.backend .prepared .default "ok" "session", Dictionary.empty, lineConfig.policy⟩
      (Schedule.ofCases lineConfig.policy trio Duration.zero downReplies) (lineMoves [.wake]) 1 case
      (.reported result)) := by
  -- The orders are possible, and all slots are free at the end of the first.
  have kept := (slots_kept trioConfig trio ⟨"session", Dictionary.empty⟩ Duration.zero trioMoves).1 _ _
    .prepared trioLegs _ rfl
  have localSkip := (slots_kept lineConfig trio ⟨"session", Dictionary.empty⟩ Duration.zero
    (lineMoves [])).2.1 _ .prepared .default [] _ rfl 1 _ (.skipped "second") rfl rfl
  have remoteSkip := (slots_kept lineConfig trio ⟨"session", Dictionary.empty⟩ Duration.zero
    (lineMoves [.wake])).2.2 _ .prepared .default "ok" downReplies _ rfl 1 _ (.skipped "second") rfl rfl
  exact ⟨⟨_, rfl, kept.2.1, kept.2.1.allFree rfl, kept.2.2⟩, ⟨_, _, localSkip⟩, ⟨_, _, remoteSkip⟩⟩

end Suite

end PipelineTrial
