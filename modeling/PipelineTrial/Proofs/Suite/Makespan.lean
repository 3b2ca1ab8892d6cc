import PipelineTrial.Proofs.Suite.Clock

/-! Under a limit on the time of each case a schedule ends within as many rounds as it takes to let all cases begin. -/

namespace PipelineTrial

variable {σ ρ : Type}

/-- The time after a number of rounds, each of which takes as long as a case may. -/
def Duration.afterRounds (start limit : Duration) (rounds : Nat) : Duration :=
  -- Rounds follow each other without a break.
  ⟨start.nanoseconds + rounds * limit.nanoseconds⟩

/-- Whether a case that still runs has begun by a time; one whose run is over counts in any case. -/
def CaseStage.hasBegunBy (time : Duration) : CaseStage ρ → Bool
  | .queued => false
  | .admitted => false
  | .cleared => false
  | .active began _ => decide (began ≤ time)
  | _ => true

/-- A case that is done with counts as begun. -/
theorem CaseStage.hasBegunBy_of_isOver {stage : CaseStage ρ} (finished : stage.isOver = true) (time : Duration) :
    stage.hasBegunBy time = true := by
  cases stage <;> first | rfl | cases finished

/-- A case in line has not begun. -/
theorem CaseStage.not_hasBegunBy_of_isQueued {stage : CaseStage ρ} (queued : stage.isQueued = true)
    {time : Duration} : stage.hasBegunBy time = false := by
  cases stage <;> first | rfl | cases queued

/-- A case in line is not done with. -/
theorem CaseStage.not_isOver_of_isQueued {stage : CaseStage ρ} (queued : stage.isQueued = true) :
    stage.isOver = false := by
  cases stage <;> first | rfl | cases queued

/-- A case that has moved on has begun by the times by which it had. -/
theorem SchedulePolicy.hasBegunBy_settle {policy : SchedulePolicy} {case : TestCase}
    {began now time : Duration} {progress : Progress ρ} (early : began ≤ time) :
    (policy.settle case began now progress).hasBegunBy time = true := by
  -- It goes on since the same time, or its run is over.
  obtain ⟨wait, same⟩ | ⟨own, same⟩ | same := policy.settle_cases case began now progress
  · rw [same]
    exact decide_eq_true early
  · simp [same, CaseStage.hasBegunBy]
  · simp [same, CaseStage.hasBegunBy]

/-- A move does not undo that the case which makes it has begun. -/
theorem Leads.hasBegunBy {plan : SchedulePlan σ ρ} {schedule : Schedule σ ρ} {case : TestCase}
    {stage next : CaseStage ρ} {act : Act} (leads : Leads plan schedule case stage act next) (time : Duration)
    (begun : stage.hasBegunBy time = true) : next.hasBegunBy time = true := by
  -- A case that goes on began when it did before.
  cases leads with
  | wake _ _ => exact SchedulePolicy.hasBegunBy_settle (of_decide_eq_true begun)
  | expire _ => rfl
  | announce => rfl
  | leave => rfl
  | _ => cases begun

/-- When time really passes, nothing else can happen. -/
theorem Passes.isIdle {policy : SchedulePolicy} {schedule : Schedule σ ρ} {later : Duration}
    (passes : Passes policy schedule later) (onward : schedule.now < later) :
    schedule.isIdle policy = true := by
  -- Otherwise no time passes.
  refine passes.idle.resolve_left fun still => ?_
  rw [still] at onward
  exact Nat.lt_irrefl _ onward

namespace Schedule

variable {plan : SchedulePlan σ ρ} {schedule ended : Schedule σ ρ} {move : Move} {moves : List Move}

/-- A move leaves as many cases as there were. -/
theorem length_slots_apply (permitted : schedule.permits plan.policy move) :
    (schedule.apply plan move).slots.length = schedule.slots.length := by
  -- One of them gets a new stage.
  obtain ⟨_, _, _, moved⟩ := moved_of_permits permitted
  obtain ⟨_, slots, _⟩ := moved.slots
  rw [slots, List.length_set]

/-- After a move no fewer cases have begun by a time than before. -/
theorem count_hasBegunBy_le (permitted : schedule.permits plan.policy move) (time : Duration) :
    CaseSlot.count (CaseStage.hasBegunBy time) schedule.slots ≤
      CaseSlot.count (CaseStage.hasBegunBy time) (schedule.apply plan move).slots := by
  -- Only the case that moves counts otherwise than before.
  obtain ⟨case, stage, found, moved⟩ := moved_of_permits permitted
  obtain ⟨next, slots, leads⟩ := moved.leads
  have counted := CaseSlot.count_set (CaseStage.hasBegunBy time) found next
  have kept : (stage.hasBegunBy time).toNat ≤ (next.hasBegunBy time).toNat := by
    cases begun : stage.hasBegunBy time with
    | true => simp [leads.hasBegunBy time begun]
    | false => simp
  rw [slots]
  omega

/-- When time passes beyond the deadline of a case that has begun by a time, the case is done with. -/
theorem isOver_of_passes {policy : SchedulePolicy} {limit time later : Duration}
    (limited : policy.limit = some limit) (passes : Passes policy schedule later)
    (onward : schedule.now < later) (beyond : time + limit < later) {slot : CaseSlot ρ}
    (member : slot ∈ schedule.slots) (begun : slot.stage.hasBegunBy time = true) :
    slot.stage.isOver = true := by
  -- An active case would have an event at its deadline at the latest.
  obtain queued | ⟨began, wait, active⟩ | finished :=
    SchedulePolicy.cases_of_ready?_eq_none ((of_isIdle (passes.isIdle onward)).1 slot member)
  · rw [CaseStage.not_hasBegunBy_of_isQueued queued] at begun
    cases begun
  · obtain ⟨due, act, event, early⟩ := SchedulePolicy.event?_of_limit limited began wait
    rw [← active] at event
    rw [active] at begun
    have first := passes.first slot member due act event
    have before : began ≤ time := of_decide_eq_true begun
    simp only [Duration.le_iff, Duration.lt_iff, Duration.nanoseconds_add] at *
    omega
  · exact finished

/-- When time passes beyond some time, all cases have begun by then, or all slots are held by cases that have. -/
theorem begun_of_passes {policy : SchedulePolicy} {time later : Duration} (timely : Timely policy schedule)
    (balance : schedule.holding + schedule.free = policy.slots) (passes : Passes policy schedule later)
    (ahead : schedule.now ≤ time) (beyond : time < later) :
    schedule.slots.length ≤ CaseSlot.count (CaseStage.hasBegunBy time) schedule.slots ∨
      policy.slots + CaseSlot.count CaseStage.isOver schedule.slots ≤
        CaseSlot.count (CaseStage.hasBegunBy time) schedule.slots := by
  -- Nothing else can happen, so every case is in line, active or done with.
  obtain ⟨rests, filled⟩ := of_isIdle (passes.isIdle (Nat.lt_of_le_of_lt ahead beyond))
  have begun (slot : CaseSlot ρ) (member : slot ∈ schedule.slots) (left : slot.stage.isQueued = false) :
      slot.stage.hasBegunBy time = true := by
    obtain queued | ⟨began, wait, active⟩ | finished :=
      SchedulePolicy.cases_of_ready?_eq_none (rests slot member)
    · simp [queued] at left
    · rw [active]
      exact decide_eq_true (Nat.le_trans (timely.began slot member began wait active) ahead)
    · exact CaseStage.hasBegunBy_of_isOver finished time
  obtain none_free | none_queued := filled
  · refine .inr ?_
    have held : schedule.holding = policy.slots := by omega
    rw [← held, holding]
    simp only [CaseSlot.count_eq_total]
    rw [← CaseSlot.total_add]
    refine CaseSlot.total_mono fun slot member => ?_
    cases queued : slot.stage.isQueued with
    | true => simp [CaseStage.isHolding, CaseStage.not_isOver_of_isQueued queued, queued]
    | false =>
      rw [begun slot member queued, CaseStage.isHolding, queued]
      cases slot.stage.isOver <;> simp
  · exact .inl (Nat.le_of_eq (List.countP_eq_length.2 fun slot member =>
      begun slot member (none_queued slot member)).symm)

end Schedule

section Rounds

variable {start limit : Duration}

/-- Each round takes as long as a case may. -/
theorem Duration.afterRounds_succ (start limit : Duration) (rounds : Nat) :
    afterRounds start limit (rounds + 1) = afterRounds start limit rounds + limit := by
  ext
  simp only [afterRounds, nanoseconds_add, Nat.succ_mul, Nat.add_assoc]

/-- With so many cases at a time, the cases fit in as many rounds as their quotient, rounded up. -/
theorem le_rounds_mul {slots : Nat} (some_slot : 0 < slots) (cases : Nat) :
    cases ≤ (cases + slots - 1) / slots * slots := by
  -- What the division leaves over is less than one round.
  have whole := Nat.div_add_mod (cases + slots - 1) slots
  have less := Nat.mod_lt (cases + slots - 1) some_slot
  rw [Nat.mul_comm] at whole
  omega

/-- The pace of a schedule since it began: in each round that is over as many cases have begun as there are slots. -/
structure Paced (start limit : Duration) (policy : SchedulePolicy) (schedule : Schedule σ ρ) : Prop where
  begun : ∀ rounds, Duration.afterRounds start limit rounds < schedule.now →
    min schedule.slots.length ((rounds + 1) * policy.slots) ≤
      CaseSlot.count (CaseStage.hasBegunBy (Duration.afterRounds start limit rounds)) schedule.slots
  /-- The rounds that it takes to let all cases begin are enough. -/
  within : schedule.now ≤ Duration.afterRounds start limit
    ((schedule.slots.length + policy.slots - 1) / policy.slots)

namespace Paced

variable {plan : SchedulePlan σ ρ} {schedule ended : Schedule σ ρ} {move : Move} {moves : List Move}

/-- The pace is kept up to the time to which time passes. -/
theorem begun_of_passes {later : Duration} (paced : Paced start limit plan.policy schedule)
    (limited : plan.policy.limit = some limit) (timely : Timely plan.policy schedule)
    (balance : schedule.holding + schedule.free = plan.policy.slots)
    (passes : Passes plan.policy schedule later) (rounds : Nat)
    (elapsed : Duration.afterRounds start limit rounds < later) :
    min schedule.slots.length ((rounds + 1) * plan.policy.slots) ≤
      CaseSlot.count (CaseStage.hasBegunBy (Duration.afterRounds start limit rounds)) schedule.slots := by
  -- Cases that had begun a round before are done with, and as many others as there are slots have begun.
  induction rounds with
  | zero =>
    by_cases already : Duration.afterRounds start limit 0 < schedule.now
    · exact paced.begun 0 already
    · obtain all | some_begun := Schedule.begun_of_passes timely balance passes (Nat.not_lt.1 already) elapsed
      · omega
      · omega
  | succ rounds ih =>
    by_cases already : Duration.afterRounds start limit (rounds + 1) < schedule.now
    · exact paced.begun (rounds + 1) already
    · have earlier : Duration.afterRounds start limit rounds < later := by
        rw [Duration.afterRounds_succ] at elapsed
        exact Nat.lt_of_le_of_lt (Nat.le_add_right _ _) elapsed
      have before := ih earlier
      have done : CaseSlot.count (CaseStage.hasBegunBy (Duration.afterRounds start limit rounds))
          schedule.slots ≤ CaseSlot.count CaseStage.isOver schedule.slots := by
        refine List.countP_mono_left fun slot member begun => ?_
        exact Schedule.isOver_of_passes limited passes (Nat.lt_of_le_of_lt (Nat.not_lt.1 already) elapsed)
          (by rwa [← Duration.afterRounds_succ]) member begun
      obtain all | some_begun := Schedule.begun_of_passes timely balance passes (Nat.not_lt.1 already) elapsed
      · omega
      · rw [Nat.succ_mul (rounds + 1)]
        omega

/-- Time does not pass beyond the rounds that it takes to let all cases begin. -/
theorem within_of_passes (some_slot : 0 < plan.policy.slots)
    (paced : Paced start limit plan.policy schedule) (limited : plan.policy.limit = some limit)
    (timely : Timely plan.policy schedule) (balance : schedule.holding + schedule.free = plan.policy.slots)
    (permitted : schedule.permits plan.policy move) :
    (schedule.apply plan move).now ≤ Duration.afterRounds start limit
      ((schedule.slots.length + plan.policy.slots - 1) / plan.policy.slots) := by
  -- The case that moves at its event began at least one round before the last, as all cases have.
  obtain ⟨case, stage, found, moved⟩ := Schedule.moved_of_permits permitted
  obtain ⟨_, still⟩ | event := moved.now
  · rw [still]
    exact paced.within
  · refine Nat.not_lt.1 fun beyond => ?_
    have passes := timely.passes permitted
    have enough := le_rounds_mul some_slot schedule.slots.length
    obtain ⟨inside, _⟩ := List.getElem?_eq_some_iff.1 found
    generalize (schedule.slots.length + plan.policy.slots - 1) / plan.policy.slots = rounds at beyond enough
    cases rounds with
    | zero => omega
    | succ rounds =>
      have elapsed : Duration.afterRounds start limit rounds + limit < (schedule.apply plan move).now := by
        rwa [← Duration.afterRounds_succ]
      have begun := paced.begun_of_passes limited timely balance passes rounds
        (Nat.lt_of_le_of_lt (Nat.le_add_right _ _) elapsed)
      have all : CaseSlot.count (CaseStage.hasBegunBy (Duration.afterRounds start limit rounds))
          schedule.slots = schedule.slots.length :=
        Nat.le_antisymm List.countP_le_length (by omega)
      have before := List.countP_eq_length.1 all _ (List.mem_of_getElem? found)
      cases stage with
      | active began wait =>
        obtain ⟨due, act, own, early⟩ := SchedulePolicy.event?_of_limit limited began wait
        rw [event] at own
        cases own
        have late : began ≤ Duration.afterRounds start limit rounds := of_decide_eq_true before
        simp only [Duration.le_iff, Duration.lt_iff, Duration.nanoseconds_add] at *
        omega
      | _ => cases event

/-- A schedule keeps the pace in each move. -/
theorem apply (some_slot : 0 < plan.policy.slots) (paced : Paced start limit plan.policy schedule)
    (limited : plan.policy.limit = some limit) (timely : Timely plan.policy schedule)
    (balance : schedule.holding + schedule.free = plan.policy.slots)
    (permitted : schedule.permits plan.policy move) :
    Paced start limit plan.policy (schedule.apply plan move) := by
  -- Time passes first, and then no case that has begun ceases to count.
  constructor
  · intro rounds elapsed
    rw [Schedule.length_slots_apply permitted]
    exact Nat.le_trans
      (paced.begun_of_passes limited timely balance (timely.passes permitted) rounds elapsed)
      (Schedule.count_hasBegunBy_le permitted _)
  · rw [Schedule.length_slots_apply permitted]
    exact paced.within_of_passes some_slot limited timely balance permitted

/-- A schedule keeps the pace in moves in any order. -/
theorem follow {cases : List TestCase} {world : σ} (some_slot : 0 < plan.policy.slots)
    (limited : plan.policy.limit = some limit)
    (followed : (Schedule.ofCases plan.policy cases start world).follow plan moves = some ended) :
    Paced start limit plan.policy ended := by
  -- No round is over before the first move.
  refine Schedule.follow_induction (fun _ middle => Paced start limit plan.policy middle) ?_ ?_ followed
  · refine ⟨fun rounds elapsed => ?_, Nat.le_add_right _ _⟩
    exact absurd elapsed (Nat.not_lt.2 (Nat.le_add_right _ _))
  · intro past middle move reached paced permitted
    exact paced.apply some_slot limited (Timely.follow reached) (Schedule.holding_add_free reached) permitted

end Paced

end Rounds

end PipelineTrial
