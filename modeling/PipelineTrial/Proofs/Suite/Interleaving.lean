import PipelineTrial.Proofs.Duration
import PipelineTrial.Suite.Interleaving

/-! What a possible move does to a schedule, and that a schedule which is run takes possible moves. -/

namespace PipelineTrial

/-- What a case can do at each stage, apart from whether its turn has come. -/
inductive Enabled {ρ : Type} (policy : SchedulePolicy) : CaseStage ρ → Act → Prop where
  | enter : Enabled policy .queued .enter
  | check : Enabled policy .admitted .check
  | start : Enabled policy .cleared .start
  /-- A wait ends no later than the time for the case. -/
  | wake {began due : Duration} {run : ρ}
      (inTime : ∀ limit, policy.limit = some limit → due ≤ began + limit) :
      Enabled policy (.active began (some (due, run))) .wake
  /-- The time for the case ends before its wait. -/
  | expire {began limit : Duration} {wait : Option (Duration × ρ)} (limited : policy.limit = some limit)
      (tooLate : ∀ due run, wait = some (due, run) → ¬due ≤ began + limit) :
      Enabled policy (.active began wait) .expire
  | announce {result : PipelineResult} : Enabled policy (.returned result) .announce
  | leave {result : PipelineResult} : Enabled policy (.leaving result) .leave

namespace SchedulePolicy

variable {ρ : Type} {policy : SchedulePolicy} {stage : CaseStage ρ} {act : Act} {time now : Duration}

/-- The next event of a case is the end of a wait or of its time. -/
theorem enabled_of_event? (event : policy.event? stage = some (time, act)) : Enabled policy stage act := by
  -- Only an active case has an event, and the earlier of its two ends comes first.
  unfold event? at event
  split at event
  · next began wait =>
    split at event
    · cases event
    · next deadline limited =>
      cases event
      obtain ⟨limit, given, rfl⟩ := Option.map_eq_some_iff.1 limited
      exact .expire given (by rintro _ _ ⟨⟩)
    · next due run unlimited =>
      cases event
      have none : policy.limit = none := Option.map_eq_none_iff.1 unlimited
      exact .wake (by simp [none])
    · next due run deadline limited =>
      obtain ⟨limit, given, rfl⟩ := Option.map_eq_some_iff.1 limited
      split at event
      · next inTime =>
        cases event
        refine .wake fun other same => ?_
        rw [given] at same
        cases same
        exact inTime
      · next tooLate =>
        cases event
        refine .expire given ?_
        rintro _ _ ⟨⟩
        exact tooLate
  · cases event

/-- The next event of a case whose wait ends in time is the end of its wait. -/
theorem event?_wake {began due : Duration} {run : ρ}
    (inTime : ∀ limit, policy.limit = some limit → due ≤ began + limit) :
    policy.event? (.active began (some (due, run))) = some (due, .wake) := by
  -- Without a limit there is no other event.
  cases limited : policy.limit with
  | none => simp [event?, deadline, limited]
  | some limit => simp [event?, deadline, limited, inTime limit limited]

/-- The next event of a case that does not wait, or for too long, is the end of its time. -/
theorem event?_expire {began limit : Duration} {wait : Option (Duration × ρ)}
    (limited : policy.limit = some limit)
    (tooLate : ∀ due run, wait = some (due, run) → ¬due ≤ began + limit) :
    policy.event? (.active began wait) = some (began + limit, .expire) := by
  -- The end of a wait would have to come no later.
  cases wait with
  | none => simp [event?, deadline, limited]
  | some pair => simp [event?, deadline, limited, tooLate pair.1 pair.2 rfl]

/-- A case that is ready does what its stage enables. -/
theorem enabled_of_ready? (ready : policy.ready? now stage = some act) : Enabled policy stage act := by
  -- Four stages enable one act each, and an event that has come enables the rest.
  unfold ready? at ready
  split at ready
  · cases ready
    exact .check
  · cases ready
    exact .start
  · cases ready
    exact .announce
  · cases ready
    exact .leave
  · split at ready
    · cases ready
    · next time next event =>
      split at ready
      · cases ready
        exact enabled_of_event? event
      · cases ready

/-- A case that has an event does not take a slot in it. -/
theorem event?_ne_enter (event : policy.event? stage = some (time, act)) : act ≠ .enter := by
  -- A case in line has no event.
  rintro rfl
  cases enabled_of_event? event
  cases event

/-- A case that is ready is not about to take a slot. -/
theorem ready?_ne_enter (ready : policy.ready? now stage = some act) : act ≠ .enter := by
  -- A case in line is never ready.
  rintro rfl
  cases enabled_of_ready? ready
  cases ready

/-- A case that has moved on waits, has returned or died. -/
theorem settle_cases (policy : SchedulePolicy) (case : TestCase) (began now : Duration)
    (progress : Progress ρ) :
    (∃ wait, policy.settle case began now progress = .active began wait) ∨
      (∃ result, policy.settle case began now progress = .returned result) ∨
      policy.settle case began now progress = .dead := by
  -- A run that has to wait may have run out of time.
  have paused (wait : Option (Duration × ρ)) :
      (∃ later, policy.pause case began now wait = .active began later) ∨
        ∃ result, policy.pause case began now wait = .returned result := by
    unfold pause
    split
    · exact .inl ⟨wait, rfl⟩
    · split
      · exact .inr ⟨_, rfl⟩
      · exact .inl ⟨wait, rfl⟩
  cases progress with
  | finished result => exact .inr (.inl ⟨result, rfl⟩)
  | crashed => exact .inr (.inr rfl)
  | stalled => exact (paused none).imp_right .inl
  | waiting delay run =>
    simp only [settle]
    split
    · exact .inl ⟨_, rfl⟩
    · exact (paused _).imp_right .inl

/-- A run that has to wait, and not past the time for its case, waits. -/
theorem settle_waiting {case : TestCase} {began delay : Duration} {run : ρ}
    (inTime : ∀ limit, policy.limit = some limit → now + delay ≤ began + limit) :
    policy.settle case began now (.waiting delay run) = .active began (some (now + delay, run)) := by
  -- A wait of no time ends now.
  simp only [settle, pause]
  split
  · next zero => rw [zero, Duration.add_zero]
  · next long =>
    split
    · rfl
    · next limit limited =>
      have within := inTime limit limited
      have some_time : delay.nanoseconds ≠ 0 := fun zero => long (Duration.ext zero)
      rw [if_neg]
      simp only [Duration.le_iff, Duration.nanoseconds_add] at within ⊢
      omega

/-- A case that has moved on has not handed a report over yet. -/
theorem settle_ne_reported (case : TestCase) (began now : Duration) (progress : Progress ρ)
    (result : PipelineResult) : policy.settle case began now progress ≠ .reported result := by
  -- It waits, has returned or died.
  obtain ⟨wait, same⟩ | ⟨own, same⟩ | same := policy.settle_cases case began now progress <;> simp [same]

end SchedulePolicy

/-- What a move of a case at a stage makes of a schedule. -/
inductive Moved {σ ρ : Type} (plan : SchedulePlan σ ρ) (schedule : Schedule σ ρ) (place : Nat)
    (case : TestCase) : CaseStage ρ → Act → Schedule σ ρ → Prop where
  | enter (room : 0 < schedule.free) :
      Moved plan schedule place case .queued .enter
        ({ schedule with free := schedule.free - 1 }.put place case .admitted)
  | skip (halted : (plan.policy.stopsOnFailure && schedule.halted) = true) :
      Moved plan schedule place case .admitted .check
        (schedule.put place case (.leaving (.skipped case.name)))
  | clear (unhalted : (plan.policy.stopsOnFailure && schedule.halted) = false) :
      Moved plan schedule place case .admitted .check (schedule.put place case .cleared)
  | start {progress : Progress ρ} {world : σ}
      (started : plan.startCase case schedule.now schedule.world = (progress, world)) :
      Moved plan schedule place case .cleared .start
        ({ schedule with world := world }.settle plan.policy place case schedule.now progress)
  | wake {began due : Duration} {run : ρ} {progress : Progress ρ} {world : σ}
      (inTime : ∀ limit, plan.policy.limit = some limit → due ≤ began + limit)
      (resumed : plan.backend.resume run due schedule.world = (progress, world)) :
      Moved plan schedule place case (.active began (some (due, run))) .wake
        ({ schedule with now := due, world := world }.settle plan.policy place case began progress)
  | expire {began limit : Duration} {wait : Option (Duration × ρ)}
      (limited : plan.policy.limit = some limit)
      (tooLate : ∀ due run, wait = some (due, run) → ¬due ≤ began + limit) :
      Moved plan schedule place case (.active began wait) .expire
        ({ schedule with now := began + limit }.put place case
          (.returned (case.timeoutResult limit limit)))
  | announce {result : PipelineResult} :
      Moved plan schedule place case (.returned result) .announce
        ({ schedule with
          halted := schedule.halted || (plan.policy.stopsOnFailure && result.isFailure) }.put
          place case (.leaving result))
  | leave {result : PipelineResult} :
      Moved plan schedule place case (.leaving result) .leave
        ({ schedule with
          free := schedule.free + 1, latest := (place, result) :: schedule.latest }.put
          place case (.reported result))

/-- The stage to which a case at a stage comes in a move. -/
inductive Leads {σ ρ : Type} (plan : SchedulePlan σ ρ) (schedule : Schedule σ ρ) (case : TestCase) :
    CaseStage ρ → Act → CaseStage ρ → Prop where
  | enter : Leads plan schedule case .queued .enter .admitted
  | skip (halted : (plan.policy.stopsOnFailure && schedule.halted) = true) :
      Leads plan schedule case .admitted .check (.leaving (.skipped case.name))
  | clear (unhalted : (plan.policy.stopsOnFailure && schedule.halted) = false) :
      Leads plan schedule case .admitted .check .cleared
  | start {progress : Progress ρ} {world : σ}
      (started : plan.startCase case schedule.now schedule.world = (progress, world)) :
      Leads plan schedule case .cleared .start
        (plan.policy.settle case schedule.now schedule.now progress)
  | wake {began due : Duration} {run : ρ} {progress : Progress ρ} {world : σ}
      (inTime : ∀ limit, plan.policy.limit = some limit → due ≤ began + limit)
      (resumed : plan.backend.resume run due schedule.world = (progress, world)) :
      Leads plan schedule case (.active began (some (due, run))) .wake
        (plan.policy.settle case began due progress)
  | expire {began limit : Duration} {wait : Option (Duration × ρ)}
      (limited : plan.policy.limit = some limit) :
      Leads plan schedule case (.active began wait) .expire (.returned (case.timeoutResult limit limit))
  | announce {result : PipelineResult} :
      Leads plan schedule case (.returned result) .announce (.leaving result)
  | leave {result : PipelineResult} :
      Leads plan schedule case (.leaving result) .leave (.reported result)

/-- A case that is done with makes no more moves. -/
theorem Leads.unfinished {σ ρ : Type} {plan : SchedulePlan σ ρ} {schedule : Schedule σ ρ} {case : TestCase}
    {stage next : CaseStage ρ} {act : Act} (leads : Leads plan schedule case stage act next) :
    stage.isOver = false := by
  -- No move starts there.
  cases leads <;> rfl

namespace Moved

variable {σ ρ : Type} {plan : SchedulePlan σ ρ} {schedule after : Schedule σ ρ} {place : Nat}
  {case : TestCase} {stage : CaseStage ρ} {act : Act}

/-- A move changes the stage of one case, and hands over its report exactly when it makes it a reported one. -/
theorem slots (moved : Moved plan schedule place case stage act after) :
    ∃ next, after.slots = schedule.slots.set place ⟨case, next⟩ ∧
      ((∃ result, next = .reported result ∧ after.latest = (place, result) :: schedule.latest) ∨
        (∀ result, next ≠ .reported result) ∧ after.latest = schedule.latest) := by
  -- Only leaving hands anything over.
  cases moved with
  | leave => exact ⟨_, rfl, .inl ⟨_, rfl, rfl⟩⟩
  | start _ => exact ⟨_, rfl, .inr ⟨SchedulePolicy.settle_ne_reported _ _ _ _, rfl⟩⟩
  | wake _ _ => exact ⟨_, rfl, .inr ⟨SchedulePolicy.settle_ne_reported _ _ _ _, rfl⟩⟩
  | _ => exact ⟨_, rfl, .inr ⟨by simp, rfl⟩⟩

/-- A move leads the case that makes it to another stage. -/
theorem leads (moved : Moved plan schedule place case stage act after) :
    ∃ next, after.slots = schedule.slots.set place ⟨case, next⟩ ∧
      Leads plan schedule case stage act next := by
  -- The collaborators decide on the stage after a start or a wait.
  cases moved with
  | enter _ => exact ⟨_, rfl, .enter⟩
  | skip halted => exact ⟨_, rfl, .skip halted⟩
  | clear unhalted => exact ⟨_, rfl, .clear unhalted⟩
  | start started => exact ⟨_, rfl, .start started⟩
  | wake inTime resumed => exact ⟨_, rfl, .wake inTime resumed⟩
  | expire limited _ => exact ⟨_, rfl, .expire limited⟩
  | announce => exact ⟨_, rfl, .announce⟩
  | leave => exact ⟨_, rfl, .leave⟩

/-- A move leaves every other case where it is. -/
theorem elsewhere (moved : Moved plan schedule place case stage act after) {other : Nat}
    (different : place ≠ other) : after.slots[other]? = schedule.slots[other]? := by
  -- Only one slot is set.
  obtain ⟨next, slots, _⟩ := moved.slots
  rw [slots, List.getElem?_set_ne different]

end Moved

namespace Schedule

variable {σ ρ : Type} {plan : SchedulePlan σ ρ} {schedule ended : Schedule σ ρ} {move : Move}

/-- What a case does at its stage decides what becomes of the schedule. -/
theorem moved_of_enabled {place : Nat} {case : TestCase} {stage : CaseStage ρ} {act : Act}
    (found : schedule.slots[place]? = some ⟨case, stage⟩) (enabled : Enabled plan.policy stage act)
    (room : act = .enter → 0 < schedule.free) :
    Moved plan schedule place case stage act (schedule.apply plan ⟨place, act⟩) := by
  -- Each stage that enables an act has its own branch.
  cases enabled with
  | enter =>
    have some_free := room rfl
    have full : schedule.free ≠ 0 := by omega
    simpa only [apply, found, full, if_false] using Moved.enter some_free
  | check =>
    cases stops : plan.policy.stopsOnFailure && schedule.halted with
    | true =>
      simpa only [apply, found, stops, if_true] using Moved.skip stops
    | false =>
      simpa only [apply, found, stops, Bool.false_eq_true, if_false] using Moved.clear stops
  | start =>
    cases started : plan.startCase case schedule.now schedule.world with
    | mk progress world => simpa only [apply, found, started] using Moved.start started
  | @wake began due run inTime =>
    cases resumed : plan.backend.resume run due schedule.world with
    | mk progress world => simpa only [apply, found, resumed] using Moved.wake inTime resumed
  | expire limited tooLate =>
    simpa only [apply, found, limited] using Moved.expire limited tooLate
  | announce =>
    simpa only [apply, found] using Moved.announce
  | leave =>
    simpa only [apply, found] using Moved.leave

/-- A possible move is made by a case whose stage enables it, and a case enters only when a slot is free. -/
theorem enabled_of_permits {policy : SchedulePolicy} (permitted : schedule.permits policy move) :
    ∃ case stage, schedule.slots[move.place]? = some ⟨case, stage⟩ ∧
      Enabled policy stage move.act ∧ (move.act = .enter → 0 < schedule.free) := by
  -- A move is possible for one of three reasons.
  unfold permits at permitted
  split at permitted
  · cases permitted
  · next slot found =>
    refine ⟨slot.case, slot.stage, found, ?_⟩
    simp only [Bool.or_eq_true, Bool.and_eq_true, beq_iff_eq, decide_eq_true_eq] at permitted
    obtain (ready | ⟨⟨enters, queued⟩, room⟩) | ⟨_, comes⟩ := permitted
    · exact ⟨SchedulePolicy.enabled_of_ready? ready,
        fun enters => absurd enters (SchedulePolicy.ready?_ne_enter ready)⟩
    · refine ⟨?_, fun _ => room⟩
      cases stage : slot.stage with
      | queued => exact enters ▸ .enter
      | _ => simp [stage, CaseStage.isQueued] at queued
    · unfold comesNext at comes
      split at comes
      · cases comes
      · next time next event =>
        simp only [Bool.and_eq_true, beq_iff_eq] at comes
        obtain ⟨rfl, _⟩ := comes
        exact ⟨SchedulePolicy.enabled_of_event? event,
          fun enters => absurd enters (SchedulePolicy.event?_ne_enter event)⟩

/-- What a possible move makes of a schedule. -/
theorem moved_of_permits (permitted : schedule.permits plan.policy move) :
    ∃ case stage, schedule.slots[move.place]? = some ⟨case, stage⟩ ∧
      Moved plan schedule move.place case stage move.act (schedule.apply plan move) := by
  -- The case that moves stands at a stage that enables its move.
  obtain ⟨case, stage, found, enabled, room⟩ := enabled_of_permits permitted
  exact ⟨case, stage, found, moved_of_enabled found enabled room⟩

/-- The moves that follow a first one, which was possible. -/
theorem follow_cons {moves : List Move} (followed : schedule.follow plan (move :: moves) = some ended) :
    schedule.permits plan.policy move = true ∧
      (schedule.apply plan move).follow plan moves = some ended := by
  -- An impossible move leads nowhere.
  unfold follow at followed
  split at followed
  · next permitted => exact ⟨permitted, followed⟩
  · cases followed

/-- The earliest of events is one of them, and none comes before it. -/
theorem earliest?_least {events : List (Nat × Duration × Act)} {first : Nat × Duration × Act}
    (found : earliest? events = some first) :
    first ∈ events ∧ ∀ event ∈ events, first.2.1 ≤ event.2.1 := by
  -- The first event is compared with the earliest of the rest.
  induction events generalizing first with
  | nil => cases found
  | cons event rest ih =>
    unfold earliest? at found
    split at found
    · next none =>
      cases found
      have empty : rest = [] := by
        cases rest with
        | nil => rfl
        | cons other others =>
          unfold earliest? at none
          split at none <;> cases none
      subst empty
      exact ⟨List.mem_cons_self, List.forall_mem_cons.2 ⟨Nat.le_refl _, by simp⟩⟩
    · next other some_other =>
      obtain ⟨member, least⟩ := ih some_other
      split at found
      · next before =>
        cases found
        refine ⟨List.mem_cons_self, List.forall_mem_cons.2 ⟨Nat.le_refl _, fun later inside => ?_⟩⟩
        exact Nat.le_trans before (least later inside)
      · next after =>
        cases found
        have before : first.2.1 ≤ event.2.1 := Nat.le_of_lt (Nat.lt_of_not_le after)
        exact ⟨List.mem_cons_of_mem _ member, List.forall_mem_cons.2 ⟨before, least⟩⟩

/-- The next move of a schedule that is run is possible. -/
theorem permits_of_next? {policy : SchedulePolicy} (next : schedule.next? policy = some move) :
    schedule.permits policy move := by
  -- It is the move of a case that is ready, of the first case in line, or the earliest event.
  unfold next? at next
  split at next
  · next urgent first =>
    cases next
    obtain ⟨⟨slot, place⟩, member, chosen⟩ := List.exists_of_findSome?_eq_some first
    obtain ⟨act, ready, rfl⟩ := Option.map_eq_some_iff.1 chosen
    have found := List.mem_zipIdx_iff_getElem?.1 member
    simp [permits, found, ready]
  · next calm =>
    split at next
    · next canEnter =>
      obtain ⟨place, first, rfl⟩ := Option.map_eq_some_iff.1 next
      obtain ⟨inside, queued, _⟩ := List.findIdx?_eq_some_iff_getElem.1 first
      have room : 0 < schedule.free := by
        simp only [Schedule.canEnter, Bool.and_eq_true, decide_eq_true_eq] at canEnter
        exact canEnter.1
      have found := List.getElem?_eq_getElem inside
      simp [permits, found, queued, room]
    · next full =>
      obtain ⟨⟨place, time, act⟩, earliest, rfl⟩ := Option.map_eq_some_iff.1 next
      obtain ⟨member, least⟩ := earliest?_least earliest
      obtain ⟨⟨slot, other⟩, inside, told⟩ := List.mem_filterMap.1 member
      obtain ⟨pair, event, same⟩ := Option.map_eq_some_iff.1 told
      cases same
      have found := List.mem_zipIdx_iff_getElem?.1 inside
      have comes : schedule.comesNext policy slot.stage act = true := by
        simpa [comesNext, event] using fun place time act => least (place, time, act)
      have idle : schedule.isIdle policy = true := by simp [isIdle, calm, full]
      simp [permits, found, idle, comes]

/-- A case that enters a schedule that is run is the first in line. -/
theorem first_of_next? {policy : SchedulePolicy} (next : schedule.next? policy = some move)
    (enters : move.act = .enter) : schedule.slots.findIdx? (·.stage.isQueued) = some move.place := by
  -- Cases that are ready or have an event do something else.
  unfold next? at next
  split at next
  · next urgent first =>
    cases next
    obtain ⟨⟨slot, place⟩, _, chosen⟩ := List.exists_of_findSome?_eq_some first
    obtain ⟨act, ready, rfl⟩ := Option.map_eq_some_iff.1 chosen
    exact absurd enters (SchedulePolicy.ready?_ne_enter ready)
  · split at next
    · obtain ⟨place, first, rfl⟩ := Option.map_eq_some_iff.1 next
      exact first
    · obtain ⟨⟨place, time, act⟩, earliest, rfl⟩ := Option.map_eq_some_iff.1 next
      obtain ⟨⟨slot, other⟩, _, told⟩ := List.mem_filterMap.1 (earliest?_least earliest).1
      obtain ⟨pair, event, same⟩ := Option.map_eq_some_iff.1 told
      cases same
      exact absurd enters (SchedulePolicy.event?_ne_enter event)

/-- A schedule that is over is run no further. -/
theorem finish_of_isOver (allOver : schedule.isOver = true) (bound : Nat) :
    schedule.finish plan bound = some schedule := by
  -- This comes before the bound and the next move.
  unfold finish
  rw [if_pos allOver]

/-- A schedule that is not over is run by making its next move. -/
theorem finish_of_next? (unfinished : schedule.isOver = false)
    (next : schedule.next? plan.policy = some move) (bound : Nat) :
    schedule.finish plan (bound + 1) = (schedule.apply plan move).finish plan bound := by
  -- The move takes one off the bound.
  conv =>
    lhs
    unfold finish
  simp only [unfinished, next, Bool.false_eq_true, if_false]

/-- A schedule that is run to its end follows possible moves, and any bound that allows for them will do. -/
theorem follow_of_finish {bound : Nat} (finished : schedule.finish plan bound = some ended) :
    ended.isOver = true ∧ ∃ moves, schedule.follow plan moves = some ended ∧
      ∀ enough, moves.length ≤ enough → schedule.finish plan enough = some ended := by
  -- Each of its moves is the next one.
  induction bound generalizing schedule with
  | zero =>
    unfold finish at finished
    split at finished
    · next allOver =>
      cases finished
      exact ⟨allOver, [], rfl, fun enough _ => finish_of_isOver allOver enough⟩
    · cases finished
  | succ bound ih =>
    cases allOver : schedule.isOver with
    | true =>
      rw [finish_of_isOver allOver] at finished
      cases finished
      exact ⟨allOver, [], rfl, fun enough _ => finish_of_isOver allOver enough⟩
    | false =>
      cases next : schedule.next? plan.policy with
      | none =>
        unfold finish at finished
        simp [allOver, next] at finished
      | some move =>
        rw [finish_of_next? allOver next] at finished
        obtain ⟨ends, moves, followed, within⟩ := ih finished
        refine ⟨ends, move :: moves, ?_, fun enough allowed => ?_⟩
        · simpa only [follow, permits_of_next? next, if_true] using followed
        · rw [List.length_cons] at allowed
          obtain ⟨fewer, rfl⟩ : ∃ fewer, enough = fewer + 1 := ⟨enough - 1, by omega⟩
          rw [finish_of_next? allOver next]
          exact within fewer (by omega)

section Runs

variable {past after moves : List Move}

/-- Moves after others are followed from where those have led. -/
theorem follow_append (schedule : Schedule σ ρ) (first second : List Move) :
    schedule.follow plan (first ++ second) =
      (schedule.follow plan first).bind fun middle => middle.follow plan second := by
  -- Both stop at the first move that is not possible.
  induction first generalizing schedule with
  | nil => rfl
  | cons move rest ih =>
    simp only [List.cons_append, follow]
    split
    · exact ih _
    · rfl

/-- Moves are followed up to each of them, which is possible then, and on from there. -/
theorem follow_split (followed : schedule.follow plan (past ++ move :: after) = some ended) :
    ∃ middle, schedule.follow plan past = some middle ∧ middle.permits plan.policy move = true ∧
      (middle.apply plan move).follow plan after = some ended := by
  -- The moves up to this one have led somewhere.
  rw [follow_append] at followed
  obtain ⟨middle, reached, onward⟩ := Option.bind_eq_some_iff.1 followed
  obtain ⟨permitted, following⟩ := follow_cons onward
  exact ⟨middle, reached, permitted, following⟩

/-- What holds before any move, and is kept by every possible move, holds after moves in any order. -/
theorem follow_induction (Holds : List Move → Schedule σ ρ → Prop) (initially : Holds [] schedule)
    (step : ∀ past middle move, schedule.follow plan past = some middle → Holds past middle →
      middle.permits plan.policy move = true → Holds (past ++ [move]) (middle.apply plan move))
    (followed : schedule.follow plan moves = some ended) : Holds moves ended := by
  -- The moves are taken one by one from the front to the past.
  have onward (past rest : List Move) (middle : Schedule σ ρ)
      (reached : schedule.follow plan past = some middle) (holds : Holds past middle)
      (following : middle.follow plan rest = some ended) : Holds (past ++ rest) ended := by
    induction rest generalizing past middle with
    | nil =>
      cases following
      simpa using holds
    | cons move rest ih =>
      obtain ⟨permitted, remaining⟩ := follow_cons following
      have next : schedule.follow plan (past ++ [move]) = some (middle.apply plan move) := by
        simp [follow_append, reached, follow, permitted]
      simpa using ih _ _ next (step past middle move reached holds permitted) remaining
  simpa using onward [] moves schedule rfl initially followed

/-- After a move a case stands where it stood before, unless it is the one that was led there. -/
theorem slot_of_apply (permitted : schedule.permits plan.policy move) {place : Nat} {case : TestCase}
    {stage : CaseStage ρ} (found : (schedule.apply plan move).slots[place]? = some ⟨case, stage⟩) :
    (move.place ≠ place ∧ schedule.slots[place]? = some ⟨case, stage⟩) ∨
      (move.place = place ∧ ∃ before, schedule.slots[place]? = some ⟨case, before⟩ ∧
        Leads plan schedule case before move.act stage) := by
  -- Only the case that moves gets a new stage, and it remains the same case.
  obtain ⟨own, before, standing, moved⟩ := moved_of_permits permitted
  by_cases same : move.place = place
  · subst same
    obtain ⟨inside, _⟩ := List.getElem?_eq_some_iff.1 standing
    obtain ⟨next, slots, leads⟩ := moved.leads
    rw [slots, List.getElem?_set_self inside] at found
    cases found
    exact .inr ⟨rfl, before, standing, leads⟩
  · exact .inl ⟨same, (moved.elsewhere same).symm.trans found⟩

/-- A case that is done with remains as it is. -/
theorem slot_apply_of_isOver (permitted : schedule.permits plan.policy move) {place : Nat}
    {slot : CaseSlot ρ} (found : schedule.slots[place]? = some slot) (finished : slot.stage.isOver = true) :
    (schedule.apply plan move).slots[place]? = some slot := by
  -- It makes no move itself, and others do not touch it.
  obtain ⟨case, stage, standing, moved⟩ := moved_of_permits permitted
  have different : move.place ≠ place := by
    rintro rfl
    obtain ⟨_, _, leads⟩ := moved.leads
    rw [found] at standing
    cases standing
    simp [leads.unfinished] at finished
  exact (moved.elsewhere different).trans found

/-- All cases are in line before the first move. -/
theorem queued_of_ofCases {policy : SchedulePolicy} {cases : List TestCase} {now : Duration} {world : σ}
    {place : Nat} {case : TestCase} {stage : CaseStage ρ}
    (found : (ofCases policy cases now world : Schedule σ ρ).slots[place]? = some ⟨case, stage⟩) :
    stage = .queued := by
  simp only [ofCases, List.getElem?_map, Option.map_eq_some_iff] at found
  obtain ⟨_, _, same⟩ := found
  cases same
  rfl

/-- Cases keep the line up to a move, and the case that takes a slot in it is the first in line. -/
theorem keepsLine_concat {middle : Schedule σ ρ} (reached : schedule.follow plan past = some middle)
    (inLine : schedule.keepsLine plan (past ++ [move]) = true) :
    schedule.keepsLine plan past = true ∧
      (move.act = .enter → middle.slots.findIdx? (·.stage.isQueued) = some move.place) := by
  -- The line is looked at where the earlier moves have led.
  induction past generalizing schedule with
  | nil =>
    cases reached
    simpa [keepsLine, Decidable.imp_iff_not_or] using inLine
  | cons earlier rest ih =>
    obtain ⟨_, following⟩ := follow_cons reached
    simp only [List.cons_append, keepsLine, Bool.and_eq_true] at inLine ⊢
    obtain ⟨kept, first⟩ := ih following inLine.2
    exact ⟨⟨inLine.1, kept⟩, first⟩

/-- The cases of a schedule that is run take slots in line. -/
theorem keepsLine_of_finish {bound : Nat} (finished : schedule.finish plan bound = some ended) :
    ∃ moves, schedule.follow plan moves = some ended ∧ schedule.keepsLine plan moves = true := by
  -- A case enters only as the first in line.
  induction bound generalizing schedule with
  | zero =>
    unfold finish at finished
    split at finished
    · cases finished
      exact ⟨[], rfl, rfl⟩
    · cases finished
  | succ bound ih =>
    cases allOver : schedule.isOver with
    | true =>
      rw [finish_of_isOver allOver] at finished
      cases finished
      exact ⟨[], rfl, rfl⟩
    | false =>
      cases next : schedule.next? plan.policy with
      | none =>
        unfold finish at finished
        simp [allOver, next] at finished
      | some move =>
        rw [finish_of_next? allOver next] at finished
        obtain ⟨moves, followed, inLine⟩ := ih finished
        refine ⟨move :: moves, ?_, ?_⟩
        · simpa only [follow, permits_of_next? next, if_true] using followed
        · simp only [keepsLine, inLine, Bool.and_true, Bool.or_eq_true, bne_iff_ne, beq_iff_eq]
          exact Decidable.imp_iff_not_or.1 fun enters => first_of_next? next enters

end Runs

end Schedule

end PipelineTrial
