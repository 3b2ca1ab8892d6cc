import PipelineTrial.Proofs.Run.Reenactment
import PipelineTrial.Proofs.Suite.Stages

/-! A case in a suite moves in step with the same case in a suite of its own, on the replies to it alone. -/

namespace PipelineTrial

variable {σ ρ κ τ : Type}

/-- Two cases stand at the same stage; a case that has begun has spent and awaits the same spans of time. -/
inductive CaseStage.Matches (Alike : Duration → Duration → ρ → τ → Prop) :
    CaseStage ρ → CaseStage τ → Prop where
  | queued : Matches Alike .queued .queued
  | admitted : Matches Alike .admitted .admitted
  | cleared : Matches Alike .cleared .cleared
  | endless (began later : Duration) : Matches Alike (.active began none) (.active later none)
  | waiting (began later elapsed : Duration) {run : ρ} {other : τ} (alike : Alike began later run other) :
      Matches Alike (.active began (some (began + elapsed, run)))
        (.active later (some (later + elapsed, other)))
  | returned (result : PipelineResult) : Matches Alike (.returned result) (.returned result)
  | leaving (result : PipelineResult) : Matches Alike (.leaving result) (.leaving result)
  | reported (result : PipelineResult) : Matches Alike (.reported result) (.reported result)
  | dead : Matches Alike .dead .dead

namespace SchedulePolicy

variable {Alike : Duration → Duration → ρ → τ → Prop} {policy other : SchedulePolicy}

/-- A case that has to wait runs out of time as long after its start, under the same limit. -/
theorem pause_matches (sameLimit : other.limit = policy.limit) (case : TestCase)
    (began later elapsed : Duration) {wait : Option (Duration × ρ)} {waitOther : Option (Duration × τ)}
    (active : CaseStage.Matches Alike (.active began wait) (.active later waitOther)) :
    CaseStage.Matches Alike (policy.pause case began (began + elapsed) wait)
      (other.pause case later (later + elapsed) waitOther) := by
  -- Both compare the time since the start with the limit.
  unfold pause
  rw [sameLimit]
  cases policy.limit with
  | none => exact active
  | some limit =>
    simp only [Duration.add_le_add_left_iff, Duration.add_sub_cancel_left]
    split
    · exact .returned _
    · exact active

/-- Cases whose runs stand at the same point come to the same stage. -/
theorem settle_matches (sameLimit : other.limit = policy.limit) (case : TestCase)
    (began later elapsed : Duration) {progress : Progress ρ} {progressOther : Progress τ}
    (same : progress.Matches (Alike began later) progressOther) :
    CaseStage.Matches Alike (policy.settle case began (began + elapsed) progress)
      (other.settle case later (later + elapsed) progressOther) := by
  -- A wait ends as long after the start.
  cases same with
  | finished result => exact .returned result
  | crashed => exact .dead
  | stalled => exact pause_matches sameLimit case began later elapsed (.endless began later)
  | @waiting delay run runOther alike =>
    simp only [settle]
    split
    · exact .waiting began later elapsed alike
    · rw [Duration.add_assoc, Duration.add_assoc]
      exact pause_matches sameLimit case began later elapsed
        (.waiting began later (elapsed + delay) alike)

end SchedulePolicy

namespace Schedule

variable {plan : SchedulePlan σ ρ} {schedule : Schedule σ ρ} {case : TestCase} {stage : CaseStage ρ}
  {act : Act}

/-- The only case of a schedule does next what its event is, whether it is time for it or time has to pass. -/
private theorem next?_of_event {policy : SchedulePolicy} {time : Duration}
    (single : schedule.slots = [⟨case, stage⟩]) (event : policy.event? stage = some (time, act)) :
    schedule.next? policy = some ⟨0, act⟩ := by
  -- Only an active case has an event, and it is not in line.
  cases stage with
  | active began wait =>
    by_cases come : time ≤ schedule.now
    · simp [next?, urgent?, single, SchedulePolicy.ready?, event, come]
    · simp [next?, urgent?, canEnter, events, earliest?, single, SchedulePolicy.ready?, event, come,
        CaseStage.isQueued]
  | _ => cases event

/-- The only case of a schedule makes the next move. -/
theorem next?_of_single {policy : SchedulePolicy} (single : schedule.slots = [⟨case, stage⟩])
    (enabled : Enabled policy stage act) (room : act = .enter → 0 < schedule.free) :
    schedule.next? policy = some ⟨0, act⟩ := by
  -- It is ready, or it enters, or its event is the only one.
  cases enabled with
  | enter =>
    have some_free := room rfl
    simp [next?, urgent?, canEnter, single, SchedulePolicy.ready?, SchedulePolicy.event?,
      CaseStage.isQueued, some_free]
  | wake inTime => exact next?_of_event single (SchedulePolicy.event?_wake inTime)
  | expire limited tooLate => exact next?_of_event single (SchedulePolicy.event?_expire limited tooLate)
  | check => simp [next?, urgent?, single, SchedulePolicy.ready?]
  | start => simp [next?, urgent?, single, SchedulePolicy.ready?]
  | announce => simp [next?, urgent?, single, SchedulePolicy.ready?]
  | leave => simp [next?, urgent?, single, SchedulePolicy.ready?]

/-- A schedule of one case that can move is run by making that move first. -/
theorem finish_of_single (single : schedule.slots = [⟨case, stage⟩])
    (enabled : Enabled plan.policy stage act) (room : act = .enter → 0 < schedule.free) (bound : Nat) :
    schedule.finish plan (bound + 1) = (schedule.apply plan ⟨0, act⟩).finish plan bound := by
  -- A case that can move is not over.
  have unfinished : schedule.isOver = false := by
    cases enabled <;> simp [isOver, single, CaseStage.isOver]
  exact finish_of_next? unfinished (next?_of_single single enabled room) bound

end Schedule

/-- Nothing is replied to a case that neither starts nor goes on. -/
theorem Listener.hear_eq_nil (listener : Listener σ ρ κ) (plan : SchedulePlan σ ρ)
    (schedule : Schedule σ ρ) {place : Nat} {act : Act} (noStart : act ≠ .start) (noWake : act ≠ .wake) :
    listener.hear plan schedule ⟨place, act⟩ = [] := by
  -- Collaborators are asked in no other move.
  unfold hear
  split
  · next starts => exact absurd starts noStart
  · next wakes => exact absurd wakes noWake
  · rfl

/-- A plan to reenact the cases of another on replies alone, within the same time. -/
structure Counterpart (plan : SchedulePlan σ ρ) (listener : Listener σ ρ κ)
    (lone : SchedulePlan (List κ) τ) (Alike : Duration → Duration → ρ → τ → Prop) : Prop where
  reenactment : Reenactment plan.backend listener lone.backend Alike
  environment : lone.environment = plan.environment
  limit : lone.policy.limit = plan.policy.limit

section Mirroring

variable {Alike : Duration → Duration → ρ → τ → Prop} {plan : SchedulePlan σ ρ}
  {listener : Listener σ ρ κ} {lone : SchedulePlan (List κ) τ} {schedule after : Schedule σ ρ}
  {place : Nat} {case : TestCase} {stage : CaseStage ρ} {act : Act}

/-- What a stage enables under a limit, the same stage of another case enables under the same limit. -/
theorem Enabled.of_matches {policy other : SchedulePolicy} (sameLimit : other.limit = policy.limit)
    {own : CaseStage τ} (enabled : Enabled policy stage act) (same : stage.Matches Alike own) :
    Enabled other own act := by
  -- Only the two ends of a wait depend on times, and on those since the start.
  cases enabled with
  | enter =>
    cases same
    exact .enter
  | check =>
    cases same
    exact .check
  | start =>
    cases same
    exact .start
  | wake inTime =>
    cases same with
    | waiting began later elapsed alike =>
      refine .wake fun limit limited => ?_
      have before := inTime limit (sameLimit ▸ limited)
      rw [Duration.add_le_add_left_iff] at before ⊢
      exact before
  | @expire began limit wait limited tooLate =>
    cases same with
    | endless began later => exact .expire (sameLimit.trans limited) (by rintro _ _ ⟨⟩)
    | waiting began later elapsed alike =>
      refine .expire (sameLimit.trans limited) ?_
      rintro _ _ ⟨⟩
      have behind := tooLate _ _ rfl
      rw [Duration.add_le_add_left_iff] at behind ⊢
      exact behind
  | announce =>
    cases same
    exact .announce
  | leave =>
    cases same
    exact .leave

/-- A case starts alone on its own replies and comes to the same point, or fails to load in the same way. -/
theorem Counterpart.startCase (counterpart : Counterpart plan listener lone Alike)
    (found : schedule.slots[place]? = some ⟨case, .cleared⟩) (later : Duration) (rest : List κ) :
    ∃ progress,
      lone.startCase case later (listener.hear plan schedule ⟨place, .start⟩ ++ rest) = (progress, rest) ∧
        (plan.startCase case schedule.now schedule.world).1.Matches (Alike schedule.now later)
          progress := by
  -- Loading asks nobody.
  have environment := counterpart.environment
  cases loaded : case.source.load plan.environment with
  | error error =>
    refine ⟨.finished (.aborted case.name error Duration.zero), ?_, ?_⟩
    · simp [SchedulePlan.startCase, Listener.hear, found, loaded, environment]
    · simpa [SchedulePlan.startCase, loaded] using Progress.Matches.finished _
  | ok definition =>
    have started := counterpart.reenactment.start definition schedule.now later schedule.world rest
    simpa [SchedulePlan.startCase, Listener.hear, found, loaded, environment] using started

/-- A schedule of a case alone, which stands at the same stage with the replies that are yet to come to it. -/
structure Mirrors (Alike : Duration → Duration → ρ → τ → Prop) (case : TestCase) (stage : CaseStage ρ)
    (replies : List κ) (alone : Schedule (List κ) τ) : Prop where
  slots : ∃ own, alone.slots = [⟨case, own⟩] ∧ stage.Matches Alike own
  room : stage.isQueued = true → 0 < alone.free
  unhalted : stage.isPast = false → alone.halted = false
  world : alone.world = replies

section Cases

variable {own : CaseStage τ} {alone afterAlone : Schedule (List κ) τ} {rest : List κ}

/-- A case past its start is mirrored where it stands alone at the same stage, with the replies that are yet to come. -/
private theorem Mirrors.of_past (slots : alone.slots = [⟨case, own⟩]) (same : stage.Matches Alike own)
    (past : stage.isPast = true) (world : alone.world = rest) : Mirrors Alike case stage rest alone := by
  -- It is not in line, and failures cannot stop it any more.
  refine ⟨⟨own, slots, same⟩, fun queued => ?_, by simp [past], world⟩
  cases same <;> simp [CaseStage.isQueued, CaseStage.isPast] at queued past

variable (slots : alone.slots = [⟨case, own⟩])

include slots

/-- The only case of a schedule stands at the stage to which it is put. -/
private theorem slots_put (next : CaseStage τ) : (alone.put 0 case next).slots = [⟨case, next⟩] := by
  -- Its place is the first.
  simp [Schedule.put, slots]

/-- A case that is admitted in a suite is admitted alone. -/
private theorem Mirrors.enter (same : CaseStage.Matches Alike .queued own)
    (unhalted : alone.halted = false) (world : alone.world = rest)
    (moved : Moved lone alone 0 case own .enter afterAlone) :
    Mirrors Alike case .admitted rest afterAlone := by
  -- Only the number of free slots changes besides the stage.
  cases same
  cases moved
  exact ⟨⟨_, slots_put slots _, .admitted⟩, by simp [CaseStage.isQueued], fun _ => unhalted, world⟩

/-- A case that is not skipped in a suite is not skipped alone. -/
private theorem Mirrors.clear (same : CaseStage.Matches Alike .admitted own)
    (unhalted : alone.halted = false) (world : alone.world = rest)
    (moved : Moved lone alone 0 case own .check afterAlone) :
    Mirrors Alike case .cleared rest afterAlone := by
  -- Nothing has stopped a schedule whose only case has not started.
  cases same
  cases moved with
  | skip halted => simp [unhalted] at halted
  | clear _ =>
    exact ⟨⟨_, slots_put slots _, .cleared⟩, by simp [CaseStage.isQueued], fun _ => unhalted, world⟩

/-- A case that starts in a suite comes to the same stage when it starts alone on the replies to it. -/
private theorem Mirrors.start (counterpart : Counterpart plan listener lone Alike)
    (found : schedule.slots[place]? = some ⟨case, .cleared⟩) {progress : Progress ρ} {world : σ}
    (started : plan.startCase case schedule.now schedule.world = (progress, world))
    (same : CaseStage.Matches Alike .cleared own)
    (heard : alone.world = listener.hear plan schedule ⟨place, .start⟩ ++ rest)
    (moved : Moved lone alone 0 case own .start afterAlone) :
    Mirrors Alike case (plan.policy.settle case schedule.now schedule.now progress) rest afterAlone := by
  -- The replies to the start are used up by it.
  obtain ⟨progressAlone, startedAlone, matched⟩ := counterpart.startCase found alone.now rest
  cases same
  cases moved with
  | start ran =>
    rw [heard, startedAlone] at ran
    cases ran
    rw [started] at matched
    have settled := SchedulePolicy.settle_matches counterpart.limit case schedule.now alone.now
      Duration.zero matched
    simp only [Duration.add_zero] at settled
    exact .of_past (slots_put slots _) settled (by simp) rfl

/-- A case that goes on after a wait in a suite comes to the same stage when it goes on alone on the replies to it. -/
private theorem Mirrors.wake (counterpart : Counterpart plan listener lone Alike) {began due : Duration}
    {run : ρ} (found : schedule.slots[place]? = some ⟨case, .active began (some (due, run))⟩)
    {progress : Progress ρ} {world : σ}
    (resumed : plan.backend.resume run due schedule.world = (progress, world))
    (same : CaseStage.Matches Alike (.active began (some (due, run))) own)
    (heard : alone.world = listener.hear plan schedule ⟨place, .wake⟩ ++ rest)
    (moved : Moved lone alone 0 case own .wake afterAlone) :
    Mirrors Alike case (plan.policy.settle case began due progress) rest afterAlone := by
  -- Both waits end as long after the start, and the replies after them are used up.
  cases same with
  | waiting _ later elapsed alike =>
    obtain ⟨progressAlone, resumedAlone, matched⟩ :=
      counterpart.reenactment.resume began later elapsed run _ schedule.world rest alike
    have replies : listener.hear plan schedule ⟨place, .wake⟩ =
        listener.resume run (began + elapsed) schedule.world := by
      simp only [Listener.hear, found]
    cases moved with
    | wake _ ran =>
      rw [heard, replies, resumedAlone] at ran
      cases ran
      rw [resumed] at matched
      have settled := SchedulePolicy.settle_matches counterpart.limit case began later elapsed matched
      exact .of_past (slots_put slots _) settled (by simp) rfl

/-- A case that runs out of time in a suite runs out of as much time alone. -/
private theorem Mirrors.expire (sameLimit : lone.policy.limit = plan.policy.limit)
    {began limit : Duration} {wait : Option (Duration × ρ)} (limited : plan.policy.limit = some limit)
    (same : CaseStage.Matches Alike (.active began wait) own) (world : alone.world = rest)
    (moved : Moved lone alone 0 case own .expire afterAlone) :
    Mirrors Alike case (.returned (case.timeoutResult limit limit)) rest afterAlone := by
  -- Both have the same limit, with or without an end of the wait.
  cases same <;> cases moved with
  | expire limitedAlone _ =>
    rw [sameLimit, limited] at limitedAlone
    cases limitedAlone
    exact .of_past (slots_put slots _) (.returned _) rfl world

/-- A case whose report is told in a suite has the same report told alone. -/
private theorem Mirrors.announce {result : PipelineResult}
    (same : CaseStage.Matches Alike (.returned result) own) (world : alone.world = rest)
    (moved : Moved lone alone 0 case own .announce afterAlone) :
    Mirrors Alike case (.leaving result) rest afterAlone := by
  -- A failure may halt the schedule, which has no other case.
  cases same
  cases moved
  exact .of_past (slots_put slots _) (.leaving _) rfl world

/-- A case that hands over its report in a suite hands it over alone. -/
private theorem Mirrors.leave {result : PipelineResult}
    (same : CaseStage.Matches Alike (.leaving result) own) (world : alone.world = rest)
    (moved : Moved lone alone 0 case own .leave afterAlone) :
    Mirrors Alike case (.reported result) rest afterAlone := by
  -- Its slot is free again.
  cases same
  cases moved
  exact .of_past (slots_put slots _) (.reported _) rfl world

end Cases

/-- A schedule of a case alone can make the move that the case makes in a suite, and then makes it first. -/
private theorem Mirrors.moved {policy : SchedulePolicy} (sameLimit : lone.policy.limit = policy.limit)
    (enabled : Enabled policy stage act) {replies : List κ} {alone : Schedule (List κ) τ}
    (mirrors : Mirrors Alike case stage replies alone) :
    ∃ own, alone.slots = [⟨case, own⟩] ∧ stage.Matches Alike own ∧
      Moved lone alone 0 case own act (alone.apply lone ⟨0, act⟩) ∧
      ∀ bound, alone.finish lone (bound + 1) = (alone.apply lone ⟨0, act⟩).finish lone bound := by
  -- A case that enters in the suite is in line alone as well, where a slot is free for it.
  obtain ⟨own, slots, same⟩ := mirrors.slots
  have enabledAlone := enabled.of_matches sameLimit same
  have room : act = .enter → 0 < alone.free := by
    rintro rfl
    cases enabled
    exact mirrors.room rfl
  exact ⟨own, slots, same, Schedule.moved_of_enabled (by simp [slots]) enabledAlone room,
    Schedule.finish_of_single slots enabledAlone room⟩

/-- A case that moves in a suite, and is not skipped, moves in the same way alone. -/
theorem Mirrors.step (counterpart : Counterpart plan listener lone Alike)
    (found : schedule.slots[place]? = some ⟨case, stage⟩)
    (moved : Moved plan schedule place case stage act after)
    (unskipped : act = .check → after.slots[place]? = some ⟨case, .cleared⟩)
    {alone : Schedule (List κ) τ} {rest : List κ}
    (mirrors : Mirrors Alike case stage (listener.hear plan schedule ⟨place, act⟩ ++ rest) alone) :
    ∃ next, after.slots[place]? = some ⟨case, next⟩ ∧
      Mirrors Alike case next rest (alone.apply lone ⟨0, act⟩) ∧
      ∀ bound, alone.finish lone (bound + 1) = (alone.apply lone ⟨0, act⟩).finish lone bound := by
  -- The only case of the other schedule makes the same move.
  obtain ⟨own, slots, same, movedAlone, finish⟩ := mirrors.moved counterpart.limit moved.enabled
  have inside := (List.getElem?_eq_some_iff.1 found).1
  have put (next : CaseStage ρ) : (schedule.slots.set place ⟨case, next⟩)[place]? = some ⟨case, next⟩ := by
    simp [inside]
  have quiet (noStart : act ≠ .start) (noWake : act ≠ .wake) : alone.world = rest := by
    rw [mirrors.world, listener.hear_eq_nil plan schedule noStart noWake, List.nil_append]
  cases moved with
  | enter _ =>
    have world := quiet (by simp) (by simp)
    exact ⟨_, put _, .enter slots same (mirrors.unhalted rfl) world movedAlone, finish⟩
  | skip halted =>
    have cleared := unskipped rfl
    rw [Schedule.put, put] at cleared
    cases cleared
  | clear _ =>
    have world := quiet (by simp) (by simp)
    exact ⟨_, put _, .clear slots same (mirrors.unhalted rfl) world movedAlone, finish⟩
  | start started =>
    exact ⟨_, put _, .start slots counterpart found started same mirrors.world movedAlone, finish⟩
  | wake _ resumed =>
    exact ⟨_, put _, .wake slots counterpart found resumed same mirrors.world movedAlone, finish⟩
  | expire limited _ =>
    have world := quiet (by simp) (by simp)
    exact ⟨_, put _, .expire slots counterpart.limit limited same world movedAlone, finish⟩
  | announce =>
    have world := quiet (by simp) (by simp)
    exact ⟨_, put _, .announce slots same world movedAlone, finish⟩
  | leave =>
    have world := quiet (by simp) (by simp)
    exact ⟨_, put _, .leave slots same world movedAlone, finish⟩

variable {ended : Schedule σ ρ} {moves : List Move}

/-- A case that is started in a suite, whatever the order of moves, comes alone to the same stage on its own replies. -/
theorem Mirrors.follow (counterpart : Counterpart plan listener lone Alike)
    (followed : schedule.follow plan moves = some ended)
    (found : schedule.slots[place]? = some ⟨case, stage⟩)
    (starts : stage.isPast = false → ⟨place, .start⟩ ∈ moves)
    {alone : Schedule (List κ) τ} {rest : List κ}
    (mirrors : Mirrors Alike case stage (listener.overhear plan place moves schedule ++ rest) alone) :
    ∃ final own used, ended.slots[place]? = some ⟨case, final⟩ ∧ Mirrors Alike case final rest own ∧
      ∀ bound, alone.finish lone (used + bound) = own.finish lone bound := by
  -- Its own moves are made alone as well, and all others leave it alone.
  induction moves generalizing schedule stage alone with
  | nil =>
    cases followed
    refine ⟨stage, alone, 0, found, by simpa [Listener.overhear] using mirrors, fun bound => ?_⟩
    rw [Nat.zero_add]
  | cons move others ih =>
    obtain ⟨permitted, following⟩ := Schedule.follow_cons followed
    obtain ⟨own, current, at_place, moved⟩ := Schedule.moved_of_permits permitted
    have remains (different : (⟨place, .start⟩ : Move) ≠ move) (waiting : stage.isPast = false) :
        ⟨place, .start⟩ ∈ others :=
      (List.mem_cons.1 (starts waiting)).resolve_left different
    by_cases same : move.place = place
    · obtain ⟨at_own, act⟩ := move
      obtain rfl : at_own = place := same
      rw [found] at at_place
      cases at_place
      rw [Listener.overhear, if_pos rfl, List.append_assoc] at mirrors
      have unskipped (checks : act = .check) := by
        have waiting : stage.isPast = false := by
          have enabled := moved.enabled
          subst checks
          cases enabled
          rfl
        exact moved.unskipped found following (remains (by simp [checks]) waiting) checks
      obtain ⟨next, foundNext, mirrorsNext, first⟩ := mirrors.step counterpart found moved unskipped
      have startsNext (waitingNext : next.isPast = false) : ⟨at_own, .start⟩ ∈ others := by
        have notPast : ¬(act = .start ∨ stage.isPast = true) := by
          intro past
          obtain ⟨other, foundOther, pastOther⟩ := moved.isPast found past
          rw [foundNext] at foundOther
          cases foundOther
          rw [waitingNext] at pastOther
          cases pastOther
        simp only [not_or, Bool.not_eq_true] at notPast
        exact remains (by simpa using Ne.symm notPast.1) notPast.2
      obtain ⟨final, own, used, foundFinal, mirrorsFinal, later⟩ :=
        ih following foundNext startsNext mirrorsNext
      refine ⟨final, own, used + 1, foundFinal, mirrorsFinal, fun bound => ?_⟩
      rw [← later, Nat.add_right_comm, first]
    · have untouched := (moved.elsewhere same).trans found
      rw [Listener.overhear, if_neg same, List.nil_append] at mirrors
      refine ih following untouched (remains ?_) mirrors
      rintro rfl
      exact same rfl

end Mirroring

end PipelineTrial
