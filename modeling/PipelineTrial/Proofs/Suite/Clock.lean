import PipelineTrial.Proofs.Duration
import PipelineTrial.Proofs.Suite.Slots

/-! Time passes in a schedule only when nothing else can happen, and never beyond the next event. -/

namespace PipelineTrial

variable {σ ρ : Type}

namespace SchedulePolicy

variable {policy : SchedulePolicy} {stage : CaseStage ρ} {act : Act} {now time began : Duration}

/-- A case with an event is ready for it from the time of the event on. -/
theorem ready?_of_event? (event : policy.event? stage = some (time, act)) :
    policy.ready? now stage = if time ≤ now then some act else none := by
  -- Only an active case has an event.
  cases stage with
  | active began wait => simp only [ready?, event]
  | _ => cases event

/-- A case that has nothing to do at once is in line, active or done with. -/
theorem cases_of_ready?_eq_none (rests : policy.ready? now stage = none) :
    stage.isQueued = true ∨ (∃ began wait, stage = .active began wait) ∨ stage.isOver = true := by
  -- At every other stage there is something to do.
  cases stage with
  | queued => exact .inl rfl
  | active began wait => exact .inr (.inl ⟨began, wait, rfl⟩)
  | reported _ => exact .inr (.inr rfl)
  | dead => exact .inr (.inr rfl)
  | _ => cases rests

/-- Under a limit every active case has an event, at its deadline at the latest. -/
theorem event?_of_limit {limit : Duration} (limited : policy.limit = some limit) (began : Duration)
    (wait : Option (Duration × ρ)) :
    ∃ time act, policy.event? (.active began wait) = some (time, act) ∧ time ≤ began + limit := by
  -- The end of a wait counts only when it comes no later than the deadline.
  by_cases waits : ∃ due run, wait = some (due, run) ∧ due ≤ began + limit
  · obtain ⟨due, run, rfl, inTime⟩ := waits
    refine ⟨due, .wake, event?_wake fun other same => ?_, inTime⟩
    rw [limited] at same
    cases same
    exact inTime
  · refine ⟨began + limit, .expire, event?_expire limited fun due run waiting inTime => ?_, Nat.le_refl _⟩
    exact waits ⟨due, run, waiting, inTime⟩

/-- The event of an active case comes no earlier than a time that neither its wait nor its deadline comes before. -/
theorem le_event?_active {wait : Option (Duration × ρ)}
    (ahead : ∀ due run, wait = some (due, run) → now ≤ due)
    (inTime : ∀ limit, policy.limit = some limit → now ≤ began + limit)
    (event : policy.event? (.active began wait) = some (time, act)) : now ≤ time := by
  -- The event is one of the two.
  cases enabled_of_event? event with
  | wake early =>
    rw [event?_wake early] at event
    cases event
    exact ahead _ _ rfl
  | expire limited late =>
    rw [event?_expire limited late] at event
    cases event
    exact inTime _ limited

/-- A case that has moved on in time has no event in the past. -/
theorem le_event?_settle {case : TestCase} {progress : Progress ρ}
    (inTime : ∀ limit, policy.limit = some limit → now ≤ began + limit)
    (event : policy.event? (policy.settle case began now progress) = some (time, act)) : now ≤ time := by
  -- A wait does not end before it began, and a case whose time is up does not wait.
  have paused (wait : Option (Duration × ρ)) (ahead : ∀ due run, wait = some (due, run) → now ≤ due)
      (event : policy.event? (policy.pause case began now wait) = some (time, act)) : now ≤ time := by
    unfold pause at event
    split at event
    · exact le_event?_active ahead inTime event
    · split at event
      · cases event
      · exact le_event?_active ahead inTime event
  cases progress with
  | finished result => cases event
  | crashed => cases event
  | stalled => exact paused none (by simp) event
  | waiting delay run =>
    simp only [settle] at event
    split at event
    · refine le_event?_active ?_ inTime event
      rintro _ _ ⟨⟩
      exact Nat.le_refl _
    · refine paused _ ?_ event
      rintro _ _ ⟨⟩
      exact Nat.le_add_right _ _

/-- A case that has moved on began when it did before. -/
theorem began_of_settle {case : TestCase} {progress : Progress ρ} {since : Duration}
    {wait : Option (Duration × ρ)} (active : policy.settle case began now progress = .active since wait) :
    since = began := by
  -- It waits since it began, or does not wait.
  have paused (later : Option (Duration × ρ)) (active : policy.pause case began now later = .active since wait) :
      since = began := by
    unfold pause at active
    split at active
    · cases active
      rfl
    · split at active
      · cases active
      · cases active
        rfl
  cases progress with
  | finished result => cases active
  | crashed => cases active
  | stalled => exact paused none active
  | waiting delay run =>
    simp only [settle] at active
    split at active
    · cases active
      rfl
    · exact paused _ active

end SchedulePolicy

section Moves

variable {plan : SchedulePlan σ ρ} {schedule after : Schedule σ ρ} {place : Nat} {case : TestCase}
  {stage : CaseStage ρ} {act : Act}

/-- A move takes a case with an event to the time of the event, and any other move takes no time. -/
theorem Moved.now (moved : Moved plan schedule place case stage act after) :
    (plan.policy.event? stage = none ∧ after.now = schedule.now) ∨
      plan.policy.event? stage = some (after.now, act) := by
  -- The two ends of a wait are the only events.
  cases moved with
  | wake inTime _ => exact .inr (SchedulePolicy.event?_wake inTime)
  | expire limited tooLate => exact .inr (SchedulePolicy.event?_expire limited tooLate)
  | _ => exact .inl ⟨rfl, rfl⟩

end Moves

namespace Schedule

variable {plan : SchedulePlan σ ρ} {schedule ended : Schedule σ ρ} {move : Move}

/-- Nothing can be done at once in an idle schedule, and no case waits for a free slot. -/
theorem of_isIdle {policy : SchedulePolicy} (idle : schedule.isIdle policy = true) :
    (∀ slot ∈ schedule.slots, policy.ready? schedule.now slot.stage = none) ∧
      (schedule.free = 0 ∨ ∀ slot ∈ schedule.slots, slot.stage.isQueued = false) := by
  -- No move is urgent, and no case can enter.
  simp only [isIdle, canEnter, Bool.and_eq_true, Option.isNone_iff_eq_none, Bool.not_eq_true',
    Bool.and_eq_false_iff, decide_eq_false_iff_not, Nat.not_lt, Nat.le_zero, List.any_eq_false,
    Bool.not_eq_true] at idle
  refine ⟨fun slot member => ?_, idle.2⟩
  obtain ⟨place, found⟩ := List.getElem?_of_mem member
  have calm := List.findSome?_eq_none_iff.1 idle.1 (slot, place) (List.mem_zipIdx_iff_getElem?.2 found)
  exact Option.map_eq_none_iff.1 calm

/-- The event of a case that moves has come, or time passes to it because no other event comes before it. -/
theorem due_of_permits {policy : SchedulePolicy} {case : TestCase} {stage : CaseStage ρ} {time : Duration}
    (permitted : schedule.permits policy move)
    (found : schedule.slots[move.place]? = some ⟨case, stage⟩)
    (event : policy.event? stage = some (time, move.act)) :
    time ≤ schedule.now ∨ (schedule.isIdle policy = true ∧
      ∀ slot ∈ schedule.slots, ∀ later act, policy.event? slot.stage = some (later, act) → time ≤ later) := by
  -- A case with an event is not in line, so two of the three reasons for a move remain.
  have unqueued : stage.isQueued = false := by
    cases stage with
    | queued => cases event
    | _ => rfl
  simp only [permits, found, SchedulePolicy.ready?_of_event? event, comesNext, event, unqueued,
    Bool.and_false, Bool.false_and, Bool.or_false, Bool.or_eq_true, Bool.and_eq_true, beq_iff_eq] at permitted
  obtain come | ⟨idle, _, first⟩ := permitted
  · split at come
    · next early => exact .inl early
    · cases come
  · refine .inr ⟨idle, fun slot member later act other => ?_⟩
    obtain ⟨place, at_place⟩ := List.getElem?_of_mem member
    have listed : (place, later, act) ∈ schedule.events policy :=
      List.mem_filterMap.2 ⟨(slot, place), List.mem_zipIdx_iff_getElem?.2 at_place, by simp [other]⟩
    simpa using List.all_eq_true.1 first _ listed

end Schedule

/-- No active case began in the future, and no event of a case lies in the past. -/
structure Timely (policy : SchedulePolicy) (schedule : Schedule σ ρ) : Prop where
  began : ∀ slot ∈ schedule.slots, ∀ began wait, slot.stage = .active began wait → began ≤ schedule.now
  ahead : ∀ slot ∈ schedule.slots, ∀ time act,
    policy.event? slot.stage = some (time, act) → schedule.now ≤ time

/-- Time can pass in a schedule to a later time: no event comes before, and nothing else can happen. -/
structure Passes (policy : SchedulePolicy) (schedule : Schedule σ ρ) (later : Duration) : Prop where
  onward : schedule.now ≤ later
  idle : later = schedule.now ∨ schedule.isIdle policy = true
  first : ∀ slot ∈ schedule.slots, ∀ time act, policy.event? slot.stage = some (time, act) → later ≤ time

namespace Timely

variable {plan : SchedulePlan σ ρ} {schedule ended : Schedule σ ρ} {move : Move} {moves : List Move}

/-- A possible move comes when time has passed to it. -/
theorem passes (timely : Timely plan.policy schedule) (permitted : schedule.permits plan.policy move) :
    Passes plan.policy schedule (schedule.apply plan move).now := by
  -- An event that has come does not lie in the past, so it comes now.
  obtain ⟨case, stage, found, moved⟩ := Schedule.moved_of_permits permitted
  obtain ⟨_, still⟩ | event := moved.now
  · rw [still]
    exact ⟨Nat.le_refl _, .inl rfl, timely.ahead⟩
  · have ahead := timely.ahead _ (List.mem_of_getElem? found) _ _ event
    obtain come | ⟨idle, first⟩ := Schedule.due_of_permits permitted found event
    · have same : (schedule.apply plan move).now = schedule.now := Duration.ext (Nat.le_antisymm come ahead)
      rw [same]
      exact ⟨Nat.le_refl _, .inl rfl, timely.ahead⟩
    · exact ⟨ahead, .inr idle, first⟩

/-- No time has passed while all cases are in line. -/
theorem ofCases (policy : SchedulePolicy) (cases : List TestCase) (now : Duration) (world : σ) :
    Timely policy (Schedule.ofCases policy cases now world : Schedule σ ρ) := by
  -- No case is active.
  constructor <;> intro slot member
  · intro began wait active
    obtain ⟨case, _, rfl⟩ := List.mem_map.1 member
    cases active
  · intro time act event
    obtain ⟨case, _, rfl⟩ := List.mem_map.1 member
    cases event

/-- After a move that time has passed to, no event lies in the past. -/
theorem apply (timely : Timely plan.policy schedule) (permitted : schedule.permits plan.policy move) :
    Timely plan.policy (schedule.apply plan move) := by
  -- Other cases keep their events, and the one that moves gets one that is to come.
  have passes := timely.passes permitted
  obtain ⟨place, act⟩ := move
  obtain ⟨case, stage, found, moved⟩ := Schedule.moved_of_permits permitted
  replace found : schedule.slots[place]? = some ⟨case, stage⟩ := found
  have inside := List.mem_of_getElem? found
  generalize schedule.apply plan ⟨place, act⟩ = after at moved passes ⊢
  have put (next : CaseStage ρ) (slots : after.slots = schedule.slots.set place ⟨case, next⟩)
      (began : ∀ began wait, next = .active began wait → began ≤ after.now)
      (ahead : ∀ time act, plan.policy.event? next = some (time, act) → after.now ≤ time) :
      Timely plan.policy after := by
    constructor <;> intro slot member <;> rw [slots] at member <;>
      obtain earlier | rfl := List.mem_or_eq_of_mem_set member
    · exact fun since wait active => Nat.le_trans (timely.began slot earlier since wait active) passes.onward
    · exact began
    · exact passes.first slot earlier
    · exact ahead
  have settled (began : Duration) (progress : Progress ρ)
      (slots : after.slots =
        schedule.slots.set place ⟨case, plan.policy.settle case began after.now progress⟩)
      (before : began ≤ after.now)
      (inTime : ∀ limit, plan.policy.limit = some limit → after.now ≤ began + limit) :
      Timely plan.policy after := by
    refine put _ slots (fun since wait active => ?_) fun time act event => ?_
    · rw [SchedulePolicy.began_of_settle active]
      exact before
    · exact SchedulePolicy.le_event?_settle inTime event
  cases moved with
  | start _ => exact settled schedule.now _ rfl (Nat.le_refl _) fun limit _ => Nat.le_add_right _ _
  | @wake began due run progress world inTime _ =>
    exact settled began progress rfl
      (Nat.le_trans (timely.began _ inside began _ rfl) passes.onward) inTime
  | _ => exact put _ rfl (by rintro _ _ ⟨⟩) (by rintro _ _ ⟨⟩)

/-- No event lies in the past after moves in any order. -/
theorem follow {cases : List TestCase} {now : Duration} {world : σ}
    (followed : (Schedule.ofCases plan.policy cases now world).follow plan moves = some ended) :
    Timely plan.policy ended :=
  -- Each move keeps it so.
  Schedule.follow_induction (fun _ middle => Timely plan.policy middle) (ofCases _ cases now world)
    (fun _ _ _ _ timely permitted => timely.apply permitted) followed

end Timely

end PipelineTrial
