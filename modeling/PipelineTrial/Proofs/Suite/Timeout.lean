import PipelineTrial.Proofs.Run.Deadline
import PipelineTrial.Proofs.Suite.Isolation

/-! A time limit changes nothing about a run that ends within it, and cuts every other run off at the deadline. -/

namespace PipelineTrial

/-- A schedule comes to another by the moves that it makes next. -/
inductive Schedule.ComesTo {σ ρ : Type} (plan : SchedulePlan σ ρ) : Schedule σ ρ → Schedule σ ρ → Prop where
  | here {schedule : Schedule σ ρ} : ComesTo plan schedule schedule
  | move {schedule last : Schedule σ ρ} {move : Move} (unfinished : schedule.isOver = false)
      (next : schedule.next? plan.policy = some move) (further : ComesTo plan (schedule.apply plan move) last) :
      ComesTo plan schedule last

/-- How the run of a case ends when the case comes no further than a stage. -/
def CaseStage.ending {ρ : Type} : CaseStage ρ → Ending
  | .reported result => .reported result
  | .dead => .crashed
  | _ => .stalled

/-- A schedule of one case comes to where nothing can happen, at some time and with the case at an ending. -/
def Schedule.EndsAs {σ ρ : Type} (plan : SchedulePlan σ ρ) (schedule : Schedule σ ρ) (case : TestCase)
    (ending : Ending) (finished : Duration) (after : σ) : Prop :=
  -- The case is done with, or it waits forever.
  ∃ last stage, schedule.ComesTo plan last ∧ last.next? plan.policy = none ∧ last.slots = [⟨case, stage⟩] ∧
    stage.ending = ending ∧ last.now = finished ∧ last.world = after

namespace SchedulePlan

variable {σ ρ : Type}

/-- The same plan with another limit on the time of each case. -/
def withLimit (plan : SchedulePlan σ ρ) (limit : Option Duration) : SchedulePlan σ ρ :=
  -- Slots and failures count as before.
  { plan with policy := { plan.policy with limit := limit } }

/-- A case that runs alone under a plan ends in some way, at some time, and leaves the collaborators in some state. -/
def EndsAlone (plan : SchedulePlan σ ρ) (case : TestCase) (now : Duration) (world : σ) (ending : Ending)
    (finished : Duration) (after : σ) : Prop :=
  -- It is the only case in line.
  (Schedule.ofCases plan.policy [case] now world).EndsAs plan case ending finished after

/-- The run of a case ends in some way, at some time, when nothing cuts it short. -/
def CaseEnds (plan : SchedulePlan σ ρ) (case : TestCase) (now : Duration) (world : σ) (ending : Ending)
    (finished : Duration) (after : σ) : Prop :=
  -- No limit has a part in this.
  plan.backend.Ends (plan.startCase case now world).1 now (plan.startCase case now world).2 ending finished after

/-- The run of a case is not over at a deadline, by which it has left the collaborators in some state. -/
def CaseOutlasts (plan : SchedulePlan σ ρ) (case : TestCase) (now : Duration) (world : σ) (deadline : Duration)
    (left : σ) : Prop :=
  -- The deadline is a time, whatever the limits of the plan are.
  plan.backend.Outlasts deadline (plan.startCase case now world).1 now (plan.startCase case now world).2 left

end SchedulePlan

section Moves

variable {σ ρ : Type} {plan : SchedulePlan σ ρ} {schedule last : Schedule σ ρ} {case : TestCase}
  {stage : CaseStage ρ} {act : Act} {ending : Ending} {finished began limit : Duration} {after : σ}

namespace Schedule

/-- A schedule that comes to one that is over is run to that one, within any bound that is large enough. -/
theorem ComesTo.finish_of_isOver (comes : schedule.ComesTo plan last) (allOver : last.isOver = true) :
    ∃ enough, ∀ bound, enough ≤ bound → schedule.finish plan bound = some last := by
  -- Each move takes one off the bound.
  induction comes with
  | here => exact ⟨0, fun bound _ => Schedule.finish_of_isOver allOver bound⟩
  | move unfinished next _ ih =>
    obtain ⟨enough, ends⟩ := ih allOver
    refine ⟨enough + 1, fun bound within => ?_⟩
    obtain ⟨fewer, rfl⟩ : ∃ fewer, bound = fewer + 1 := ⟨bound - 1, by omega⟩
    rw [finish_of_next? unfinished next]
    exact ends fewer (by omega)

/-- A schedule that comes to one in which nothing can happen although it is not over is never run to an end. -/
theorem ComesTo.finish_of_stuck (comes : schedule.ComesTo plan last) (unfinished : last.isOver = false)
    (stuck : last.next? plan.policy = none) (bound : Nat) : schedule.finish plan bound = none := by
  -- By induction on the moves: each takes one of the bound, and at the end there is none to take.
  induction comes generalizing bound with
  | here =>
    unfold finish
    simp [unfinished, stuck]
  | move going next _ ih =>
    cases bound with
    | zero =>
      unfold finish
      simp [going]
    | succ bound =>
      rw [finish_of_next? going next]
      exact ih unfinished stuck bound

/-- A schedule of one case that can move ends as it does after the move. -/
theorem EndsAs.of_move (single : schedule.slots = [⟨case, stage⟩]) (enabled : Enabled plan.policy stage act)
    (room : act = .enter → 0 < schedule.free)
    (ends : (schedule.apply plan ⟨0, act⟩).EndsAs plan case ending finished after) :
    schedule.EndsAs plan case ending finished after := by
  -- A case that can move is not over.
  have unfinished : schedule.isOver = false := by
    cases enabled <;> simp [isOver, single, CaseStage.isOver]
  obtain ⟨last, final, comes, rest⟩ := ends
  exact ⟨last, final, .move unfinished (next?_of_single single enabled room) comes, rest⟩

/-- A case that is done with has ended. -/
theorem endsAs_of_isOver (single : schedule.slots = [⟨case, stage⟩]) (done : stage.isOver = true) :
    schedule.EndsAs plan case stage.ending schedule.now schedule.world := by
  -- It neither moves nor is in line.
  have still : schedule.next? plan.policy = none := by
    cases stage <;>
      simp_all [next?, urgent?, canEnter, events, earliest?, SchedulePolicy.ready?, SchedulePolicy.event?,
        CaseStage.isOver, CaseStage.isQueued]
  exact ⟨schedule, stage, .here, still, single, rfl, rfl, rfl⟩

/-- A case whose run has returned is reported at that time. -/
theorem endsAs_of_returned {result : PipelineResult} (single : schedule.slots = [⟨case, .returned result⟩]) :
    schedule.EndsAs plan case (.reported result) schedule.now schedule.world := by
  -- It announces its report and leaves.
  have announced : (schedule.apply plan ⟨0, .announce⟩).slots = [⟨case, .leaving result⟩] := by
    simp [apply, single, put]
  have left : ((schedule.apply plan ⟨0, .announce⟩).apply plan ⟨0, .leave⟩).slots = [⟨case, .reported result⟩] := by
    simp [apply, single, put]
  refine .of_move single .announce (by simp) (.of_move announced .leave (by simp) ?_)
  have reported : EndsAs plan _ case _ _ _ := endsAs_of_isOver left rfl
  simpa [apply, single, put, CaseStage.ending] using reported

/-- A run that waits forever under no limit has come to its end. -/
theorem endsAs_of_endless (unlimited : plan.policy.limit = none)
    (single : schedule.slots = [⟨case, .active began none⟩]) :
    schedule.EndsAs plan case .stalled schedule.now schedule.world := by
  -- Neither end of its wait ever comes.
  have still : schedule.next? plan.policy = none := by
    simp [next?, urgent?, canEnter, events, earliest?, single, SchedulePolicy.ready?, SchedulePolicy.event?,
      SchedulePolicy.deadline, unlimited, CaseStage.isQueued]
  exact ⟨schedule, _, .here, still, single, rfl, rfl, rfl⟩

/-- A run that goes on in time ends as it does from where it stands then. -/
theorem endsAs_of_wake {due : Duration} {run : ρ} (single : schedule.slots = [⟨case, .active began (some (due, run))⟩])
    (inTime : ∀ limit, plan.policy.limit = some limit → due ≤ began + limit)
    (ends : ∀ next : Schedule σ ρ, next.now = due → next.world = (plan.backend.resume run due schedule.world).2 →
      next.slots = [⟨case, plan.policy.settle case began due (plan.backend.resume run due schedule.world).1⟩] →
      next.EndsAs plan case ending finished after) :
    schedule.EndsAs plan case ending finished after := by
  refine .of_move single (.wake inTime) (by simp) (ends _ ?_ ?_ ?_) <;> simp [apply, single, settle, put]

/-- A run that waits past the time for its case is reported as cut off. -/
theorem endsAs_of_expire {wait : Option (Duration × ρ)} (limited : plan.policy.limit = some limit)
    (single : schedule.slots = [⟨case, .active began wait⟩])
    (tooLate : ∀ due run, wait = some (due, run) → ¬due ≤ began + limit) :
    schedule.EndsAs plan case (.reported (case.timeoutResult limit limit)) (began + limit) schedule.world := by
  have expired : (schedule.apply plan ⟨0, .expire⟩).slots = [⟨case, .returned (case.timeoutResult limit limit)⟩] := by
    simp [apply, single, limited, put]
  refine .of_move single (.expire limited tooLate) (by simp) ?_
  have reported : EndsAs plan _ case _ _ _ := endsAs_of_returned expired
  simpa [apply, single, limited, put] using reported

/-- A run that has to wait past the time for its case is reported as cut off. -/
theorem endsAs_of_pause {wait : Option (Duration × ρ)} (limited : plan.policy.limit = some limit)
    (early : schedule.now ≤ began + limit)
    (single : schedule.slots = [⟨case, plan.policy.pause case began schedule.now wait⟩])
    (tooLate : ∀ due run, wait = some (due, run) → ¬due ≤ began + limit) :
    schedule.EndsAs plan case (.reported (case.timeoutResult limit limit)) (began + limit) schedule.world := by
  -- The deadline has come, or it comes before the wait is over.
  simp only [SchedulePolicy.pause, limited] at single
  split at single
  · next reached =>
    have now : schedule.now = began + limit := Duration.ext (Nat.le_antisymm early reached)
    have spent : schedule.now - began = limit := by rw [now, Duration.add_sub_cancel_left]
    rw [spent] at single
    have reported : EndsAs plan schedule case _ _ _ := endsAs_of_returned single
    rwa [now] at reported
  · exact endsAs_of_expire limited single tooLate

/-- A run that ends, and does so within the limit if there is one, is reported as it ends. -/
theorem endsAs_of_ends {progress : Progress ρ} {now : Duration} {world : σ}
    (ends : plan.backend.Ends progress now world ending finished after)
    (inTime : ∀ limit, plan.policy.limit = some limit → ending ≠ .stalled ∧ finished ≤ began + limit)
    (atNow : schedule.now = now) (inWorld : schedule.world = world)
    (single : schedule.slots = [⟨case, plan.policy.settle case began now progress⟩]) :
    schedule.EndsAs plan case ending finished after := by
  -- The induction is on the run, which goes on in time after each wait.
  induction ends generalizing schedule with
  | finished =>
    subst atNow inWorld
    exact endsAs_of_returned single
  | crashed =>
    subst atNow inWorld
    exact endsAs_of_isOver single rfl
  | stalled =>
    subst atNow inWorld
    have unlimited : plan.policy.limit = none := by
      cases limited : plan.policy.limit with
      | none => rfl
      | some limit => exact absurd rfl (inTime limit limited).1
    have waits : plan.policy.settle case began schedule.now .stalled = (.active began none : CaseStage ρ) := by
      simp [SchedulePolicy.settle, SchedulePolicy.pause, unlimited]
    rw [waits] at single
    exact endsAs_of_endless unlimited single
  | @waiting delay now finished run world after ending later ih =>
    subst atNow inWorld
    have due : ∀ limit, plan.policy.limit = some limit → schedule.now + delay ≤ began + limit := by
      intro limit limited
      have ended := (inTime limit limited).2
      have begun := later.le
      simp only [Duration.le_iff, Duration.nanoseconds_add] at ended begun ⊢
      omega
    rw [SchedulePolicy.settle_waiting due] at single
    exact endsAs_of_wake single due fun next atDue inNext settled => ih inTime atDue inNext settled

/-- A run that outlasts the time for its case is reported as cut off, with the collaborators as they are by then. -/
theorem endsAs_of_outlasts {progress : Progress ρ} {now : Duration} {world left : σ}
    (limited : plan.policy.limit = some limit)
    (outlasts : plan.backend.Outlasts (began + limit) progress now world left) (early : now ≤ began + limit)
    (atNow : schedule.now = now) (inWorld : schedule.world = world)
    (single : schedule.slots = [⟨case, plan.policy.settle case began now progress⟩]) :
    schedule.EndsAs plan case (.reported (case.timeoutResult limit limit)) (began + limit) left := by
  -- The induction is on the part of the run up to the deadline, where its wait is cut off.
  induction outlasts generalizing schedule with
  | stalled =>
    subst atNow inWorld
    exact endsAs_of_pause limited early single (by simp)
  | @overdue delay now run world late =>
    subst atNow inWorld
    have some_time : delay ≠ Duration.zero := by
      rintro rfl
      simp only [Duration.add_zero, Duration.le_iff, Duration.lt_iff] at early late
      omega
    simp only [SchedulePolicy.settle, if_neg some_time] at single
    refine endsAs_of_pause limited early single ?_
    rintro due other ⟨⟩
    simp only [Duration.le_iff, Duration.lt_iff] at late ⊢
    omega
  | @onward delay now run world left inTime _ ih =>
    subst atNow inWorld
    have due : ∀ other, plan.policy.limit = some other → schedule.now + delay ≤ began + other := by
      intro other same
      rw [limited] at same
      cases same
      exact inTime
    rw [SchedulePolicy.settle_waiting due] at single
    exact endsAs_of_wake single due fun next atDue inNext settled => ih inTime atDue inNext settled

/-- A case that is alone in line ends as it does from where its run stands at its start. -/
theorem endsAs_of_start {now : Duration} {world : σ} (room : 0 < plan.policy.slots)
    (ends : ∀ next : Schedule σ ρ, next.now = now → next.world = (plan.startCase case now world).2 →
      next.slots = [⟨case, plan.policy.settle case now now (plan.startCase case now world).1⟩] →
      next.EndsAs plan case ending finished after) :
    plan.EndsAlone case now world ending finished after := by
  -- It enters, is cleared and starts without taking time.
  have some_free : plan.policy.slots ≠ 0 := by omega
  refine EndsAs.of_move rfl .enter (fun _ => room) ?_
  refine EndsAs.of_move ?_ .check (by simp) ?_
  · simp [ofCases, apply, put, some_free]
  refine EndsAs.of_move ?_ .start (by simp) (ends _ ?_ ?_ ?_) <;>
    simp [ofCases, apply, put, some_free, settle]

end Schedule

/-- What is over has an ending other than to wait forever. -/
theorem CaseStage.isOver_of_ending (ended : stage.ending ≠ .stalled) : stage.isOver = true := by
  cases stage <;> simp_all [ending, isOver]

/-- A case that waits forever is not over. -/
theorem CaseStage.not_isOver_of_ending (endless : stage.ending = .stalled) : stage.isOver = false := by
  cases stage <;> simp_all [ending, isOver]

/-- A case that ends alone is run to that end within any bound that is large enough, or never if it waits forever. -/
theorem SchedulePlan.EndsAlone.finish {now : Duration} {world : σ}
    (ends : plan.EndsAlone case now world ending finished after) :
    (ending ≠ .stalled → ∃ last stage enough, last.slots = [⟨case, stage⟩] ∧ stage.ending = ending ∧
      last.now = finished ∧ last.world = after ∧ ∀ bound, enough ≤ bound →
        (Schedule.ofCases plan.policy [case] now world).finish plan bound = some last) ∧
    (ending = .stalled → ∀ bound, (Schedule.ofCases plan.policy [case] now world).finish plan bound = none) := by
  -- The moves come to a last schedule, which is over unless the case waits forever.
  obtain ⟨last, stage, comes, still, single, rfl, atEnd, inWorld⟩ := ends
  constructor
  · intro ended
    have allOver : last.isOver = true := by simp [Schedule.isOver, single, CaseStage.isOver_of_ending ended]
    obtain ⟨enough, finishes⟩ := comes.finish_of_isOver allOver
    exact ⟨last, stage, enough, single, rfl, atEnd, inWorld, finishes⟩
  · intro endless bound
    have unfinished : last.isOver = false := by
      simp [Schedule.isOver, single, CaseStage.not_isOver_of_ending endless]
    exact comes.finish_of_stuck unfinished still bound

end Moves

/-- The report of a case that ran out of time. -/
structure PipelineResult.TimedOut (case : TestCase) (limit : Duration) (result : PipelineResult) : Prop where
  name : result.name = case.name
  outcome : result.outcome = .errored
  error : result.error = some (.timeout limit)
  duration : result.duration = limit
  state : result.state = State.empty
  trace : result.trace = []

/--
How a case ends alone under a limit on its time, compared to how it ends without one.

A run that ends when the limit is reached counts as one that ends in time. Something holds of the collaborators when
a run is cut off.
-/
structure SchedulePlan.Limits {σ ρ : Type} (plan : SchedulePlan σ ρ) (limit : Duration) (case : TestCase)
    (now : Duration) (world : σ) (ending : Ending) (finished : Duration) (after : σ) (Left : σ → Prop) : Prop where
  unlimited : (plan.withLimit none).EndsAlone case now world ending finished after
  inTime : ending ≠ .stalled → finished ≤ now + limit →
    (plan.withLimit (some limit)).EndsAlone case now world ending finished after
  late : ending = .stalled ∨ now + limit < finished → ∃ result left, result.TimedOut case limit ∧ Left left ∧
    (plan.withLimit (some limit)).EndsAlone case now world (.reported result) (now + limit) left

/-- The calls of a run that is cut off at a deadline are those of the whole run up to there. -/
structure CallsCut (deadline : Duration) (calls cut : List Exchange) : Prop where
  before : cut.filter (fun call => call.asked < deadline) = calls.filter fun call => call.asked < deadline
  after : ∀ call ∈ cut, call.asked ≤ deadline

section Limits

variable {σ ρ : Type} {plan : SchedulePlan σ ρ} {case : TestCase} {now finished limit deadline : Duration}
  {world after : σ} {ending : Ending}

/-- What holds of the collaborators when a run is cut off may be weakened. -/
theorem SchedulePlan.Limits.imp {Left Weaker : σ → Prop} (weaken : ∀ left, Left left → Weaker left)
    (limits : plan.Limits limit case now world ending finished after Left) :
    plan.Limits limit case now world ending finished after Weaker := by
  refine ⟨limits.unlimited, limits.inTime, fun late => ?_⟩
  obtain ⟨result, left, timedOut, holds, ends⟩ := limits.late late
  exact ⟨result, left, timedOut, weaken left holds, ends⟩

/-- A case whose run is not over at the deadline is reported as timed out then. -/
theorem SchedulePlan.endsAlone_of_caseOutlasts (room : 0 < plan.policy.slots) {left : σ}
    (outlasts : plan.CaseOutlasts case now world (now + limit) left) : ∃ result, result.TimedOut case limit ∧
      (plan.withLimit (some limit)).EndsAlone case now world (.reported result) (now + limit) left := by
  -- The case starts before its deadline.
  have early : now ≤ now + limit := Nat.le_add_right _ _
  refine ⟨case.timeoutResult limit limit, ⟨rfl, rfl, rfl, rfl, rfl, rfl⟩, ?_⟩
  refine Schedule.endsAs_of_start room fun next atNow inWorld single => ?_
  exact Schedule.endsAs_of_outlasts rfl outlasts early atNow inWorld single

/-- A limit cuts a run off where the run stands at the deadline, unless the run has ended by then. -/
theorem SchedulePlan.limits_of_caseEnds (room : 0 < plan.policy.slots) (limit : Duration)
    (ends : plan.CaseEnds case now world ending finished after) :
    plan.Limits limit case now world ending finished after (plan.CaseOutlasts case now world (now + limit)) := by
  -- A limit has no part in how the run starts and goes on.
  refine ⟨?_, fun ended within => ?_, fun late => ?_⟩
  · refine Schedule.endsAs_of_start room fun next atNow inWorld single => ?_
    exact Schedule.endsAs_of_ends ends nofun atNow inWorld single
  · refine Schedule.endsAs_of_start room fun next atNow inWorld single => ?_
    refine Schedule.endsAs_of_ends ends (fun other same => ?_) atNow inWorld single
    cases same
    exact ⟨ended, within⟩
  · have early : now ≤ now + limit := Nat.le_add_right _ _
    obtain ⟨left, outlasts⟩ := ends.outlasts early late
    obtain ⟨result, timedOut, reported⟩ := SchedulePlan.endsAlone_of_caseOutlasts room outlasts
    exact ⟨result, left, timedOut, outlasts, reported⟩

/-- A case that starts logs what it asks with the time of its start. -/
theorem SchedulePlan.startCase_logs {κ : Type} {log : σ → List κ} {time : κ → Duration}
    (logs : plan.backend.Logs log time) : LogGrows log (time · = now) world (plan.startCase case now world).2 := by
  -- Loading asks nobody.
  cases loaded : case.source.load plan.environment with
  | error error => simpa only [startCase, loaded] using .refl _ _ _
  | ok definition => simpa only [startCase, loaded] using logs.start definition now world

/-- Calls up to a deadline are those of the whole run when they are its calls that were asked by then. -/
theorem callsCut_of_filter {calls cut : List Exchange}
    (same : cut = calls.filter fun call => call.asked ≤ deadline) : CallsCut deadline calls cut := by
  -- What is asked before the deadline is asked by then.
  subst same
  constructor
  · rw [List.filter_filter]
    refine List.filter_congr fun call _ => ?_
    rw [Bool.and_eq_left_iff_imp]
    intro before
    simp only [decide_eq_true_eq, Duration.le_iff, Duration.lt_iff] at before ⊢
    omega
  · intro call member
    simpa using (List.mem_filter.1 member).2

/-- The run of a case that outlasts a deadline has made its calls up to there. -/
theorem callsCut_of_caseOutlasts {executor : Executor σ} {settings : EngineSettings}
    {recording : SchedulePlan (σ × List Exchange) Engine.Pending}
    (onEngine : recording.backend = Engine.backend executor.recorded settings) {calls : List Exchange}
    {left : σ × List Exchange} (early : now ≤ deadline)
    (ends : recording.CaseEnds case now (world, []) ending finished (after, calls))
    (outlasts : recording.CaseOutlasts case now (world, []) deadline left) : CallsCut deadline calls left.2 := by
  -- The calls logged up to the deadline are those of the whole run that were made by then.
  have logs : recording.backend.Logs Prod.snd Exchange.asked := onEngine ▸ Engine.backend_logs executor settings
  have starts : LogGrows Prod.snd (Exchange.asked · = now) (world, []) (recording.startCase case now (world, [])).2 :=
    SchedulePlan.startCase_logs logs
  obtain ⟨made, begun, asked⟩ := starts
  refine callsCut_of_filter (Backend.Outlasts.log_eq logs outlasts ends fun call member => ?_)
  rw [begun, List.nil_append] at member
  rw [asked call member]
  exact early

end Limits

/--
A case whose run ends within a limit on its time ends as without one; any other is reported as timed out at that limit.

This holds on every backend, also of a run that never ends but goes on past the deadline. On the local engine, where
each run ends or waits forever, the calls that are cut off are those after the deadline, and no others.
-/
theorem timeout_cuts (case : TestCase) (environment : Environment) (policy : SchedulePolicy)
    (room : 0 < policy.slots) (now limit : Duration) :
    (∀ (σ ρ : Type) (backend : Backend σ ρ) (world : σ),
      (∀ ending finished after, SchedulePlan.CaseEnds ⟨backend, environment, policy⟩ case now world ending finished
        after → SchedulePlan.Limits ⟨backend, environment, policy⟩ limit case now world ending finished after
          (SchedulePlan.CaseOutlasts ⟨backend, environment, policy⟩ case now world (now + limit))) ∧
      ∀ left, SchedulePlan.CaseOutlasts ⟨backend, environment, policy⟩ case now world (now + limit) left →
        ∃ result, result.TimedOut case limit ∧
          (SchedulePlan.withLimit ⟨backend, environment, policy⟩ (some limit)).EndsAlone case now world
            (.reported result) (now + limit) left) ∧
    ∀ (σ : Type) (executor : Executor σ) (settings : EngineSettings) (world : σ),
      ∃ ending finished after calls,
        Engine.executeCase executor.recorded settings case environment now (world, []) =
          (ending, finished, after, calls) ∧
        SchedulePlan.Limits ⟨Engine.backend executor.recorded settings, environment, policy⟩ limit case now (world, [])
          ending finished (after, calls) fun left => CallsCut (now + limit) calls left.2 := by
  refine ⟨fun σ ρ backend world => ⟨fun ending finished after ends => SchedulePlan.limits_of_caseEnds room limit ends,
    fun left outlasts => SchedulePlan.endsAlone_of_caseOutlasts room outlasts⟩, ?_⟩
  intro σ executor settings world
  -- On the local engine every run ends, if only by waiting forever.
  have concluded := Engine.conclude_startCase executor.recorded settings policy case environment (Nat.le_refl _) now
    (world, [])
  cases executed : Engine.executeCase executor.recorded settings case environment now (world, []) with
  | mk ending rest =>
    obtain ⟨finished, after, calls⟩ := rest
    rw [executed] at concluded
    have ends : SchedulePlan.CaseEnds ⟨Engine.backend executor.recorded settings, environment, policy⟩ case now
        (world, []) ending finished (after, calls) := Backend.ends_of_conclude concluded
    have early : now ≤ now + limit := Nat.le_add_right _ _
    refine ⟨ending, finished, after, calls, rfl, (SchedulePlan.limits_of_caseEnds room limit ends).imp ?_⟩
    exact fun left outlasts => callsCut_of_caseOutlasts rfl early ends outlasts

/-- One case at a time. -/
def lonePolicy : SchedulePolicy := ⟨1, none, false⟩

/-- Responses to two nodes, which take longer together than each of them. -/
def slowResponses : List (Response (Except NodeError Json)) :=
  -- The second is asked for when the first has arrived.
  [.answer ⟨5⟩ (.ok .null), .answer ⟨10⟩ (.ok (.boolean true))]

/-- The second node is not asked when the first takes longer than the limit. -/
theorem timeout_cuts_twoSteps :
    0 < lonePolicy.slots ∧ ∃ calls result left, calls.map (·.asked) = [Duration.zero, ⟨5⟩] ∧
      CallsCut ⟨4⟩ calls left.2 ∧ result.TimedOut (.ofDefinition .twoSteps) ⟨4⟩ ∧
      (SchedulePlan.withLimit ⟨Engine.backend (Executor.recorded .prepared) .default, Dictionary.empty, lonePolicy⟩
        (some ⟨4⟩)).EndsAlone (.ofDefinition .twoSteps) Duration.zero (slowResponses, []) (.reported result) ⟨4⟩
          left := by
  -- Without the limit the run ends after it, with a call behind it.
  obtain ⟨ending, finished, after, calls, executed, limits⟩ := (timeout_cuts (.ofDefinition .twoSteps)
    Dictionary.empty lonePolicy (by decide) Duration.zero ⟨4⟩).2 _ .prepared .default slowResponses
  have late : finished = ⟨15⟩ ∧ calls.map (·.asked) = [Duration.zero, ⟨5⟩] := by
    have computed := Prod.ext_iff.1 executed
    exact ⟨(congrArg (·.1) computed.2).symm, (congrArg (·.2.2.map (·.asked)) computed.2).symm⟩
  obtain ⟨result, left, timedOut, cut, ends⟩ := limits.late (.inr (by rw [late.1]; decide))
  exact ⟨by decide, calls, result, left, late.2, cut, timedOut, ends⟩

end PipelineTrial
