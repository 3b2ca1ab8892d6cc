import PipelineTrial.Pipeline.Loading
import PipelineTrial.Run.Backend
import PipelineTrial.Suite.Case

/-! Scheduling test cases on a bounded number of slots, in virtual time and in single moves. -/

namespace PipelineTrial

/-- The rules of a schedule: how many cases may run at once, how long, and what a failure does. -/
structure SchedulePolicy where
  slots : Nat
  limit : Option Duration
  stopsOnFailure : Bool
  deriving DecidableEq

/-- What a case can do in a single move. -/
inductive Act where
  /-- It takes a free slot. -/
  | enter
  /-- It sees whether a failure has halted the suite. -/
  | check
  | start
  /-- Its run goes on at the end of a wait. -/
  | wake
  /-- It runs out of time. -/
  | expire
  /-- It halts the suite if it failed. -/
  | announce
  /-- It gives its slot back and hands its report over. -/
  | leave
  deriving DecidableEq

/-- A single move of a schedule: the case at a place does something. -/
structure Move where
  place : Nat
  act : Act
  deriving DecidableEq

/-- Where a test case stands. -/
inductive CaseStage (ρ : Type) where
  | queued
  /-- It holds a slot and has yet to see whether the suite was halted. -/
  | admitted
  /-- It holds a slot and may start. -/
  | cleared
  /-- It holds a slot, runs since some time, and waits until another or forever. -/
  | active (began : Duration) (wait : Option (Duration × ρ))
  /-- It holds a slot, and its run is over. -/
  | returned (result : PipelineResult)
  /-- It holds a slot only to give it back. -/
  | leaving (result : PipelineResult)
  | reported (result : PipelineResult)
  /-- Its task died without a report. -/
  | dead

namespace CaseStage

variable {ρ : Type}

/-- Whether a case waits for a slot. -/
def isQueued : CaseStage ρ → Bool
  | .queued => true
  | _ => false

/-- Whether a case is done with. -/
def isOver : CaseStage ρ → Bool
  | .reported _ => true
  | .dead => true
  | _ => false

/-- Whether a case holds a slot. -/
def isHolding (stage : CaseStage ρ) : Bool := !stage.isQueued && !stage.isOver

/-- Whether the task of a case died. -/
def isDead : CaseStage ρ → Bool
  | .dead => true
  | _ => false

end CaseStage

/-- A test case with its stage. -/
structure CaseSlot (ρ : Type) where
  case : TestCase
  stage : CaseStage ρ

/-- A schedule at a time, with the collaborators `σ` of its runs. -/
structure Schedule (σ ρ : Type) where
  now : Duration
  slots : List (CaseSlot ρ)
  /-- The number of slots that no case holds. -/
  free : Nat
  /-- Whether a failure has stopped the cases that have not started. -/
  halted : Bool
  /-- The reports handed over with the places of their cases, the latest first. -/
  latest : List (Nat × PipelineResult)
  world : σ

/-- What it takes to run a schedule. -/
structure SchedulePlan (σ ρ : Type) where
  backend : Backend σ ρ
  environment : Environment
  policy : SchedulePolicy

/-- The pipeline that a case is to run; only a document can fail to load. -/
def CaseSource.load (environment : Environment) : CaseSource → Except PipelineError Definition
  | .definition given => .ok given
  | .document text => loadPipeline text environment

/-- The report of a case that ran out of time, under its own name. -/
def TestCase.timeoutResult (case : TestCase) (limit elapsed : Duration) : PipelineResult :=
  -- What the run had done is lost.
  .aborted case.name (.timeout limit) elapsed

/-- The report of a case whose task died, under its own name. -/
def TestCase.deadResult (case : TestCase) : PipelineResult :=
  -- Its time is not known either.
  .aborted case.name (.aborted "pipeline task did not report a result") Duration.zero

namespace SchedulePolicy

/-- The time at which a case that began at a time runs out of it. -/
def deadline (policy : SchedulePolicy) (began : Duration) : Option Duration :=
  -- There may be no limit.
  policy.limit.map (began + ·)

/-- The stage of a case that has to wait, which ends at once when its time is up. -/
def pause {ρ : Type} (policy : SchedulePolicy) (case : TestCase) (began now : Duration)
    (wait : Option (Duration × ρ)) : CaseStage ρ :=
  -- Without a limit there is always time.
  match policy.limit with
  | none => .active began wait
  | some limit =>
    if began + limit ≤ now then .returned (case.timeoutResult limit (now - began))
    else .active began wait

/-- The stage of a case after its run has moved on; the run comes before the limit. -/
def settle {ρ : Type} (policy : SchedulePolicy) (case : TestCase) (began now : Duration) :
    Progress ρ → CaseStage ρ
  | .finished result => .returned result
  | .crashed => .dead
  | .stalled => policy.pause case began now none
  | .waiting delay run =>
    if delay = Duration.zero then .active began (some (now, run))
    else policy.pause case began now (some (now + delay, run))

/-- The time of the next event of a case, and what the case does then. -/
def event? {ρ : Type} (policy : SchedulePolicy) : CaseStage ρ → Option (Duration × Act)
  | .active began wait =>
    match wait, policy.deadline began with
    | none, none => none
    | none, some deadline => some (deadline, .expire)
    | some (due, _), none => some (due, .wake)
    | some (due, _), some deadline =>
      some (if due ≤ deadline then (due, .wake) else (deadline, .expire))
  | _ => none

/-- What a case does next if that takes neither a free slot nor time. -/
def ready? {ρ : Type} (policy : SchedulePolicy) (now : Duration) : CaseStage ρ → Option Act
  | .admitted => some .check
  | .cleared => some .start
  | .returned _ => some .announce
  | .leaving _ => some .leave
  | stage =>
    match policy.event? stage with
    | none => none
    | some (time, act) => if time ≤ now then some act else none

end SchedulePolicy

namespace SchedulePlan

variable {σ ρ : Type}

/-- Starts the run of a case; a pipeline that does not load is reported under the case's name. -/
def startCase (plan : SchedulePlan σ ρ) (case : TestCase) (now : Duration) (world : σ) :
    Progress ρ × σ :=
  -- Loading takes no time.
  match case.source.load plan.environment with
  | .error error => (.finished (.aborted case.name error Duration.zero), world)
  | .ok definition => plan.backend.start definition now world

end SchedulePlan

namespace Schedule

variable {σ ρ : Type}

/-- The schedule of cases that all wait for a slot. -/
def ofCases (policy : SchedulePolicy) (cases : List TestCase) (now : Duration) (world : σ) :
    Schedule σ ρ :=
  -- Nothing has failed yet, and nothing has been handed over.
  ⟨now, cases.map fun case => ⟨case, .queued⟩, policy.slots, false, [], world⟩

/-- Whether all cases are done with. -/
def isOver (schedule : Schedule σ ρ) : Bool := schedule.slots.all (·.stage.isOver)

/-- Whether a case waits for a slot while one is free. -/
def canEnter (schedule : Schedule σ ρ) : Bool :=
  -- Cases that wait enter before time passes.
  0 < schedule.free && schedule.slots.any (·.stage.isQueued)

/-- The first move that takes neither a free slot nor time. -/
def urgent? (policy : SchedulePolicy) (schedule : Schedule σ ρ) : Option Move :=
  -- Cases are tried in order.
  schedule.slots.zipIdx.findSome? fun (slot, place) =>
    (policy.ready? schedule.now slot.stage).map fun act => ⟨place, act⟩

/-- The events to come, with their places. -/
def events (policy : SchedulePolicy) (schedule : Schedule σ ρ) : List (Nat × Duration × Act) :=
  -- Only active cases have one.
  schedule.slots.zipIdx.filterMap fun (slot, place) =>
    (policy.event? slot.stage).map fun event => (place, event)

/-- The earliest of events, the first of several at once. -/
def earliest? : List (Nat × Duration × Act) → Option (Nat × Duration × Act)
  | [] => none
  | event :: rest =>
    match earliest? rest with
    | none => some event
    | some other => some (if event.2.1 ≤ other.2.1 then event else other)

/-- The next move: one that takes no time, else the first case in line enters, else the earliest event happens. -/
def next? (policy : SchedulePolicy) (schedule : Schedule σ ρ) : Option Move :=
  -- Without an event nothing ever happens again.
  match schedule.urgent? policy with
  | some move => some move
  | none =>
    if schedule.canEnter then
      (schedule.slots.findIdx? (·.stage.isQueued)).map fun place => ⟨place, .enter⟩
    else
      (earliest? (schedule.events policy)).map fun (place, _, act) => ⟨place, act⟩

/-- The schedule with a new stage for the case at a place. -/
def put (schedule : Schedule σ ρ) (place : Nat) (case : TestCase) (stage : CaseStage ρ) :
    Schedule σ ρ :=
  -- All other cases stay where they are.
  { schedule with slots := schedule.slots.set place ⟨case, stage⟩ }

/-- The schedule after the run of the case at a place has moved on. -/
def settle (policy : SchedulePolicy) (schedule : Schedule σ ρ) (place : Nat) (case : TestCase)
    (began : Duration) (progress : Progress ρ) : Schedule σ ρ :=
  -- The slot of a task that dies is free at once.
  let stage := policy.settle case began schedule.now progress
  { schedule with free := if stage.isDead then schedule.free + 1 else schedule.free }.put
    place case stage

/-- The schedule after a move; one that is not possible changes nothing. -/
def apply (plan : SchedulePlan σ ρ) (schedule : Schedule σ ρ) (move : Move) : Schedule σ ρ :=
  -- What a case can do depends on its stage.
  match schedule.slots[move.place]? with
  | none => schedule
  | some ⟨case, stage⟩ =>
    match move.act, stage with
    | .enter, .queued =>
      if schedule.free = 0 then schedule
      else { schedule with free := schedule.free - 1 }.put move.place case .admitted
    | .check, .admitted =>
      if plan.policy.stopsOnFailure && schedule.halted then
        schedule.put move.place case (.leaving (.skipped case.name))
      else schedule.put move.place case .cleared
    | .start, .cleared =>
      let (progress, world) := plan.startCase case schedule.now schedule.world
      { schedule with world := world }.settle plan.policy move.place case schedule.now progress
    | .wake, .active began (some (due, run)) =>
      let (progress, world) := plan.backend.resume run due schedule.world
      { schedule with now := due, world := world }.settle plan.policy move.place case began progress
    | .expire, .active began _ =>
      match plan.policy.limit with
      | none => schedule
      | some limit =>
        { schedule with now := began + limit }.put move.place case
          (.returned (case.timeoutResult limit limit))
    | .announce, .returned result =>
      { schedule with
        halted := schedule.halted || (plan.policy.stopsOnFailure && result.isFailure) }.put
        move.place case (.leaving result)
    | .leave, .leaving result =>
      { schedule with
        free := schedule.free + 1, latest := (move.place, result) :: schedule.latest }.put
        move.place case (.reported result)
    | _, _ => schedule

/-- The schedule when all cases are done with, within a bound on the number of moves. -/
def finish (plan : SchedulePlan σ ρ) : Nat → Schedule σ ρ → Option (Schedule σ ρ)
  | bound, schedule =>
    if schedule.isOver then some schedule
    else
      match bound, schedule.next? plan.policy with
      | bound + 1, some move => finish plan bound (schedule.apply plan move)
      | _, _ => none

end Schedule

/-- The reports of cases in case order, from reports that arrived in any order, the latest first. -/
def gatherReports (cases : List TestCase) (latest : List (Nat × PipelineResult)) :
    List PipelineResult :=
  -- Each report is put in its place, and a case whose place stays empty counts as dead.
  let filled := latest.foldr (fun (place, result) slots => slots.set place (some result))
    (cases.map fun _ => none)
  filled.zipWith (fun slot case => slot.getD case.deadResult) cases

end PipelineTrial
