import PipelineTrial.Run.Recording
import PipelineTrial.Suite.Schedule

/-! All the orders in which the cases of a schedule can move, of which a schedule that is run takes one. -/

namespace PipelineTrial

namespace Schedule

variable {σ ρ : Type}

/-- Whether nothing can happen before time passes. -/
def isIdle (policy : SchedulePolicy) (schedule : Schedule σ ρ) : Bool :=
  -- No case is ready, and none can enter.
  (schedule.urgent? policy).isNone && !schedule.canEnter

/-- Whether the next event of a case at a given stage is one of the earliest, and what the case does then. -/
def comesNext (policy : SchedulePolicy) (schedule : Schedule σ ρ) (stage : CaseStage ρ) (act : Act) :
    Bool :=
  -- Several events can come at once.
  match policy.event? stage with
  | none => false
  | some (time, next) => next == act && (schedule.events policy).all fun event => time ≤ event.2.1

/--
Whether a move is possible.

Any case that is ready can move, any case in line can take a free slot, and time passes when nothing else can happen.
-/
def permits (policy : SchedulePolicy) (schedule : Schedule σ ρ) (move : Move) : Bool :=
  -- No case takes precedence over another.
  match schedule.slots[move.place]? with
  | none => false
  | some slot =>
    policy.ready? schedule.now slot.stage == some move.act
      || (move.act == .enter && slot.stage.isQueued && decide (0 < schedule.free))
      || (schedule.isIdle policy && schedule.comesNext policy slot.stage move.act)

/-- The schedule after moves in a given order, unless one of them is not possible when its turn comes. -/
def follow (plan : SchedulePlan σ ρ) : List Move → Schedule σ ρ → Option (Schedule σ ρ)
  | [], schedule => some schedule
  | move :: rest, schedule =>
    if schedule.permits plan.policy move then follow plan rest (schedule.apply plan move) else none

/-- Whether the cases of a schedule that moves in a given order take slots in the order in which they are in line. -/
def keepsLine (plan : SchedulePlan σ ρ) : List Move → Schedule σ ρ → Bool
  | [], _ => true
  | move :: rest, schedule =>
    (move.act != .enter || schedule.slots.findIdx? (·.stage.isQueued) == some move.place)
      && keepsLine plan rest (schedule.apply plan move)

end Schedule

namespace Listener

variable {σ ρ κ : Type}

/-- What is replied to the run of a case in a move. -/
def hear (listener : Listener σ ρ κ) (plan : SchedulePlan σ ρ) (schedule : Schedule σ ρ) (move : Move) :
    List κ :=
  -- Collaborators are asked only when a run starts or goes on.
  match schedule.slots[move.place]?, move.act with
  | some ⟨case, .cleared⟩, .start =>
    match case.source.load plan.environment with
    | .error _ => []
    | .ok definition => listener.start definition schedule.now schedule.world
  | some ⟨_, .active _ (some (due, run))⟩, .wake => listener.resume run due schedule.world
  | _, _ => []

/-- What is replied to the run of the case at a place while the cases of a schedule move in an order. -/
def overhear (listener : Listener σ ρ κ) (plan : SchedulePlan σ ρ) (place : Nat) :
    List Move → Schedule σ ρ → List κ
  | [], _ => []
  | move :: rest, schedule =>
    -- What other cases are told is not for this one.
    (if move.place = place then listener.hear plan schedule move else []) ++
      overhear listener plan place rest (schedule.apply plan move)

end Listener

end PipelineTrial
