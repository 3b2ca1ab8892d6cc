import Mathlib.Algebra.Ring.Nat
import PipelineTrial.Proofs.Suite.Stages

/-! Every slot of a schedule is free or held by one case, in whatever order the cases move. -/

namespace PipelineTrial

variable {σ ρ : Type}

namespace CaseSlot

/-- What the stages of cases amount to together. -/
def total (weight : CaseStage ρ → Nat) (slots : List (CaseSlot ρ)) : Nat :=
  -- Each case adds the weight of its stage.
  (slots.map fun slot => weight slot.stage).sum

/-- A new stage of one case changes a total by what the case adds to it. -/
theorem total_set (weight : CaseStage ρ → Nat) {slots : List (CaseSlot ρ)} {place : Nat} {case : TestCase}
    {stage : CaseStage ρ} (found : slots[place]? = some ⟨case, stage⟩) (next : CaseStage ρ) :
    total weight (slots.set place ⟨case, next⟩) + weight stage = total weight slots + weight next := by
  -- The cases before and behind it add what they did.
  induction slots generalizing place with
  | nil => simp at found
  | cons first rest ih =>
    cases place with
    | zero =>
      obtain rfl : first = ⟨case, stage⟩ := by simpa using found
      simp only [total, List.set_cons_zero, List.map_cons, List.sum_cons]
      omega
    | succ place =>
      have added := ih (by simpa using found)
      simp only [total, List.set_cons_succ, List.map_cons, List.sum_cons] at added ⊢
      omega

/-- The total of a sum is the sum of the totals. -/
theorem total_add (left right : CaseStage ρ → Nat) (slots : List (CaseSlot ρ)) :
    total (fun stage => left stage + right stage) slots = total left slots + total right slots := by
  induction slots with
  | nil => rfl
  | cons first rest ih =>
    simp only [total, List.map_cons, List.sum_cons] at ih ⊢
    omega

/-- The total of a multiple is the multiple of the total. -/
theorem total_mul (factor : Nat) (weight : CaseStage ρ → Nat) (slots : List (CaseSlot ρ)) :
    total (fun stage => factor * weight stage) slots = factor * total weight slots := by
  induction slots with
  | nil => rfl
  | cons first rest ih =>
    simp only [total, List.map_cons, List.sum_cons, Nat.mul_add] at ih ⊢
    rw [ih]

/-- A total is no larger than another when this is so for each case. -/
theorem total_mono {left right : CaseStage ρ → Nat} {slots : List (CaseSlot ρ)}
    (each : ∀ slot ∈ slots, left slot.stage ≤ right slot.stage) : total left slots ≤ total right slots := by
  induction slots with
  | nil => exact Nat.le_refl _
  | cons first rest ih =>
    have head := each first List.mem_cons_self
    have tail := ih fun slot member => each slot (List.mem_cons_of_mem _ member)
    simp only [total, List.map_cons, List.sum_cons] at tail ⊢
    omega

/-- How many cases stand at a stage with a property. -/
def count (has : CaseStage ρ → Bool) (slots : List (CaseSlot ρ)) : Nat := slots.countP fun slot => has slot.stage

/-- Each case with a property adds one to the number of those that have it. -/
theorem count_eq_total (has : CaseStage ρ → Bool) (slots : List (CaseSlot ρ)) :
    count has slots = total (fun stage => (has stage).toNat) slots := by
  induction slots with
  | nil => rfl
  | cons first rest ih =>
    simp only [count, total, List.countP_cons, List.map_cons, List.sum_cons] at ih ⊢
    cases has first.stage <;> simp <;> omega

/-- How many cases have a property after one of them has got a new stage. -/
theorem count_set (has : CaseStage ρ → Bool) {slots : List (CaseSlot ρ)} {place : Nat} {case : TestCase}
    {stage : CaseStage ρ} (found : slots[place]? = some ⟨case, stage⟩) (next : CaseStage ρ) :
    count has (slots.set place ⟨case, next⟩) + (has stage).toNat = count has slots + (has next).toNat := by
  simpa only [count_eq_total] using total_set (fun stage => (has stage).toNat) found next

end CaseSlot

/-- A case that has moved on holds its slot unless its task died. -/
@[simp] theorem SchedulePolicy.isHolding_settle (policy : SchedulePolicy) (case : TestCase)
    (began now : Duration) (progress : Progress ρ) :
    (policy.settle case began now progress).isHolding =
      !(policy.settle case began now progress).isDead := by
  -- It waits, has returned or died.
  obtain ⟨wait, same⟩ | ⟨own, same⟩ | same := policy.settle_cases case began now progress <;>
    simp [same, CaseStage.isHolding, CaseStage.isQueued, CaseStage.isOver, CaseStage.isDead]

namespace Schedule

variable {plan : SchedulePlan σ ρ} {schedule ended : Schedule σ ρ} {move : Move} {moves : List Move}

/-- The number of cases that hold a slot. -/
def holding (schedule : Schedule σ ρ) : Nat := CaseSlot.count CaseStage.isHolding schedule.slots

/-- A case that holds a slot keeps it when its run moves on, or its task dies and the slot is free. -/
theorem holding_settle (policy : SchedulePolicy) (schedule : Schedule σ ρ) {place : Nat} {case : TestCase}
    {stage : CaseStage ρ} (found : schedule.slots[place]? = some ⟨case, stage⟩) (holds : stage.isHolding = true)
    (began : Duration) (progress : Progress ρ) :
    (schedule.settle policy place case began progress).holding +
        (schedule.settle policy place case began progress).free =
      schedule.holding + schedule.free := by
  -- The slot is given back in the same move in which the task dies.
  have counted := CaseSlot.count_set CaseStage.isHolding found
    (policy.settle case began schedule.now progress)
  simp only [holds, SchedulePolicy.isHolding_settle, Bool.toNat_true] at counted
  simp only [holding, settle, put]
  split
  · next died =>
    simp only [died, Bool.not_true, Bool.toNat_false] at counted
    omega
  · next alive =>
    simp only [alive, Bool.not_false, Bool.toNat_true] at counted
    omega

/-- A move takes as many slots as cases begin to hold, and frees as many as they cease to hold. -/
theorem holding_apply (permitted : schedule.permits plan.policy move) :
    (schedule.apply plan move).holding + (schedule.apply plan move).free =
      schedule.holding + schedule.free := by
  -- Only the case that moves can take or free a slot.
  obtain ⟨place, act⟩ := move
  obtain ⟨case, stage, found, moved⟩ := moved_of_permits permitted
  replace found : schedule.slots[place]? = some ⟨case, stage⟩ := found
  have counted (next : CaseStage ρ) := CaseSlot.count_set CaseStage.isHolding found next
  generalize schedule.apply plan ⟨place, act⟩ = after at moved ⊢
  cases moved with
  | enter room =>
    have taken : CaseSlot.count _ _ + 0 = CaseSlot.count _ _ + 1 := counted .admitted
    simp only [holding, put]
    omega
  | skip _ => exact congrArg (· + schedule.free) (Nat.add_right_cancel (counted (.leaving _)))
  | clear _ => exact congrArg (· + schedule.free) (Nat.add_right_cancel (counted .cleared))
  | @start progress world _ =>
    exact holding_settle plan.policy { schedule with world := world } found rfl schedule.now progress
  | @wake began due run progress world _ _ =>
    exact holding_settle plan.policy { schedule with now := due, world := world } found rfl began progress
  | expire _ _ => exact congrArg (· + schedule.free) (Nat.add_right_cancel (counted (.returned _)))
  | announce => exact congrArg (· + schedule.free) (Nat.add_right_cancel (counted (.leaving _)))
  | @leave result =>
    have given : CaseSlot.count _ _ + 1 = CaseSlot.count _ _ + 0 := counted (.reported result)
    simp only [holding, put]
    omega

/-- No slot is held while all cases are in line. -/
theorem holding_ofCases (policy : SchedulePolicy) (cases : List TestCase) (now : Duration) (world : σ) :
    (ofCases policy cases now world : Schedule σ ρ).holding = 0 := by
  -- A case in line holds none.
  simp [holding, CaseSlot.count, ofCases, CaseStage.isHolding, CaseStage.isQueued]

/-- The slots that are held and those that are free are all slots there are, after moves in any order. -/
theorem holding_add_free {cases : List TestCase} {now : Duration} {world : σ}
    (followed : (ofCases plan.policy cases now world).follow plan moves = some ended) :
    ended.holding + ended.free = plan.policy.slots := by
  -- All slots are free at first, and each move keeps the sum.
  refine follow_induction (fun _ middle => middle.holding + middle.free = plan.policy.slots) ?_ ?_
    followed
  · rw [holding_ofCases, Nat.zero_add]
    rfl
  · intro past middle move _ balanced permitted
    rw [holding_apply permitted, balanced]

/-- A case that ceases to hold a slot gives it back in the same move. -/
theorem free_apply_of_isOver (permitted : schedule.permits plan.policy move) {case : TestCase}
    {stage next : CaseStage ρ} (found : schedule.slots[move.place]? = some ⟨case, stage⟩)
    (foundNext : (schedule.apply plan move).slots[move.place]? = some ⟨case, next⟩)
    (held : stage.isHolding = true) (released : next.isHolding = false) :
    (schedule.apply plan move).free = schedule.free + 1 := by
  -- One case fewer holds a slot, so one more slot is free.
  obtain ⟨own, current, standing, moved⟩ := moved_of_permits permitted
  rw [found] at standing
  cases standing
  obtain ⟨inside, _⟩ := List.getElem?_eq_some_iff.1 found
  obtain ⟨after, slots, _⟩ := moved.slots
  rw [slots, List.getElem?_set_self inside] at foundNext
  cases foundNext
  have fewer := CaseSlot.count_set CaseStage.isHolding found next
  have kept := holding_apply permitted
  simp only [holding, slots, held, released, Bool.toNat_true, Bool.toNat_false] at fewer kept
  omega

/-- A case in line that cannot take a slot finds none free. -/
theorem free_eq_zero_of_not_permits {place : Nat} {case : TestCase}
    (inLine : schedule.slots[place]? = some ⟨case, .queued⟩)
    (barred : schedule.permits plan.policy ⟨place, .enter⟩ = false) : schedule.free = 0 := by
  -- A free slot is all it takes to enter.
  simp only [permits, inLine, CaseStage.isQueued, beq_self_eq_true, Bool.and_self, Bool.true_and,
    Bool.or_eq_false_iff, decide_eq_false_iff_not, Nat.not_lt, Nat.le_zero] at barred
  exact barred.1.2

end Schedule

end PipelineTrial
