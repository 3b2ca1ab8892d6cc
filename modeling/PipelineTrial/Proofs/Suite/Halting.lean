import PipelineTrial.Proofs.Suite.Clock

/-! What a failure stops: cases are passed over only after one was told, and only runs already past the check go on. -/

namespace PipelineTrial

variable {σ ρ : Type}

namespace CaseStage

/-- The report that a case hands over, once its failure, if it is one, has been told. -/
def told? : CaseStage ρ → Option PipelineResult
  | .leaving result => some result
  | .reported result => some result
  | _ => none

/-- Whether a case has told a failure. -/
def toldFailure (stage : CaseStage ρ) : Bool := stage.told?.any (·.isFailure)

/-- Whether a case was let past the check and has yet to tell its result. -/
def isRunning : CaseStage ρ → Bool
  | .cleared => true
  | .active _ _ => true
  | .returned _ => true
  | _ => false

/-- A case that runs holds a slot. -/
theorem isHolding_of_isRunning {stage : CaseStage ρ} (running : stage.isRunning = true) :
    stage.isHolding = true := by
  -- It is neither in line nor done with.
  cases stage <;> first | rfl | cases running

end CaseStage

/-- A case that has moved on has told no failure yet. -/
theorem SchedulePolicy.toldFailure_settle (policy : SchedulePolicy) (case : TestCase) (began now : Duration)
    (progress : Progress ρ) : (policy.settle case began now progress).toldFailure = false := by
  -- It waits, has returned or died.
  obtain ⟨wait, same⟩ | ⟨own, same⟩ | same := policy.settle_cases case began now progress <;>
    simp [same, CaseStage.toldFailure, CaseStage.told?]

/-- Whether a move belongs to the run of a case, up to telling its result. -/
def Act.isOfRun : Act → Bool
  | .start => true
  | .wake => true
  | .expire => true
  | .announce => true
  | _ => false

section Moves

variable {plan : SchedulePlan σ ρ} {schedule after : Schedule σ ρ} {place : Nat} {case : TestCase}
  {stage : CaseStage ρ} {act : Act}

/-- Only telling a failure halts a suite, and nothing lets a halted suite go on. -/
theorem Moved.halted (moved : Moved plan schedule place case stage act after) :
    after.halted = schedule.halted ∨ ∃ result, act = .announce ∧ stage = .returned result ∧
      after.halted = (schedule.halted || (plan.policy.stopsOnFailure && result.isFailure)) := by
  -- All other moves leave the mark alone.
  cases moved with
  | announce => exact .inr ⟨_, rfl, rfl, rfl⟩
  | _ => exact .inl rfl

/-- A case that makes a move of its run is running. -/
theorem Moved.isRunning (moved : Moved plan schedule place case stage act after)
    (ofRun : act.isOfRun = true) : stage.isRunning = true := by
  -- Such moves are made after the check and before the result is told.
  cases moved <;> first | rfl | cases ofRun

end Moves

namespace Schedule

variable {plan : SchedulePlan σ ρ} {schedule ended : Schedule σ ρ} {move : Move} {moves : List Move}
  {place : Nat} {case : TestCase} {stage : CaseStage ρ}

/-- A case that was started is past its start. -/
theorem isPast_of_start {cases : List TestCase} {now : Duration} {world : σ}
    (followed : (ofCases plan.policy cases now world).follow plan moves = some ended)
    (started : ⟨place, .start⟩ ∈ moves) (found : ended.slots[place]? = some ⟨case, stage⟩) :
    stage.isPast = true := by
  -- It gets past its start when it starts, and stays so.
  have kept := follow_induction (fun past middle => ⟨place, .start⟩ ∈ past →
    ∃ case stage, middle.slots[place]? = some ⟨case, stage⟩ ∧ stage.isPast = true) (by simp)
    (fun past middle move _ kept permitted started => by
      obtain ⟨own, current, standing, moved⟩ := moved_of_permits permitted
      by_cases same : move.place = place
      · subst same
        have past : move.act = .start ∨ current.isPast = true := by
          obtain before | now := List.mem_append.1 started
          · obtain ⟨_, _, found, past⟩ := kept before
            rw [standing] at found
            cases found
            exact .inr past
          · exact .inl (congrArg Move.act (List.mem_singleton.1 now)).symm
        obtain ⟨next, foundNext, pastNext⟩ := moved.isPast standing past
        exact ⟨own, next, foundNext, pastNext⟩
      · have before : ⟨place, .start⟩ ∈ past := by
          refine (List.mem_append.1 started).resolve_right fun now => same ?_
          rw [← List.mem_singleton.1 now]
        obtain ⟨case, stage, found, past⟩ := kept before
        exact ⟨case, stage, (moved.elsewhere same).trans found, past⟩) followed
  obtain ⟨_, _, standing, past⟩ := kept started
  rw [found] at standing
  cases standing
  exact past

/-- Among moves from a schedule there is one by which a case told a failure. -/
def FailureTold (plan : SchedulePlan σ ρ) (schedule : Schedule σ ρ) (moves : List Move) : Prop :=
  -- The case had returned with the failure when its turn came.
  ∃ before place after told case result, moves = before ++ ⟨place, .announce⟩ :: after ∧
    schedule.follow plan before = some told ∧ told.slots[place]? = some ⟨case, .returned result⟩ ∧
    result.isFailure = true

/-- A failure that was told remains told. -/
theorem FailureTold.append (told : FailureTold plan schedule moves) (more : List Move) :
    FailureTold plan schedule (moves ++ more) := by
  -- The moves to it are the same.
  obtain ⟨before, place, after, middle, case, result, rfl, reached⟩ := told
  exact ⟨before, place, after ++ more, middle, case, result, by simp, reached⟩

/-- A suite is halted only by a failure, and only when failures are to stop it. -/
theorem failureTold_of_halted {cases : List TestCase} {now : Duration} {world : σ}
    (followed : (ofCases plan.policy cases now world).follow plan moves = some ended)
    (halted : ended.halted = true) :
    plan.policy.stopsOnFailure = true ∧ FailureTold plan (ofCases plan.policy cases now world) moves := by
  -- The mark was set by the move that told the failure.
  refine follow_induction (fun past middle => middle.halted = true → plan.policy.stopsOnFailure = true ∧
    FailureTold plan (ofCases plan.policy cases now world) past) ?_ ?_ followed halted
  · intro halted
    cases halted
  · intro past middle move reached kept permitted halted
    obtain ⟨place, act⟩ := move
    obtain ⟨case, stage, found, moved⟩ := moved_of_permits permitted
    have remains (before : middle.halted = true) :=
      (kept before).imp_right fun told => told.append [⟨place, act⟩]
    obtain same | ⟨result, rfl, rfl, set⟩ := moved.halted
    · exact remains (same ▸ halted)
    · rw [set, Bool.or_eq_true, Bool.and_eq_true] at halted
      obtain before | ⟨stops, failed⟩ := halted
      · exact remains before
      · exact ⟨stops, past, place, [], middle, case, result, rfl, reached, found, failed⟩

/--
How a case was passed over: all it has to hand over is that it was skipped.

Failures are to stop the suite, and one was told before its check.
-/
structure PassedOver (plan : SchedulePlan σ ρ) (schedule : Schedule σ ρ) (moves : List Move) (place : Nat)
    (case : TestCase) (stage : CaseStage ρ) : Prop where
  told : stage.told? = some (.skipped case.name)
  stops : plan.policy.stopsOnFailure = true
  cause : ∃ before after, moves = before ++ ⟨place, .check⟩ :: after ∧ FailureTold plan schedule before

/-- A case that was passed over remains so while it has the same to hand over. -/
theorem PassedOver.append {next : CaseStage ρ} (passed : PassedOver plan schedule moves place case stage)
    (same : next.told? = stage.told?) (more : List Move) :
    PassedOver plan schedule (moves ++ more) place case next := by
  -- The moves up to its check are the same.
  obtain ⟨before, after, rfl, failure⟩ := passed.cause
  exact ⟨same.trans passed.told, passed.stops, before, after ++ more, by simp, failure⟩

/-- A case that is past its start without having been started was passed over. -/
theorem passedOver_of_not_start {cases : List TestCase} {now : Duration} {world : σ}
    (followed : (ofCases plan.policy cases now world).follow plan moves = some ended)
    (found : ended.slots[place]? = some ⟨case, stage⟩) (past : stage.isPast = true)
    (never : ⟨place, .start⟩ ∉ moves) :
    PassedOver plan (ofCases plan.policy cases now world) moves place case stage := by
  -- The check of a halted suite passes it over, and after that it only leaves.
  refine follow_induction (fun moves middle => ∀ case stage, middle.slots[place]? = some ⟨case, stage⟩ →
    stage.isPast = true → ⟨place, .start⟩ ∉ moves →
    PassedOver plan (ofCases plan.policy cases now world) moves place case stage) ?_ ?_ followed
    case stage found past never
  · intro case stage found past
    rw [queued_of_ofCases found] at past
    cases past
  · intro earlier middle move reached kept permitted case stage found past never
    have unstarted : ⟨place, .start⟩ ∉ earlier := fun started => never (List.mem_append_left _ started)
    have silent {before : CaseStage ρ} (standing : middle.slots[place]? = some ⟨case, before⟩)
        (pastBefore : before.isPast = true) (nothing : before.told? = none) : False := by
      have told := (kept case _ standing pastBefore unstarted).told
      simp [nothing] at told
    obtain ⟨_, standing⟩ | ⟨rfl, before, standing, leads⟩ := slot_of_apply permitted found
    · exact (kept case stage standing past unstarted).append rfl [move]
    · obtain ⟨place, act⟩ := move
      cases leads with
      | enter => cases past
      | clear _ => cases past
      | skip halted =>
        rw [Bool.and_eq_true] at halted
        exact ⟨rfl, halted.1, earlier, [], rfl, (failureTold_of_halted reached halted.2).2⟩
      | start _ => exact absurd (List.mem_append_right _ List.mem_cons_self) never
      | leave =>
        refine (kept case _ standing rfl unstarted).append ?_ _
        rfl
      | wake _ _ => exact (silent standing rfl rfl).elim
      | expire _ => exact (silent standing rfl rfl).elim
      | announce => exact (silent standing rfl rfl).elim

/-- A case that is never started makes no move of a run. -/
theorem not_isOfRun_of_not_start {cases : List TestCase} {now : Duration} {world : σ}
    (followed : (ofCases plan.policy cases now world).follow plan moves = some ended)
    (never : ⟨place, .start⟩ ∉ moves) (member : move ∈ moves) (own : move.place = place) :
    move.act.isOfRun = false := by
  -- It would be running then without having been passed over.
  subst own
  obtain ⟨before, after, rfl⟩ := List.append_of_mem member
  obtain ⟨middle, reached, permitted, _⟩ := follow_split followed
  obtain ⟨case, stage, found, moved⟩ := moved_of_permits permitted
  have silent (past : stage.isPast = true) (nothing : stage.told? = none) : False := by
    have told := (passedOver_of_not_start reached found past
      fun started => never (List.mem_append_left _ started)).told
    simp [nothing] at told
  obtain ⟨place, act⟩ := move
  generalize middle.apply plan ⟨place, act⟩ = onward at moved
  cases moved with
  | start _ => exact absurd (List.mem_append_right _ List.mem_cons_self) never
  | wake _ _ => exact (silent rfl rfl).elim
  | expire _ _ => exact (silent rfl rfl).elim
  | announce => exact (silent rfl rfl).elim
  | _ => rfl

/-- When failures are to stop a suite, it is halted exactly when a case has told a failure. -/
theorem halted_iff {cases : List TestCase} {now : Duration} {world : σ}
    (stops : plan.policy.stopsOnFailure = true)
    (followed : (ofCases plan.policy cases now world).follow plan moves = some ended) :
    ended.halted = true ↔ ∃ slot ∈ ended.slots, slot.stage.toldFailure = true := by
  -- The number of cases that have told a failure changes only when the mark is set.
  suffices counted : ended.halted = true ↔ 0 < CaseSlot.count CaseStage.toldFailure ended.slots from
    counted.trans List.countP_pos_iff
  refine follow_induction (fun _ middle =>
    middle.halted = true ↔ 0 < CaseSlot.count CaseStage.toldFailure middle.slots) ?_ ?_ followed
  · simp [ofCases, CaseSlot.count, CaseStage.toldFailure, CaseStage.told?]
  · rintro past middle ⟨place, act⟩ _ counted permitted
    obtain ⟨case, stage, found, moved⟩ := moved_of_permits permitted
    have count (next : CaseStage ρ) := CaseSlot.count_set CaseStage.toldFailure found next
    generalize middle.apply plan ⟨place, act⟩ = after at moved ⊢
    have same (next : CaseStage ρ) (slots : after.slots = middle.slots.set place ⟨case, next⟩)
        (halted : after.halted = middle.halted) (alike : next.toldFailure = stage.toldFailure) :
        after.halted = true ↔ 0 < CaseSlot.count CaseStage.toldFailure after.slots := by
      rw [halted, counted, slots, Nat.add_right_cancel ((count next).trans (by rw [alike]))]
    cases moved with
    | start _ => exact same _ rfl rfl (SchedulePolicy.toldFailure_settle _ _ _ _ _)
    | wake _ _ => exact same _ rfl rfl (SchedulePolicy.toldFailure_settle _ _ _ _ _)
    | @announce result =>
      have one_more := count (.leaving result)
      change CaseSlot.count _ _ + 0 = CaseSlot.count _ _ + result.isFailure.toNat at one_more
      simp only [put, stops, Bool.true_and, Bool.or_eq_true, counted]
      cases failed : result.isFailure with
      | true =>
        simp only [failed, Bool.toNat_true] at one_more
        simp only [or_true, true_iff]
        omega
      | false =>
        simp only [failed, Bool.toNat_false] at one_more
        simp only [Bool.false_eq_true, or_false]
        omega
    | _ => exact same _ rfl rfl rfl

/-- A suite that is halted remains so. -/
theorem halted_apply (permitted : schedule.permits plan.policy move) (halted : schedule.halted = true) :
    (schedule.apply plan move).halted = true := by
  -- The mark is only ever set.
  obtain ⟨_, _, _, moved⟩ := moved_of_permits permitted
  obtain same | ⟨_, _, _, set⟩ := moved.halted
  · exact same.trans halted
  · rw [set, halted, Bool.true_or]

/-- While a suite is halted, only cases that are running already make moves of their runs. -/
theorem isRunning_of_halted (stops : plan.policy.stopsOnFailure = true) (halted : schedule.halted = true)
    (followed : schedule.follow plan moves = some ended) (member : move ∈ moves)
    (ofRun : move.act.isOfRun = true) :
    ∃ case stage, schedule.slots[move.place]? = some ⟨case, stage⟩ ∧ stage.isRunning = true := by
  -- No case is let past the check, so a case that runs after a move was running before it.
  induction moves generalizing schedule with
  | nil => cases member
  | cons first rest ih =>
    obtain ⟨permitted, following⟩ := follow_cons followed
    obtain rfl | later := List.mem_cons.1 member
    · obtain ⟨case, stage, found, moved⟩ := moved_of_permits permitted
      exact ⟨case, stage, found, moved.isRunning ofRun⟩
    · obtain ⟨case, stage, found, running⟩ := ih (halted_apply permitted halted) following later
      obtain ⟨_, standing⟩ | ⟨_, before, standing, leads⟩ := slot_of_apply permitted found
      · exact ⟨case, stage, standing, running⟩
      · refine ⟨case, before, standing, ?_⟩
        obtain ⟨own, act⟩ := first
        cases leads with
        | clear unhalted => simp [stops, halted] at unhalted
        | start _ => rfl
        | wake _ _ => rfl
        | expire _ => rfl
        | _ => cases running

/-- The places of the cases that run. -/
def runningPlaces (schedule : Schedule σ ρ) : List Nat :=
  -- They are in case order.
  (schedule.slots.zipIdx.filter fun pair => pair.1.stage.isRunning).map (·.2)

/-- A case that runs is at one of the places of those that do. -/
theorem mem_runningPlaces : place ∈ schedule.runningPlaces ↔
    ∃ case stage, schedule.slots[place]? = some ⟨case, stage⟩ ∧ stage.isRunning = true := by
  simp only [runningPlaces, List.mem_map, List.mem_filter]
  constructor
  · rintro ⟨⟨⟨case, stage⟩, at_place⟩, ⟨member, running⟩, rfl⟩
    exact ⟨case, stage, List.mem_zipIdx_iff_getElem?.1 member, running⟩
  · rintro ⟨case, stage, found, running⟩
    exact ⟨(⟨case, stage⟩, place), ⟨List.mem_zipIdx_iff_getElem?.2 found, running⟩, rfl⟩

/-- There are as many places of cases that run as there are such cases. -/
theorem length_runningPlaces (schedule : Schedule σ ρ) :
    schedule.runningPlaces.length = CaseSlot.count CaseStage.isRunning schedule.slots := by
  -- Each case has one place.
  have counted := List.countP_map (p := fun slot : CaseSlot ρ => slot.stage.isRunning) (f := Prod.fst)
    (l := schedule.slots.zipIdx)
  rw [List.zipIdx_map_fst] at counted
  rw [runningPlaces, List.length_map, ← List.countP_eq_length_filter, CaseSlot.count, counted]
  rfl

/-- At most as many cases run as hold a slot. -/
theorem count_isRunning_le (schedule : Schedule σ ρ) :
    CaseSlot.count CaseStage.isRunning schedule.slots ≤ schedule.holding :=
  -- Each case that runs holds one.
  List.countP_mono_left fun _ _ running => CaseStage.isHolding_of_isRunning running

/-- After a failure was told, only other cases that were running make moves of their runs, fewer than there are slots. -/
theorem others_of_failure {cases : List TestCase} {now : Duration} {world : σ} {before after : List Move}
    {told : Schedule σ ρ} {result : PipelineResult} (stops : plan.policy.stopsOnFailure = true)
    (followed : (ofCases plan.policy cases now world).follow plan
      (before ++ ⟨place, .announce⟩ :: after) = some ended)
    (reached : (ofCases plan.policy cases now world).follow plan before = some told)
    (found : told.slots[place]? = some ⟨case, .returned result⟩) (failed : result.isFailure = true) :
    ∃ others : List Nat, others.length < plan.policy.slots ∧
      (∀ other ∈ others, other ≠ place ∧
        ∃ case stage, told.slots[other]? = some ⟨case, stage⟩ ∧ stage.isRunning = true) ∧
      ∀ move ∈ after, move.act.isOfRun = true → move.place ∈ others := by
  -- The others are the cases that run once the failure was told, one fewer than before.
  obtain ⟨middle, same, permitted, following⟩ := follow_split followed
  rw [reached] at same
  cases same
  obtain ⟨_, _, standing, moved⟩ := moved_of_permits permitted
  rw [show told.slots[place]? = _ from found] at standing
  cases standing
  generalize told.apply plan ⟨place, .announce⟩ = onward at moved following
  cases moved with
  | announce =>
    obtain ⟨inside, _⟩ := List.getElem?_eq_some_iff.1 found
    refine ⟨_, ?_, fun other member => ?_, fun move member ofRun =>
      mem_runningPlaces.2 (isRunning_of_halted stops ?_ following member ofRun)⟩
    · have fewer := CaseSlot.count_set CaseStage.isRunning found (.leaving result)
      have balance := holding_add_free reached
      have held := count_isRunning_le told
      simp only [CaseStage.isRunning, Bool.toNat_true, Bool.toNat_false] at fewer
      simp only [length_runningPlaces, put]
      omega
    · obtain ⟨own, stage, standing, running⟩ := mem_runningPlaces.1 member
      have different : other ≠ place := by
        rintro rfl
        simp only [put, List.getElem?_set_self inside] at standing
        cases standing
        cases running
      refine ⟨different, own, stage, ?_, running⟩
      simpa only [put, List.getElem?_set_ne different.symm] using standing
    · simp [put, stops, failed]

end Schedule

end PipelineTrial
