import PipelineTrial.Proofs.Suite.Honesty
import PipelineTrial.Proofs.Suite.Isolation
import PipelineTrial.Proofs.Suite.Makespan

/-! How long a suite takes: no longer than its cases may in rounds, and long enough for all that they report. -/

namespace PipelineTrial

variable {σ ρ : Type} {Since : Duration → ρ → Prop}

/-- The nanoseconds that a case has spent by a time: those since it began, or those told of once its run is over. -/
def CaseStage.spent (now : Duration) : CaseStage ρ → Nat
  | .active began _ => (now - began).nanoseconds
  | .returned result => result.duration.nanoseconds
  | .leaving result => result.duration.nanoseconds
  | .reported result => result.duration.nanoseconds
  | _ => 0

/-- A case spends time only while it holds a slot. -/
theorem CaseStage.spent_le_add {now later : Duration} (onward : now ≤ later) (stage : CaseStage ρ) :
    stage.spent later ≤ stage.spent now + (later - now).nanoseconds * stage.isHolding.toNat := by
  -- An active case spends all the time that passes.
  rw [Duration.le_iff] at onward
  cases stage with
  | active began wait =>
    simp only [spent, isHolding, isQueued, isOver, Duration.nanoseconds_sub, Bool.not_false, Bool.and_self,
      Bool.toNat_true, Nat.mul_one]
    omega
  | _ => exact Nat.le_add_right _ _

/-- A case whose run moved on honestly has spent no more than the time since it began. -/
theorem SchedulePolicy.spent_settle_le {policy : SchedulePolicy} {case : TestCase} {began now : Duration}
    {progress : Progress ρ} (honest : progress.Honest Since began now) :
    (policy.settle case began now progress).spent now ≤ (now - began).nanoseconds := by
  -- It goes on since the same time, has returned or died.
  obtain ⟨wait, same⟩ | ⟨own, same⟩ | same := policy.settle_cases case began now progress
  · rw [same]
    exact Nat.le_refl _
  · rw [same]
    exact (returned_of_settle honest same).2
  · rw [same]
    exact Nat.zero_le _

/-- In a move to a time, a case tells of no more time than it has spent by then. -/
theorem Moved.spent_le {plan : SchedulePlan σ ρ} {schedule after : Schedule σ ρ} {place : Nat}
    {case : TestCase} {stage : CaseStage ρ} {act : Act} (honest : plan.backend.Honest Since)
    (since : ∀ began due run, stage = .active began (some (due, run)) → Since began run)
    (moved : Moved plan schedule place case stage act after) :
    ∃ next, after.slots = schedule.slots.set place ⟨case, next⟩ ∧
      next.spent after.now ≤ stage.spent after.now := by
  -- Only a run that moves on or ends can tell of time.
  cases moved with
  | start started =>
    refine ⟨_, rfl, ?_⟩
    exact Nat.le_trans (SchedulePolicy.spent_settle_le (plan.honest_of_startCase honest started))
      (Nat.le_of_eq (Nat.sub_self _))
  | wake _ resumed =>
    exact ⟨_, rfl, SchedulePolicy.spent_settle_le (honest.of_resume (since _ _ _ rfl) resumed)⟩
  | @expire began limit _ _ _ =>
    refine ⟨_, rfl, ?_⟩
    simp [CaseStage.spent, Schedule.put, TestCase.timeoutResult, PipelineResult.aborted, PipelineResult.errored]
  | _ => exact ⟨_, rfl, Nat.le_refl _⟩

/-- Since a time no case has spent more than has passed, and all together no more than all slots offered. -/
structure Worked (start : Duration) (policy : SchedulePolicy) (schedule : Schedule σ ρ) : Prop where
  onward : start ≤ schedule.now
  each : ∀ slot ∈ schedule.slots, slot.stage.spent schedule.now ≤ (schedule.now - start).nanoseconds
  sum : CaseSlot.total (CaseStage.spent schedule.now) schedule.slots ≤
    policy.slots * (schedule.now - start).nanoseconds

namespace Worked

variable {plan : SchedulePlan σ ρ} {schedule ended : Schedule σ ρ} {move : Move} {moves : List Move}
  {start : Duration}

/-- When time passes, each case that holds a slot spends it. -/
theorem passes {policy : SchedulePolicy} {later : Duration} (worked : Worked start policy schedule)
    (balance : schedule.holding + schedule.free = policy.slots) (onward : schedule.now ≤ later) :
    (∀ slot ∈ schedule.slots, slot.stage.spent later ≤ (later - start).nanoseconds) ∧
      CaseSlot.total (CaseStage.spent later) schedule.slots ≤ policy.slots * (later - start).nanoseconds := by
  -- No more cases hold a slot than there are slots.
  have begun := Duration.le_iff.1 worked.onward
  have ahead := Duration.le_iff.1 onward
  constructor
  · intro slot member
    have before := worked.each slot member
    have added := slot.stage.spent_le_add onward
    cases held : slot.stage.isHolding <;>
      simp only [held, Bool.toNat_true, Bool.toNat_false, Duration.nanoseconds_sub] at added before ⊢ <;>
      omega
  · have held : schedule.holding ≤ policy.slots := by omega
    calc CaseSlot.total (CaseStage.spent later) schedule.slots
        ≤ CaseSlot.total (fun stage => stage.spent schedule.now +
            (later - schedule.now).nanoseconds * stage.isHolding.toNat) schedule.slots :=
          CaseSlot.total_mono fun slot _ => slot.stage.spent_le_add onward
      _ = CaseSlot.total (CaseStage.spent schedule.now) schedule.slots +
            (later - schedule.now).nanoseconds * schedule.holding := by
          rw [CaseSlot.total_add, CaseSlot.total_mul, Schedule.holding, CaseSlot.count_eq_total]
      _ ≤ policy.slots * (schedule.now - start).nanoseconds +
            policy.slots * (later - schedule.now).nanoseconds := by
          refine Nat.add_le_add worked.sum ?_
          rw [Nat.mul_comm policy.slots]
          exact Nat.mul_le_mul_left _ held
      _ = policy.slots * (later - start).nanoseconds := by
          rw [← Nat.mul_add]
          congr 1
          simp only [Duration.nanoseconds_sub]
          omega

/-- The time that cases have spent remains within what has passed in each move. -/
theorem apply (honest : plan.backend.Honest Since) (worked : Worked start plan.policy schedule)
    (since : schedule.RunsSince Since) (timely : Timely plan.policy schedule)
    (balance : schedule.holding + schedule.free = plan.policy.slots)
    (permitted : schedule.permits plan.policy move) :
    Worked start plan.policy (schedule.apply plan move) := by
  -- Time passes first, and then the case that moves tells of no more than it has spent.
  have onward := (timely.passes permitted).onward
  obtain ⟨each, sum⟩ := worked.passes balance onward
  obtain ⟨case, stage, found, moved⟩ := Schedule.moved_of_permits permitted
  have member := List.mem_of_getElem? found
  have own : ∀ began due run, stage = .active began (some (due, run)) → Since began run := since _ member
  obtain ⟨next, slots, less⟩ := moved.spent_le honest own
  refine ⟨Nat.le_trans worked.onward onward, fun slot inside => ?_, ?_⟩
  · rw [slots] at inside
    obtain earlier | rfl := List.mem_or_eq_of_mem_set inside
    · exact each slot earlier
    · exact Nat.le_trans less (each _ member)
  · have added := CaseSlot.total_set (CaseStage.spent (schedule.apply plan move).now) found next
    rw [slots]
    omega

/-- The time that cases have spent remains within what has passed, in whatever order they move. -/
theorem follow {cases : List TestCase} {world : σ} (honest : plan.backend.Honest Since)
    (followed : (Schedule.ofCases plan.policy cases start world).follow plan moves = some ended) :
    Worked start plan.policy ended := by
  -- Cases in line have spent none.
  refine Schedule.follow_induction (fun _ middle => Worked start plan.policy middle) ?_ ?_ followed
  · have unspent : CaseSlot.total (CaseStage.spent start)
        (Schedule.ofCases plan.policy cases start world : Schedule σ ρ).slots = 0 := by
      simp [CaseSlot.total, Schedule.ofCases, Function.comp_def, CaseStage.spent, List.map_const']
    refine ⟨Nat.le_refl _, fun slot member => ?_, Nat.le_trans (Nat.le_of_eq unspent) (Nat.zero_le _)⟩
    obtain ⟨place, found⟩ := List.getElem?_of_mem member
    rw [Schedule.queued_of_ofCases found]
    exact Nat.zero_le _
  · intro past middle move reached worked permitted
    exact worked.apply honest (Schedule.runsSince_of_follow honest reached) (Timely.follow reached)
      (Schedule.holding_add_free reached) permitted

end Worked

/-- What a suite reports of a case that is done with. -/
def CaseSlot.report (slot : CaseSlot ρ) : PipelineResult :=
  -- A case whose task died has not told anything.
  match slot.stage with
  | .reported result => result
  | _ => slot.case.deadResult

/-- A suite reports no more of a case that is done with than the time that it has spent. -/
theorem CaseSlot.duration_report {slot : CaseSlot ρ} (finished : slot.stage.isOver = true) (now : Duration) :
    slot.report.duration.nanoseconds = slot.stage.spent now := by
  -- A case whose task died is reported without a time.
  obtain ⟨case, stage⟩ := slot
  cases stage with
  | reported result => rfl
  | dead => rfl
  | _ => cases finished

/-- No result of a suite takes longer than the suite, and all together take no longer than so many at a time can. -/
structure DurationsWithin (slots : Nat) (suite : SuiteResult) : Prop where
  each : ∀ result ∈ suite.results, result.duration ≤ suite.duration
  sum : (suite.results.map (·.duration.nanoseconds)).sum ≤ slots * suite.duration.nanoseconds

namespace Suite

variable {backend : Backend σ ρ} {config : SuiteConfig} {cases : List TestCase} {session : Session}
  {now : Duration} {world : σ} {moves : List Move} {ended : Schedule σ ρ}

/-- The results of a suite are the reports of its cases in case order. -/
theorem Completed.results_eq (completed : Completed backend config cases session now world moves ended) :
    (conclude cases session now ended).1.results = ended.slots.map CaseSlot.report := by
  -- There is one entry for each case, at its place.
  refine List.ext_getElem? fun place => ?_
  cases named : cases[place]? with
  | none =>
    have outside := List.getElem?_eq_none_iff.1 named
    rw [List.getElem?_eq_none (by simpa [conclude] using outside),
      List.getElem?_eq_none (by simpa [completed.length_slots] using outside)]
  | some case =>
    obtain ⟨stage, result, found, entry, rfl | ⟨rfl, rfl⟩⟩ :=
      completed.getElem?_gatherReports (List.Perm.refl _) place case named
    · rw [List.getElem?_map, found]
      exact entry
    · rw [List.getElem?_map, found]
      exact entry

/-- On an honest backend the results of a suite take no longer than the suite does on its slots. -/
theorem Completed.durationsWithin (completed : Completed backend config cases session now world moves ended)
    (honest : backend.Honest Since) :
    DurationsWithin config.effectiveConcurrency (conclude cases session now ended).1 := by
  -- What the cases report is what they have spent.
  have worked := Worked.follow honest completed.followed
  have finished (slot : CaseSlot ρ) (member : slot ∈ ended.slots) : slot.stage.isOver = true :=
    List.all_eq_true.1 completed.allOver slot member
  constructor
  · intro result member
    rw [completed.results_eq, List.mem_map] at member
    obtain ⟨slot, member, rfl⟩ := member
    have each := worked.each slot member
    rwa [← slot.duration_report (finished slot member)] at each
  · have reports : (ended.slots.map CaseSlot.report).map (·.duration.nanoseconds) =
        ended.slots.map fun slot => slot.stage.spent ended.now := by
      rw [List.map_map]
      exact List.map_congr_left fun slot member => slot.duration_report (finished slot member) ended.now
    rw [completed.results_eq, reports]
    exact worked.sum

/-- Under a limit a suite takes no longer than the rounds that it takes to let all of its cases begin. -/
theorem Completed.duration_le (completed : Completed backend config cases session now world moves ended)
    {limit : Duration} (limited : config.timeout = some limit) :
    (conclude cases session now ended).1.duration.nanoseconds ≤
      (cases.length + config.effectiveConcurrency - 1) / config.effectiveConcurrency * limit.nanoseconds := by
  -- The schedule has kept the pace to its end.
  have some_slot : 0 < config.policy.slots := Nat.lt_of_lt_of_le Nat.zero_lt_one (Nat.le_max_right _ _)
  have paced := Paced.follow some_slot limited completed.followed
  have within := Duration.le_iff.1 paced.within
  rw [completed.length_slots] at within
  change (ended.now - now).nanoseconds ≤ (cases.length + config.policy.slots - 1) / config.policy.slots * _
  simp only [Duration.afterRounds, Duration.nanoseconds_sub] at within ⊢
  omega

/--
A suite takes at most as many rounds of its limit as its cases fill when so many run at a time as may.

It takes at least as long as each of its results, and on its slots as long as all of them together.
-/
theorem duration_bounded (config : SuiteConfig) (cases : List TestCase) (session : Session) (now : Duration)
    (moves : List Move) :
    (∀ (σ ρ : Type) (backend : Backend σ ρ) (world : σ) (ended : Schedule σ ρ) (limit : Duration),
      Completed backend config cases session now world moves ended → config.timeout = some limit →
        (conclude cases session now ended).1.duration.nanoseconds ≤
          (cases.length + config.effectiveConcurrency - 1) / config.effectiveConcurrency *
            limit.nanoseconds) ∧
    (∀ (σ : Type) (executor : Executor σ) (settings : EngineSettings) (world : σ)
        (ended : Schedule σ Engine.Pending),
      Completed (Engine.backend executor settings) config cases session now world moves ended →
        DurationsWithin config.effectiveConcurrency (conclude cases session now ended).1) ∧
    (∀ (σ : Type) (platform : Platform σ) (patience : Patience) (verdictKey : String) (world : σ)
        (ended : Schedule σ RemoteRun),
      Completed (Polling.backend platform patience verdictKey session.id) config cases session now world
          moves ended →
        DurationsWithin config.effectiveConcurrency (conclude cases session now ended).1) := by
  -- Both the engine and a platform are honest about time.
  refine ⟨?_, ?_, ?_⟩
  · intro σ ρ backend world ended limit completed limited
    exact completed.duration_le limited
  · intro σ executor settings world ended completed
    exact completed.durationsWithin (Engine.backend_honest executor settings)
  · intro σ platform patience verdictKey world ended completed
    exact completed.durationsWithin (Polling.backend_honest platform patience verdictKey session.id)

/-- One case at a time, each for a second at most. -/
def secondConfig : SuiteConfig := ⟨1, some 1, false, .default, none⟩

/-- The order in which two cases run out of time one after the other. -/
def expiringMoves : List Move :=
  -- Each case makes the same moves.
  [0, 1].flatMap fun place =>
    [⟨place, .enter⟩, ⟨place, .check⟩, ⟨place, .start⟩, ⟨place, .expire⟩, ⟨place, .announce⟩, ⟨place, .leave⟩]

/-- Without any reply two cases take both of their seconds, which is what their rounds allow. -/
theorem duration_bounded_twins :
    (∃ ended, Completed .prepared secondConfig twins ⟨"session", Dictionary.empty⟩ Duration.zero []
        expiringMoves ended ∧
      (conclude twins ⟨"session", Dictionary.empty⟩ Duration.zero ended).1.duration = .ofSeconds 2 ∧
      2000000000 ≤ (2 + 1 - 1) / 1 * (Duration.ofSeconds 1).nanoseconds) ∧
    (∃ ended, Completed (Engine.backend .prepared .default) secondConfig twins ⟨"session", Dictionary.empty⟩
        Duration.zero [] expiringMoves ended ∧
      DurationsWithin 1 (conclude twins ⟨"session", Dictionary.empty⟩ Duration.zero ended).1) ∧
    (∃ ended, Completed (Polling.backend .prepared .default "ok" "session") secondConfig twins
        ⟨"session", Dictionary.empty⟩ Duration.zero [] expiringMoves ended ∧
      DurationsWithin 1 (conclude twins ⟨"session", Dictionary.empty⟩ Duration.zero ended).1) := by
  -- The order is possible on each backend.
  have bounded := (duration_bounded secondConfig twins ⟨"session", Dictionary.empty⟩ Duration.zero
    expiringMoves).1 _ _ .prepared [] _ (.ofSeconds 1) ⟨rfl, rfl⟩ rfl
  have locally := (duration_bounded secondConfig twins ⟨"session", Dictionary.empty⟩ Duration.zero
    expiringMoves).2.1 _ .prepared .default [] _ ⟨rfl, rfl⟩
  have remotely := (duration_bounded secondConfig twins ⟨"session", Dictionary.empty⟩ Duration.zero
    expiringMoves).2.2 _ .prepared .default "ok" [] _ ⟨rfl, rfl⟩
  exact ⟨⟨_, ⟨rfl, rfl⟩, rfl, bounded⟩, ⟨_, ⟨rfl, rfl⟩, locally⟩, ⟨_, ⟨rfl, rfl⟩, remotely⟩⟩

end Suite

end PipelineTrial
