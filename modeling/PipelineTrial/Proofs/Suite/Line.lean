import PipelineTrial.Proofs.Suite.Admission
import PipelineTrial.Proofs.Suite.Isolation

/-! One case at a time, in line: behind a failure that was told every case is passed over, and before it none is. -/

namespace PipelineTrial

variable {σ ρ κ : Type}

namespace Schedule

section Single

variable {plan : SchedulePlan σ ρ} {cases : List TestCase} {now : Duration} {world : σ}
  {moves : List Move} {ended : Schedule σ ρ}

/-- With one slot, the first in line takes it only when all cases before it are done with. -/
theorem isOver_of_enter {middle : Schedule σ ρ} {move : Move} (single : plan.policy.slots = 1)
    (reached : (ofCases plan.policy cases now world).follow plan moves = some middle)
    (permitted : middle.permits plan.policy move = true) (enters : move.act = .enter)
    (front : middle.slots.findIdx? (·.stage.isQueued) = some move.place) {first : Nat}
    (before : first < move.place) {case : TestCase} {stage : CaseStage ρ}
    (found : middle.slots[first]? = some ⟨case, stage⟩) : stage.isOver = true := by
  -- The slot is free, so no case holds it, and the cases before the first in line have left the line.
  obtain ⟨_, _, _, _, room⟩ := enabled_of_permits permitted
  have balance := holding_add_free reached
  have unheld : stage.isHolding = false := by
    refine Bool.eq_false_iff.2 fun holds => ?_
    have held : 0 < middle.holding := List.countP_pos_iff.2 ⟨_, List.mem_of_getElem? found, holds⟩
    have free := room enters
    omega
  have ahead : stage.isQueued = false := by
    obtain ⟨_, _, none_before⟩ := List.findIdx?_eq_some_iff_getElem.1 front
    obtain ⟨inside, at_place⟩ := List.getElem?_eq_some_iff.1 found
    have passed := none_before first before
    rw [at_place] at passed
    simpa using passed
  simpa [CaseStage.isHolding, ahead] using unheld

/-- With one slot, taken in line, every case before one that has left the line is done with. -/
theorem isOver_of_before (single : plan.policy.slots = 1)
    (followed : (ofCases plan.policy cases now world).follow plan moves = some ended)
    (inLine : (ofCases plan.policy cases now world).keepsLine plan moves = true) {first second : Nat}
    (before : first < second) {case other : TestCase} {stage later : CaseStage ρ}
    (found : ended.slots[first]? = some ⟨case, stage⟩) (foundLater : ended.slots[second]? = some ⟨other, later⟩)
    (left : later.isQueued = false) : stage.isOver = true := by
  -- The first in line takes the slot only when the case before it has given it back.
  refine follow_induction (fun past middle => (ofCases plan.policy cases now world).keepsLine plan past = true →
    ∀ first second case other stage later, first < second → middle.slots[first]? = some ⟨case, stage⟩ →
      middle.slots[second]? = some ⟨other, later⟩ → later.isQueued = false → stage.isOver = true) ?_ ?_
    followed inLine first second case other stage later before found foundLater left
  · intro _ first second case other stage later _ _ foundLater left
    rw [queued_of_ofCases foundLater] at left
    cases left
  · intro past middle move reached kept permitted inLine first second case other stage later before found
      foundLater left
    obtain ⟨keptLine, front⟩ := keepsLine_concat reached inLine
    have finished := kept keptLine first second
    obtain ⟨_, standing⟩ | ⟨own, earlier, standing, leads⟩ := slot_of_apply permitted foundLater
    · obtain ⟨_, same⟩ | ⟨_, ahead, same, onward⟩ := slot_of_apply permitted found
      · exact finished _ _ _ _ before same standing left
      · have done := finished _ _ _ _ before same standing left
        simp [onward.unfinished] at done
    · have same : middle.slots[first]? = some ⟨case, stage⟩ := by
        obtain ⟨_, same⟩ | ⟨also, _⟩ := slot_of_apply permitted found
        · exact same
        · omega
      cases queued : earlier.isQueued with
      | false => exact finished _ _ _ _ before same standing queued
      | true =>
        have enters : move.act = .enter := by
          obtain ⟨place, act⟩ := move
          cases leads <;> first | rfl | cases queued
        exact isOver_of_enter single reached permitted enters (front enters) (own ▸ before) same

variable (single : plan.policy.slots = 1) (stops : plan.policy.stopsOnFailure = true)
  (followed : (ofCases plan.policy cases now world).follow plan moves = some ended)
  (inLine : (ofCases plan.policy cases now world).keepsLine plan moves = true)

include single stops followed inLine

/-- Once a case was reported to have failed, no later one starts. -/
theorem not_start_of_failure {first second : Nat} (before : first < second) {own case : TestCase}
    {result : PipelineResult} {stage : CaseStage ρ}
    (reported : ended.slots[first]? = some ⟨own, .reported result⟩) (failed : result.isFailure = true)
    (found : ended.slots[second]? = some ⟨case, stage⟩) : ⟨second, .start⟩ ∉ moves := by
  -- Later cases are in line when the failure is told, and find the suite halted after that.
  suffices stopped : ⟨second, .start⟩ ∉ moves ∧ stage ≠ .cleared from stopped.1
  refine follow_induction (fun past middle => (ofCases plan.policy cases now world).keepsLine plan past = true →
    ∀ own result, middle.slots[first]? = some ⟨own, .reported result⟩ → result.isFailure = true →
      ∀ case stage, middle.slots[second]? = some ⟨case, stage⟩ →
        ⟨second, .start⟩ ∉ past ∧ stage ≠ .cleared) ?_ ?_ followed inLine own result reported failed case
    stage found
  · intro _ own result reported
    cases queued_of_ofCases reported
  · rintro past middle ⟨place, act⟩ reached kept permitted inLine own result reported failed case stage found
    obtain ⟨keptLine, _⟩ := keepsLine_concat reached inLine
    rw [List.mem_append, List.mem_singleton, not_or]
    obtain ⟨_, standingFirst⟩ | ⟨rfl, ahead, standingFirst, onward⟩ := slot_of_apply permitted reported
    · have halted : middle.halted = true := (halted_iff stops reached).2
        ⟨_, List.mem_of_getElem? standingFirst, failed⟩
      have stopped := kept keptLine own result standingFirst failed case
      obtain ⟨different, standing⟩ | ⟨rfl, earlier, standing, leads⟩ := slot_of_apply permitted found
      · exact ⟨⟨(stopped _ standing).1, fun same => different (congrArg Move.place same).symm⟩,
          (stopped _ standing).2⟩
      · obtain ⟨unstarted, uncleared⟩ := stopped _ standing
        cases leads with
        | clear unhalted => simp [stops, halted] at unhalted
        | start _ => exact absurd rfl uncleared
        | @wake began due run progress _ _ _ =>
          refine ⟨⟨unstarted, by simp⟩, fun same => ?_⟩
          have past := plan.policy.isPast_settle case began due progress
          rw [same] at past
          cases past
        | _ => exact ⟨⟨unstarted, by simp⟩, by simp⟩
    · obtain ⟨_, standing⟩ | ⟨also, _⟩ := slot_of_apply permitted found
      · have queued : stage.isQueued = true := by
          refine Decidable.not_not.1 fun left => ?_
          have finished := isOver_of_before single reached keptLine before standingFirst standing (by simpa using left)
          simp [onward.unfinished] at finished
        cases stage with
        | queued =>
          refine ⟨⟨fun started => ?_, fun same => ?_⟩, by simp⟩
          · cases isPast_of_start reached started standing
          · have same_place : second = place := congrArg Move.place same
            exact absurd before (by simp [same_place])
        | _ => cases queued
      · have same_place : place = second := also
        omega

/-- While a case is to see whether its suite was halted, it was halted only by a case before it that was reported. -/
theorem failure_of_halted (halted : ended.halted = true) {place : Nat} {case : TestCase}
    (standing : ended.slots[place]? = some ⟨case, .admitted⟩) :
    ∃ first, first < place ∧ ∃ own result,
      ended.slots[first]? = some ⟨own, .reported result⟩ ∧ result.isFailure = true := by
  -- A case that has told a failure is out of line, so it stands before the one at its check and is done with.
  obtain ⟨⟨own, told⟩, member, failed⟩ := (halted_iff stops followed).1 halted
  obtain ⟨first, found⟩ := List.getElem?_of_mem member
  obtain smaller | rfl | larger := Nat.lt_trichotomy first place
  · have finished := isOver_of_before single followed inLine smaller found standing rfl
    refine ⟨first, smaller, own, ?_⟩
    cases told with
    | reported result => exact ⟨result, found, failed⟩
    | dead => cases failed
    | _ => cases finished
  · rw [standing] at found
    cases found
    cases failed
  · have left : told.isQueued = false := by
      cases told with
      | queued => cases failed
      | _ => rfl
    cases isOver_of_before single followed inLine larger standing found left

/-- A case that is past its start without having been started comes after one that was reported to have failed. -/
theorem failure_of_not_start {place : Nat} {case : TestCase} {stage : CaseStage ρ}
    (found : ended.slots[place]? = some ⟨case, stage⟩) (past : stage.isPast = true)
    (never : ⟨place, .start⟩ ∉ moves) :
    ∃ first, first < place ∧ ∃ own result,
      ended.slots[first]? = some ⟨own, .reported result⟩ ∧ result.isFailure = true := by
  -- At its check a case before it has told a failure, which has given its slot back by then.
  refine follow_induction (fun past middle => (ofCases plan.policy cases now world).keepsLine plan past = true →
    ∀ case stage, middle.slots[place]? = some ⟨case, stage⟩ → stage.isPast = true → ⟨place, .start⟩ ∉ past →
      ∃ first, first < place ∧ ∃ own result,
        middle.slots[first]? = some ⟨own, .reported result⟩ ∧ result.isFailure = true) ?_ ?_
    followed inLine case stage found past never
  · intro _ case stage found past
    rw [queued_of_ofCases found] at past
    cases past
  · intro earlier middle move reached kept permitted inLine case stage found past never
    obtain ⟨keptLine, _⟩ := keepsLine_concat reached inLine
    have remains (failure : ∃ first, first < place ∧ ∃ own result,
        middle.slots[first]? = some ⟨own, .reported result⟩ ∧ result.isFailure = true) :
        ∃ first, first < place ∧ ∃ own result,
          (middle.apply plan move).slots[first]? = some ⟨own, .reported result⟩ ∧
            result.isFailure = true := by
      obtain ⟨first, before, own, result, reported, failed⟩ := failure
      exact ⟨first, before, own, result, slot_apply_of_isOver permitted reported rfl, failed⟩
    have unstarted : ⟨place, .start⟩ ∉ earlier := fun started => never (List.mem_append_left _ started)
    have before {stage : CaseStage ρ} (standing : middle.slots[place]? = some ⟨case, stage⟩)
        (past : stage.isPast = true) := remains (kept keptLine case stage standing past unstarted)
    obtain ⟨_, standing⟩ | ⟨rfl, current, standing, leads⟩ := slot_of_apply permitted found
    · exact before standing past
    · obtain ⟨place, act⟩ := move
      cases leads with
      | enter => cases past
      | clear _ => cases past
      | start _ => exact absurd (List.mem_append_right _ List.mem_cons_self) never
      | skip halted =>
        rw [stops, Bool.true_and] at halted
        exact remains (failure_of_halted single stops reached keptLine halted standing)
      | wake _ _ => exact before standing rfl
      | expire _ => exact before standing rfl
      | announce => exact before standing rfl
      | leave => exact before standing rfl

end Single

end Schedule

/-- A case that makes no move of a run is told nothing by its collaborators. -/
theorem Listener.overhear_eq_nil (listener : Listener σ ρ κ) (plan : SchedulePlan σ ρ) {place : Nat}
    {moves : List Move} (unheard : ∀ move ∈ moves, move.place = place → move.act.isOfRun = false)
    (schedule : Schedule σ ρ) : listener.overhear plan place moves schedule = [] := by
  -- Only a start or the end of a wait brings replies.
  induction moves generalizing schedule with
  | nil => rfl
  | cons move rest ih =>
    rw [overhear, ih (fun later member => unheard later (List.mem_cons_of_mem _ member)), List.append_nil]
    split
    · next own =>
      have apart := unheard move List.mem_cons_self own
      unfold hear
      split
      · next starts => simp [starts, Act.isOfRun] at apart
      · next wakes => simp [wakes, Act.isOfRun] at apart
      · rfl
    · rfl

namespace Suite

/-- A case whose task did not die is reported to have failed. -/
def FailsAt (cases : List TestCase) (session : Session) (now : Duration) (ended : Schedule σ ρ)
    (place : Nat) : Prop :=
  -- A case whose task died is reported as a failure as well.
  ∃ case stage result, ended.slots[place]? = some ⟨case, stage⟩ ∧ stage.isDead = false ∧
    (conclude cases session now ended).1.results[place]? = some result ∧ result.isFailure = true

/-- How failures stop a suite that runs one case at a time, in line. -/
structure StopsInLine (backend : Backend σ ρ) (config : SuiteConfig) (cases : List TestCase)
    (session : Session) (now : Duration) (world : σ) (moves : List Move) (ended : Schedule σ ρ) : Prop where
  /-- Behind a failure every case is reported as skipped, and nothing is asked for it. -/
  later : ∀ first place case, first < place → FailsAt cases session now ended first →
    cases[place]? = some case →
    (conclude cases session now ended).1.results[place]? = some (.skipped case.name) ∧
      (∀ move ∈ moves, move.place = place → move.act.isOfRun = false) ∧
      ∀ (κ : Type) (listener : Listener σ ρ κ),
        repliesTo listener backend config cases session now world moves place = []
  /-- Every case that no failure comes before is started. -/
  earlier : ∀ place case, cases[place]? = some case →
    (∀ first, first < place → ¬FailsAt cases session now ended first) → ⟨place, .start⟩ ∈ moves

variable {backend : Backend σ ρ} {config : SuiteConfig} {cases : List TestCase} {session : Session}
  {now : Duration} {world : σ} {moves : List Move} {ended : Schedule σ ρ} {place : Nat}

/-- A case is reported to have failed, without its task having died, exactly when it has handed over a failure. -/
theorem Completed.failsAt_iff (completed : Completed backend config cases session now world moves ended) :
    FailsAt cases session now ended place ↔ ∃ case result,
      ended.slots[place]? = some ⟨case, .reported result⟩ ∧ result.isFailure = true := by
  -- At the end a case was reported, or its task died.
  constructor
  · rintro ⟨case, stage, result, found, alive, entry, failed⟩
    have finished := List.all_eq_true.1 completed.allOver _ (List.mem_of_getElem? found)
    cases stage with
    | reported told =>
      rw [completed.entry found] at entry
      cases entry
      exact ⟨case, _, found, failed⟩
    | dead => cases alive
    | _ => cases finished
  · rintro ⟨case, result, reported, failed⟩
    exact ⟨case, _, result, reported, rfl, completed.entry reported, failed⟩

/-- One case at a time, in line, a suite is stopped by the first failure that is reported. -/
theorem Completed.stopsInLine (completed : Completed backend config cases session now world moves ended)
    (single : config.effectiveConcurrency = 1) (stops : config.stopOnFirstFailure = true)
    (inLine : (Schedule.ofCases config.policy cases now world).keepsLine
      ⟨backend, session.environment, config.policy⟩ moves = true) :
    StopsInLine backend config cases session now world moves ended := by
  -- A case that is done with was started, or was passed over and hands over that it was skipped.
  have standing {place : Nat} {case : TestCase} (named : cases[place]? = some case) :
      ∃ stage, ended.slots[place]? = some ⟨case, stage⟩ ∧ stage.isOver = true := by
    obtain ⟨stage, _, found, _⟩ := completed.getElem?_gatherReports (List.Perm.refl _) place case named
    exact ⟨stage, found, List.all_eq_true.1 completed.allOver _ (List.mem_of_getElem? found)⟩
  have past {stage : CaseStage ρ} (finished : stage.isOver = true) : stage.isPast = true := by
    cases stage with
    | reported result => rfl
    | dead => rfl
    | _ => cases finished
  refine ⟨fun first place case before failure named => ?_, fun place case named unfailed => ?_⟩
  · obtain ⟨own, result, reported, failed⟩ := completed.failsAt_iff.1 failure
    obtain ⟨stage, found, finished⟩ := standing named
    have never := Schedule.not_start_of_failure single stops completed.followed inLine before reported failed found
    have unheard : ∀ move ∈ moves, move.place = place → move.act.isOfRun = false := fun move member own =>
      Schedule.not_isOfRun_of_not_start completed.followed never member own
    refine ⟨?_, unheard, fun κ listener => listener.overhear_eq_nil _ unheard _⟩
    have told := (Schedule.passedOver_of_not_start completed.followed found (past finished) never).told
    cases stage with
    | reported result =>
      rw [completed.entry found]
      exact told
    | dead => cases told
    | _ => cases finished
  · obtain ⟨stage, found, finished⟩ := standing named
    refine Decidable.not_not.1 fun never => ?_
    obtain ⟨first, before, own, result, reported, failed⟩ := Schedule.failure_of_not_start single stops
      completed.followed inLine found (past finished) never
    exact unfailed first before (completed.failsAt_iff.2 ⟨own, result, reported, failed⟩)

/-- On an honest backend the result of a case that was started does not tell that it was skipped. -/
theorem Completed.outcome_ne_of_start {Since : Duration → ρ → Prop} (honest : backend.Honest Since)
    (completed : Completed backend config cases session now world moves ended)
    (started : ⟨place, .start⟩ ∈ moves) {case : TestCase} (named : cases[place]? = some case) :
    ∃ result, (conclude cases session now ended).1.results[place]? = some result ∧
      result.outcome ≠ .skipped := by
  -- It was reported, or its task died, which counts as an error.
  obtain ⟨stage, result, found, entry, rfl | ⟨rfl, rfl⟩⟩ :=
    completed.getElem?_gatherReports (List.Perm.refl _) place case named
  · exact ⟨result, entry, Schedule.outcome_ne_of_start honest completed.followed started found rfl⟩
  · exact ⟨_, entry, PipelineResult.outcome_errored_ne _ _ _ _ _⟩

/--
With one case at a time, in line, and failures that stop the suite, all behind a failure are skipped and ask nothing.

A failure is any report of one, from a pipeline that does not load, a verdict, an error or the end of the time for a
case, but not the death of a task. No case is skipped that no failure comes before.
-/
theorem stops_in_line (config : SuiteConfig) (cases : List TestCase) (session : Session) (now : Duration)
    (moves : List Move) (single : config.effectiveConcurrency = 1) (stops : config.stopOnFirstFailure = true) :
    (∀ (σ ρ : Type) (backend : Backend σ ρ) (world : σ) (ended : Schedule σ ρ),
      Completed backend config cases session now world moves ended →
      (Schedule.ofCases config.policy cases now world).keepsLine
          ⟨backend, session.environment, config.policy⟩ moves = true →
        StopsInLine backend config cases session now world moves ended) ∧
    (∀ (σ : Type) (executor : Executor σ) (settings : EngineSettings) (world : σ)
        (ended : Schedule σ Engine.Pending),
      Completed (Engine.backend executor settings) config cases session now world moves ended →
      (Schedule.ofCases config.policy cases now world).keepsLine
          ⟨Engine.backend executor settings, session.environment, config.policy⟩ moves = true →
        ∀ place, place < cases.length →
          (∀ first, first < place → ¬FailsAt cases session now ended first) →
          ∃ result, (conclude cases session now ended).1.results[place]? = some result ∧
            result.outcome ≠ .skipped) ∧
    (∀ (σ : Type) (platform : Platform σ) (patience : Patience) (verdictKey : String) (world : σ)
        (ended : Schedule σ RemoteRun),
      Completed (Polling.backend platform patience verdictKey session.id) config cases session now world
        moves ended →
      (Schedule.ofCases config.policy cases now world).keepsLine
          ⟨Polling.backend platform patience verdictKey session.id, session.environment, config.policy⟩
          moves = true →
        ∀ place, place < cases.length →
          (∀ first, first < place → ¬FailsAt cases session now ended first) →
          ∃ result, (conclude cases session now ended).1.results[place]? = some result ∧
            result.outcome ≠ .skipped) := by
  -- A case that was started is not reported as skipped by an honest backend.
  refine ⟨?_, ?_, ?_⟩
  · intro σ ρ backend world ended completed inLine
    exact completed.stopsInLine single stops inLine
  · intro σ executor settings world ended completed inLine place inside unfailed
    have named := List.getElem?_eq_getElem inside
    have started := (completed.stopsInLine single stops inLine).earlier place _ named unfailed
    exact completed.outcome_ne_of_start (Engine.backend_honest executor settings) started named
  · intro σ platform patience verdictKey world ended completed inLine place inside unfailed
    have named := List.getElem?_eq_getElem inside
    have started := (completed.stopsInLine single stops inLine).earlier place _ named unfailed
    exact completed.outcome_ne_of_start
      (Polling.backend_honest platform patience verdictKey session.id) started named

/-- Of three cases in line the first fails: on a backend told how, on the engine, and on a platform that is down. -/
theorem stops_in_line_trio :
    (∃ ended, StopsInLine .prepared lineConfig trio ⟨"session", Dictionary.empty⟩ Duration.zero
        [.finished (.aborted "first" (.aborted "stopped") Duration.zero)] (lineMoves []) ended ∧
      FailsAt trio ⟨"session", Dictionary.empty⟩ Duration.zero ended 0) ∧
    (∃ ended result, Completed (Engine.backend .prepared .default) lineConfig trio
        ⟨"session", Dictionary.empty⟩ Duration.zero [] (lineMoves []) ended ∧
      (conclude trio ⟨"session", Dictionary.empty⟩ Duration.zero ended).1.results[0]? = some result ∧
      result.outcome ≠ .skipped) ∧
    (∃ ended result, Completed (Polling.backend .prepared .default "ok" "session") lineConfig trio
        ⟨"session", Dictionary.empty⟩ Duration.zero downReplies (lineMoves [.wake]) ended ∧
      (conclude trio ⟨"session", Dictionary.empty⟩ Duration.zero ended).1.results[0]? = some result ∧
      result.outcome ≠ .skipped) := by
  -- The orders are possible, and the cases keep the line in them.
  have unfailed (failsAt : Nat → Prop) : ∀ first, first < 0 → ¬failsAt first := by simp
  have any := (stops_in_line lineConfig trio ⟨"session", Dictionary.empty⟩ Duration.zero (lineMoves []) rfl
    rfl).1 _ _ .prepared [.finished (.aborted "first" (.aborted "stopped") Duration.zero)] _ ⟨rfl, rfl⟩ rfl
  obtain ⟨localResult, entry, unskipped⟩ := (stops_in_line lineConfig trio ⟨"session", Dictionary.empty⟩
    Duration.zero (lineMoves []) rfl rfl).2.1 _ .prepared .default [] _ ⟨rfl, rfl⟩ rfl 0 (by decide)
    (unfailed _)
  obtain ⟨remoteResult, remoteEntry, remoteUnskipped⟩ := (stops_in_line lineConfig trio
    ⟨"session", Dictionary.empty⟩ Duration.zero (lineMoves [.wake]) rfl rfl).2.2 _ .prepared .default "ok"
    downReplies _ ⟨rfl, rfl⟩ rfl 0 (by decide) (unfailed _)
  exact ⟨⟨_, any, _, _, _, rfl, rfl, rfl, rfl⟩, ⟨_, localResult, ⟨rfl, rfl⟩, entry, unskipped⟩,
    ⟨_, remoteResult, ⟨rfl, rfl⟩, remoteEntry, remoteUnskipped⟩⟩

/-- The first of two runs dies at its first call; the second has what it needs. -/
def dyingResponses : List (Response (Except NodeError Json)) :=
  -- No response takes time.
  [.crash Duration.zero, .answer Duration.zero (.ok (.text "up")),
    .answer Duration.zero (.ok (.boolean true))]

/-- The order in which two runs take one slot in line when the first of them dies. -/
def dyingMoves : List Move :=
  -- The first run has no report to hand over.
  [⟨0, .enter⟩, ⟨0, .check⟩, ⟨0, .start⟩, ⟨0, .wake⟩, ⟨1, .enter⟩, ⟨1, .check⟩, ⟨1, .start⟩, ⟨1, .wake⟩,
    ⟨1, .wake⟩, ⟨1, .announce⟩, ⟨1, .leave⟩]

/-- A case whose task dies is reported as an error, and yet the case behind it is run, makes its calls and passes. -/
theorem runs_behind_death :
    lineConfig.effectiveConcurrency = 1 ∧ lineConfig.stopOnFirstFailure = true ∧ ∃ ended first second,
      Completed (Engine.backend .prepared .default) lineConfig twins ⟨"session", Dictionary.empty⟩
        Duration.zero dyingResponses dyingMoves ended ∧
      (Schedule.ofCases lineConfig.policy twins Duration.zero dyingResponses).keepsLine
        ⟨Engine.backend .prepared .default, Dictionary.empty, lineConfig.policy⟩ dyingMoves = true ∧
      (conclude twins ⟨"session", Dictionary.empty⟩ Duration.zero ended).1.results = [first, second] ∧
      first.outcome = .errored ∧ second.outcome = .passed ∧
      (repliesTo (Engine.listener .prepared .default) (Engine.backend .prepared .default) lineConfig twins
        ⟨"session", Dictionary.empty⟩ Duration.zero dyingResponses dyingMoves 1).length = 2 := by
  -- The death frees the slot without halting the suite.
  exact ⟨rfl, rfl, _, _, _, ⟨rfl, rfl⟩, rfl, rfl, rfl, rfl, rfl⟩

end Suite

end PipelineTrial
